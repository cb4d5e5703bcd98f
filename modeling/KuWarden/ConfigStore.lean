import KuWarden.Config

/-!
Where an application's configuration comes from: the stored row, which a process caches on the
row's timestamp, or the file of the process itself.

What one application's rows and cache entries hold is no business of another's, so both are
given for one application.
-/
namespace KuWarden

/-- A row of `app_registry`. -/
structure Registered where
  name : String
  integrationModel : IntegrationModel
  deriving DecidableEq

/-- A row of `app_config`; `updated_at` in microseconds. -/
structure StoredConfig where
  yaml : String
  updatedAt : Nat
  updatedBy : String
  deriving DecidableEq

/-- A row of `app_changes`, of the one field that changes. -/
structure ControlPointChange where
  oldValue : IntegrationModel
  newValue : IntegrationModel
  changedBy : String
  reason : String
  deriving DecidableEq

/-- What the database holds about a registered application. -/
structure AppRows where
  registered : Registered
  stored : Option StoredConfig := none
  changes : List ControlPointChange := []
  runs : Nat := 0
  deriving DecidableEq

namespace ConfigStore

/-- `_TTL_SECONDS`, in the microseconds that `monotonic` is given in here. -/
def ttl : Nat := 10 * 1000000

/-- A resolved configuration, the timestamp of its row, and when it expires. -/
structure Entry where
  config : AppConfig
  stamp : Nat
  expires : Nat

/-- The machine a process runs on: what reading its `KUWARDEN_CONFIG` gives, if it is a file. -/
structure Host where
  file : Option (Except PyError String) := none

variable (safeLoad : String → Except String Value)

def fromFile (host : Host) (name : Option String) : Except PyError AppConfig :=
  match host.file with
  | none => .error ⟨.policyDenied,
      "no configuration stored for " ++ ((nonEmpty name).getD "this application") ++
        ", and this worker has no fallback file. Add it on the application's page in the " ++
        "Workbench.", none⟩
  | some contents => do
      let text ← contents
      Config.parse safeLoad text

/-- `fallback or _from_file(name)`. -/
def own (host : Host) (fallback : Option AppConfig) (name : Option String) :
    Except PyError AppConfig :=
  match fallback with
  | some config => .ok config
  | none => fromFile safeLoad host name

def unexpired (cached : Option Entry) (now : Nat) : Option Entry :=
  cached.filter fun entry => entry.expires > now

/-- The stored row, parsed, under the control point the registry declares. -/
def governed (registered : Registered) (yaml : String) : Except PyError AppConfig :=
  match Config.parse safeLoad yaml with
  | .error exc =>
      if exc.kind = .configError then
        .error ⟨.policyDenied, "the stored configuration for " ++ Text.repr registered.name ++
          " does not parse: " ++ exc.message ++
          ". Fix it in the Workbench; runs for this application cannot start until it does.",
          none⟩
      else .error exc
  | .ok config =>
      if config.integrationModel ≠ registered.integrationModel then
        .error ⟨.policyDenied, Text.repr registered.name ++
          " is registered with control point " ++
          Text.repr registered.integrationModel.value ++
          " but its stored kuwarden.yaml declares " ++
          Text.repr config.integrationModel.value ++ ". The registry is authoritative — " ++
          "it is the one changed through an audited endpoint — so this is refused rather " ++
          "than silently resolved. Make them agree.", none⟩
      else .ok config

variable {safeLoad} in
theorem governed_ok {registered : Registered} {yaml : String} {config : AppConfig}
    (answered : governed safeLoad registered yaml = .ok config) :
    Config.parse safeLoad yaml = .ok config ∧
      config.integrationModel = registered.integrationModel := by
  unfold governed at answered
  split at answered
  next exc same =>
      split at answered
      · cases answered
      · cases answered
  next parsed same =>
      split at answered
      · cases answered
      next agrees =>
          cases answered
          exact ⟨same, not_not.mp agrees⟩

variable {safeLoad} in
/-- What parses is refused for its control point alone. -/
theorem governed_error {registered : Registered} {yaml : String} {config : AppConfig}
    {exc : PyError} (read : Config.parse safeLoad yaml = .ok config)
    (answered : governed safeLoad registered yaml = .error exc) : exc.kind = .policyDenied := by
  simp only [governed, read] at answered
  split at answered
  · cases answered
    rfl
  · cases answered

/-- What follows the query: the answer, and the cache entry it leaves. -/
def consult (host : Host) (appId : UUID) (fallback : Option AppConfig) (now : Nat)
    (cached : Option Entry) : Option AppRows → Except PyError AppConfig × Option Entry
  | none => (.error ⟨.policyDenied, "no application " ++ appId.text ++ " is registered", none⟩,
      cached)
  | some row =>
      match row.stored with
      | none => (own safeLoad host fallback (some row.registered.name), cached)
      | some stored =>
          match cached.filter fun entry => entry.stamp = stored.updatedAt with
          | some entry =>
              (.ok entry.config, some ⟨entry.config, stored.updatedAt, now + ttl⟩)
          | none =>
              match governed safeLoad row.registered stored.yaml with
              | .error exc => (.error exc, cached)
              | .ok config => (.ok config, some ⟨config, stored.updatedAt, now + ttl⟩)

/-- `resolve`, with the entry the process then holds. -/
def resolve (host : Host) (appId : Option UUID) (fallback : Option AppConfig) (now : Nat)
    (cached : Option Entry) (row : Option AppRows) :
    Except PyError AppConfig × Option Entry :=
  match appId with
  | none => (own safeLoad host fallback none, cached)
  | some appId =>
      match unexpired cached now with
      | some entry => (.ok entry.config, cached)
      | none => consult safeLoad host appId fallback now cached row

end ConfigStore
end KuWarden
