import KuWarden.Adapters.Protocols
import Mathlib.Data.List.Sort

/-!
An application's declaration of how its changes are delivered, and its parser.

The parser works on the value the YAML reader built. Numbers it stores without a
conversion stay values, because nothing here has checked that they are numbers.
-/
namespace KuWarden

structure RepoConfig where
  name : String
  provider : String
  org : String
  repo : String
  project : Option String := none
  path : String := "."
  deriving DecidableEq

def RepoConfig.ref (r : RepoConfig) : RepoRef where
  host := if r.provider = "github" then "github.com" else "dev.azure.com"
  org := r.org
  repo := r.repo
  project := r.project

structure TriggerConfig where
  provider : String
  project : String
  site : Option String := none
  accountEmail : Option String := none
  organisation : Option String := none
  label : Option String := none
  readyState : Option String := none
  maxStoryPoints : Value := .null
  storyPointsField : Option String := none

def TriggerConfig.ref (t : TriggerConfig) (ticketId : String) : TicketRef where
  system := t.provider
  project := t.project
  id := ticketId

def allVerifiers : List String :=
  ["correctness", "security", "test_evidence", "regression_risk"]

/-- `blocking` is a set, kept in the order of `ALL_VERIFIERS`. -/
structure VerificationConfig where
  blocking : List String := allVerifiers
  deriving DecidableEq

structure RiskConfig where
  highPaths : List String := []
  mediumPaths : List String := []
  highLabels : List String := []
  mediumChangedFiles : Value := .null
  highChangedFiles : Value := .null

structure SandboxConfig where
  toolchainImage : String
  testCommand : List String
  memoryMb : Int := 2048
  cpus : PyFloat := .finite 2
  pids : Int := 256
  timeoutS : Int := 600
  tmpMb : Int := 512
  requireFullIsolation : Bool := false
  deriving DecidableEq

/-- `poll_s` is what advances the clock of the poll loop. -/
structure CiConfig where
  provider : String
  waitS : Int := 900
  pollS : Int := 15
  graceS : Int := 90
  requiredWorkflows : List String := []
  poll_pos : 1 ≤ pollS

structure NodeModel where
  model : String
  effort : String := "high"
  maxTokens : Int := 8192
  deriving DecidableEq

inductive Provider
  | anthropic | azureOpenai | openaiCompatible | bedrock
  deriving DecidableEq, Repr

namespace Provider

def value : Provider → String
  | .anthropic => "anthropic"
  | .azureOpenai => "azure_openai"
  | .openaiCompatible => "openai_compatible"
  | .bedrock => "bedrock"

def all : List Provider := [.anthropic, .azureOpenai, .openaiCompatible, .bedrock]

/-- `Provider(declared)`. -/
def ofValue? (declared : Value) : Option Provider :=
  all.find? fun provider => declared.isStr provider.value

end Provider

/-- `per_node` is keyed as the mapping it came from is; only strings are looked up. -/
structure LLMConfig where
  provider : Provider
  perNode : List (Value × NodeModel) := []
  baseUrl : Option String := none

structure AutoMergeConfig where
  enabled : Bool := false
  maxRiskTier : RiskTier := .low
  maxFilesChanged : Option Int := none
  requireExternalAnchor : Bool := true
  deriving DecidableEq

structure AppConfig where
  name : String
  repos : List RepoConfig
  triggers : List TriggerConfig
  integrationModel : IntegrationModel
  sandbox : SandboxConfig
  autoMerge : AutoMergeConfig := {}
  toolchainId : String := "none"
  risk : RiskConfig := {}
  llm : Option LLMConfig := none
  ci : Option CiConfig := none
  verification : VerificationConfig := {}
  budgetCentsPerRun : Int := 0
  maxCoderRetries : Int := 3
  defaultRiskTier : RiskTier := .low

def configError (message : String) : PyError := ⟨.configError, message, none⟩

def LLMConfig.entry? (llm : LLMConfig) (key : String) : Option NodeModel :=
  (llm.perNode.find? fun entry => entry.1.isStr key).map Prod.snd

def LLMConfig.forNode (llm : LLMConfig) (nodeId : String) : Except PyError NodeModel :=
  match llm.entry? nodeId with
  | some settings => .ok settings
  | none =>
      match llm.entry? "verifiers" with
      | some settings =>
          if Text.startsWith "verifier." nodeId then .ok settings
          else .error (configError ("llm has no model configured for node " ++
            Text.repr nodeId))
      | none => .error (configError ("llm has no model configured for node " ++
          Text.repr nodeId))

/-- `config.primary`, which raises on a configuration without repositories. -/
def AppConfig.primary (config : AppConfig) : Except PyError RepoConfig :=
  match config.repos with
  | repo :: _ => .ok repo
  | [] => .error ⟨.indexError, "list index out of range", none⟩

namespace Config

def index (what : String) (i : Nat) : String := what ++ "[" ++ Text.ofNat i ++ "]"

/-- `raise ConfigError(f"{before}{v!r}{after}")`. -/
def refuse {α : Type} (before : String) (v : Value) (after : String := "") : Except PyError α := do
  let shown ← v.shown
  throw (configError (before ++ shown ++ after))

/-- `str(v) if v else None`. -/
def optionalText (v : Value) : Except PyError (Option String) :=
  if v.truthy then v.printed.map some else .ok none

/-- `[str(v) for v in values]`. -/
def printEach : List Value → Except PyError (List String)
  | [] => .ok []
  | v :: rest => do
      let first ← v.printed
      let others ← printEach rest
      return first :: others

/-- `[f(entry, i) for i, entry in enumerate(entries)]`. -/
def parseEach {α : Type} (f : Value → Nat → Except PyError α) :
    Nat → List Value → Except PyError (List α)
  | _, [] => .ok []
  | i, entry :: rest => do
      let first ← f entry i
      let others ← parseEach f (i + 1) rest
      return first :: others

/-- `v`, which must be a mapping or `message` is raised. -/
def requireDict (v : Value) (message : String) : Except PyError Dict :=
  match v with
  | .dict entries => .ok entries
  | _ => .error (configError message)

def mapping (raw : Dict) (key : String) : Except PyError Dict :=
  requireDict (raw.get key) (key ++ " must be a mapping")

def sequence (raw : Dict) (outer inner : String) : Except PyError (List Value) := do
  let section_ ← mapping raw outer
  match section_.get inner with
  | .list entries => .ok entries
  | _ => .error (configError (outer ++ "." ++ inner ++ " must be a list"))

def repo (entry : Value) (i : Nat) : Except PyError RepoConfig := do
  let name := index "workspace.repos" i
  let entry ← requireDict entry (name ++ " must be a mapping")
  let provider ← (entry.getD "provider" (.str "")).printed
  if provider ≠ "github" ∧ provider ≠ "azure_repos" then
    throw (configError (name ++ ".provider must be github or azure_repos, got " ++
      Text.repr provider))
  if provider = "azure_repos" ∧ ¬ (entry.get "project").truthy then
    throw (configError (name ++ " is azure_repos and needs a project"))
  for required in ["name", "org", "repo"] do
    if ¬ (entry.get required).truthy then
      throw (configError (name ++ "." ++ required ++ " is required"))
  let name ← (entry.get "name").printed
  let org ← (entry.get "org").printed
  let repo ← (entry.get "repo").printed
  let project ← optionalText (entry.get "project")
  let path ← (entry.getD "path" (.str ".")).printed
  return { name, provider, org, repo, project, path }

def trigger (entry : Value) (i : Nat) : Except PyError TriggerConfig := do
  let name := index "triggers" i
  let entry ← requireDict entry (name ++ " must be a mapping")
  let provider ← (entry.getD "provider" (.str "")).printed
  if provider ≠ "jira" ∧ provider ≠ "azure_devops" then
    throw (configError (name ++ ".provider must be jira or azure_devops, got " ++
      Text.repr provider))
  if provider = "jira" ∧ ¬ (entry.get "site").truthy then
    throw (configError (name ++ " is jira and needs a site url"))
  if provider = "azure_devops" ∧ ¬ (entry.get "organisation").truthy then
    throw (configError (name ++ " is azure_devops and needs an organisation"))
  if ¬ (entry.get "project").truthy then
    throw (configError (name ++ ".project is required"))
  let project ← (entry.get "project").printed
  let site ← optionalText (entry.get "site")
  let accountEmail ← optionalText (entry.get "account_email")
  let organisation ← optionalText (entry.get "organisation")
  let label ← optionalText (entry.get "label")
  let readyState ← optionalText (entry.get "ready_state")
  let storyPointsField ← optionalText (entry.get "story_points_field")
  return {
    provider, project, site, accountEmail, organisation, label, readyState
    maxStoryPoints := entry.get "max_story_points"
    storyPointsField }

/-- `raise ConfigError(f"llm.{node_id} needs a model")`. -/
def needsModel {α : Type} (nodeId : Value) : Except PyError α := do
  let nodeId ← nodeId.printed
  throw (configError ("llm." ++ nodeId ++ " needs a model"))

/-- The node entries of the `llm` section, in the order they are declared. A repeated
key cannot occur: they are the keys of one mapping. -/
def nodeModels : Dict → Except PyError (List (Value × NodeModel))
  | [] => .ok []
  | (nodeId, entry) :: rest => do
      if nodeId.isStr "provider" ∨ nodeId.isStr "base_url" then
        nodeModels rest
      else
        let .dict entry := entry | needsModel nodeId
        if ¬ (Dict.get entry "model").truthy then needsModel nodeId
        let model ← (Dict.get entry "model").printed
        let effort ← (Dict.getD entry "effort" (.str "high")).printed
        let maxTokens ← (Dict.getD entry "max_tokens" (.int 8192)).toInt
        let others ← nodeModels rest
        return (nodeId, { model, effort, maxTokens }) :: others

def llm (raw : Value) : Except PyError (Option LLMConfig) :=
  match raw with
  | .null => .ok none
  | raw => do
      let raw ← requireDict raw "llm must be a mapping"
      let declared := raw.get "provider"
      if declared matches .null then
        throw (configError ("llm.provider must be declared explicitly (one of " ++
          Text.join ", " (Provider.all.map Provider.value) ++ ")"))
      let some provider := Provider.ofValue? declared
        | refuse "unknown llm.provider " declared
      for forbidden in ["api_key", "key", "token", "secret"] do
        if raw.has forbidden then
          throw (configError ("llm." ++ forbidden ++ " must not appear in kuwarden.yaml; " ++
            "credentials are resolved by the broker from the environment or the secret store"))
      let perNode ← nodeModels raw
      let baseUrl ← optionalText (raw.get "base_url")
      return some { provider, perNode, baseUrl }

/-- The keys of `declared` that name no verifier. -/
def unknownVerifiers (declared : Dict) : List Value :=
  (declared.map Prod.fst).filter fun key => allVerifiers.all fun name => !key.isStr name

/-- `", ".join(sorted(values))`, which needs every value to be a string. -/
def sortedNames (values : List Value) : Except PyError String :=
  match values.mapM fun | .str s => some s | _ => none with
  | some names => .ok (Text.join ", " (names.insertionSort (· ≤ ·)))
  | none => .error (Value.typeError "sequence item 0: expected str instance")

def verification (raw : Value) : Except PyError VerificationConfig :=
  match raw with
  | .null => .ok {}
  | raw => do
      let raw ← requireDict raw "verification must be a mapping"
      match raw.get "verifiers" with
      | .null => .ok {}
      | declared => do
          let declared ← requireDict declared
            "verification.verifiers must be a mapping of name to true/false"
          let unknown := unknownVerifiers declared
          if unknown ≠ [] then
            let names ← sortedNames unknown
            throw (configError ("unknown verifier(s) " ++ names ++ "; expected any of " ++
              Text.join ", " allVerifiers))
          return { blocking := allVerifiers.filter fun name =>
            (declared.getD name (.bool true)).truthy }

/-- `isinstance(v, int)`: a boolean is one. -/
def asInt? : Value → Option Int
  | .int n => some n
  | .bool b => some (if b then 1 else 0)
  | _ => none

/-- `tier not in RISK_TIER_ORDER`, which raises on a value that cannot be a key. -/
def riskTier (v : Value) : Except PyError RiskTier :=
  match v with
  | .list _ | .dict _ | .set _ =>
      .error (Value.typeError ("unhashable type: '" ++ v.typeName ++ "'"))
  | v =>
      match RiskTier.all.find? fun tier => v.isStr tier.text with
      | some tier => .ok tier
      | none => refuse "unknown auto_merge.max_risk_tier " v
          ("; expected one of " ++ Text.join ", " (RiskTier.all.map RiskTier.text))

def maxFiles (v : Value) : Except PyError (Option Int) :=
  match v with
  | .null => .ok none
  | v =>
      match asInt? v with
      | some n =>
          if n < 1 then
            .error (configError
              "auto_merge.max_files_changed must be a positive integer, or absent")
          else .ok (some n)
      | none => .error (configError
          "auto_merge.max_files_changed must be a positive integer, or absent")

def autoMerge (raw : Value) (model : IntegrationModel) : Except PyError AutoMergeConfig :=
  match raw with
  | .null => .ok {}
  | raw => do
      let raw ← requireDict raw "delivery.auto_merge must be a mapping"
      let enabled := (raw.getD "enabled" (.bool false)).truthy
      if enabled ∧ model ≠ .gatedMerge then
        throw (configError ("delivery.auto_merge is only available under " ++
          "integration_model: gated_merge — this application declares " ++ model.value ++
          ", where KuWarden holds no merge authority (ADR 0004)"))
      let tier ← riskTier (raw.getD "max_risk_tier" (.str "low"))
      let files ← maxFiles (raw.get "max_files_changed")
      return {
        enabled := enabled
        maxRiskTier := tier
        maxFilesChanged := files
        requireExternalAnchor :=
          (raw.getD "require_external_anchor" (.bool true)).truthy }

def ci (raw : Value) : Except PyError (Option CiConfig) :=
  match raw with
  | .null => .ok none
  | raw => do
      let raw ← requireDict raw "ci must be a mapping"
      let provider ← (raw.getD "provider" (.str "")).printed
      if provider ≠ "github_actions" then
        throw (configError ("ci.provider must be github_actions, got " ++
          Text.repr provider))
      let .list required := (raw.get "required_workflows").orElse (.list [])
        | throw (configError
            "ci.required_workflows must be a list of workflow names or paths")
      let pollS ← (raw.getD "poll_s" (.int 15)).toInt
      if poll_pos : 1 ≤ pollS then
        let waitS ← (raw.getD "wait_s" (.int 900)).toInt
        let graceS ← (raw.getD "grace_s" (.int 90)).toInt
        let requiredWorkflows ← printEach required
        return some { provider, waitS, pollS, graceS, poll_pos, requiredWorkflows }
      else throw (configError "ci.poll_s must be at least 1 second")

def noToolchain (what : String) : String :=
  "declares no " ++ what ++ ", so there is nothing to grade a change with. KuWarden will " ++
    "not guess: it used to default to a Python image running `pytest -q`, which meant a " ++
    "repository in any other language got a Build & Test verdict that had verified " ++
    "nothing. Build an image from this application's own dependency manifest — `uv run " ++
    "python -m engine.sandbox build-app --recipe <ecosystem> --name <app> --manifest " ++
    "<checkout>` — then declare `sandbox.toolchain_image` and `sandbox.test_command`."

def sandbox (raw : Value) : Except PyError SandboxConfig :=
  match raw with
  | .null => .error (configError (noToolchain "sandbox: section"))
  | raw => do
      let raw ← requireDict raw "sandbox must be a mapping"
      let limits := (raw.get "limits").orElse (.dict [])
      let command := raw.get "test_command"
      if command matches .null then
        throw (configError (noToolchain "sandbox.test_command"))
      let .list command := command
        | throw (configError "sandbox.test_command must be a list of arguments, not a string")
      let image := raw.get "toolchain_image"
      if ¬ image.truthy then
        throw (configError (noToolchain "sandbox.toolchain_image"))
      let toolchainImage ← image.printed
      let limits ← limits.asDict
      let memoryMb ← (limits.getD "memory_mb" (.int 2048)).toInt
      let cpus ← (limits.getD "cpus" (.float (.finite 2) "2.0")).toFloat
      let pids ← (limits.getD "pids" (.int 256)).toInt
      let timeoutS ← (limits.getD "timeout_s" (.int 600)).toInt
      let tmpMb ← (limits.getD "tmp_mb" (.int 512)).toInt
      let testCommand ← printEach command
      return {
        toolchainImage, testCommand, memoryMb, cpus, pids, timeoutS, tmpMb
        requireFullIsolation :=
          (raw.getD "require_full_isolation" (.bool false)).truthy }

/-- `[str(v) for v in section.get(key, [])]`. -/
def textList (entries : Dict) (key : String) : Except PyError (List String) := do
  let values ← (entries.getD key (.list [])).items
  printEach values

def parseDict (raw : Dict) : Except PyError AppConfig := do
  let version := raw.get "version"
  if ¬ version.equalsInt 1 then
    refuse "unsupported kuwarden.yaml version " version "; expected 1"
  let app ← mapping raw "app"
  let .str name := app.get "name" | throw (configError "app.name is required")
  if name = "" then throw (configError "app.name is required")
  let entries ← sequence raw "workspace" "repos"
  let repos ← parseEach repo 0 entries
  if repos = [] then
    throw (configError "workspace.repos must contain at least one repository")
  let declaredTriggers ← ((raw.get "triggers").orElse (.list [])).items
  let triggers ← parseEach trigger 0 declaredTriggers
  let delivery ← mapping raw "delivery"
  let declared := delivery.get "integration_model"
  if declared matches .null then
    throw (configError ("delivery.integration_model must be declared explicitly (one of " ++
      Text.join ", " (IntegrationModel.all.map IntegrationModel.value) ++ ")"))
  let some integrationModel := IntegrationModel.ofValue? declared
    | refuse "unknown integration_model " declared
  let autoMerge ← autoMerge (delivery.get "auto_merge") integrationModel
  let verification ← verification (raw.get "verification")
  let risk_raw := (raw.get "risk").orElse (.dict [])
  let budgets := (raw.get "budgets").orElse (.dict [])
  let llm ← llm (raw.get "llm")
  let sandbox ← sandbox (raw.get "sandbox")
  let ci ← ci (raw.get "ci")
  let toolchain ← (raw.getD "toolchain" (.dict [])).asDict
  let toolchainId ← (toolchain.getD "id" (.str "none")).printed
  let risk ← risk_raw.asDict
  let highPaths ← textList risk "high_paths"
  let mediumPaths ← textList risk "medium_paths"
  let highLabels ← textList risk "high_labels"
  let budgets ← budgets.asDict
  let budgetCentsPerRun ← (budgets.getD "cents_per_run" (.int 0)).toInt
  let flow ← (raw.getD "flow" (.dict [])).asDict
  let maxCoderRetries ← (flow.getD "max_coder_retries" (.int 3)).toInt
  return {
    name, repos, triggers, integrationModel, sandbox, autoMerge, llm, ci, verification
    toolchainId
    risk := {
      highPaths, mediumPaths, highLabels
      mediumChangedFiles := risk.get "medium_changed_files"
      highChangedFiles := risk.get "high_changed_files" }
    budgetCentsPerRun, maxCoderRetries }

/-- `parse(text)`. `safe_load` is the YAML reader, with the message of its error. -/
def parse (safeLoad : String → Except String Value) (text : String) :
    Except PyError AppConfig :=
  match safeLoad text with
  | .error exc => .error (configError ("kuwarden.yaml is not valid YAML: " ++ exc))
  | .ok (.dict raw) => parseDict raw
  | .ok _ => .error (configError "kuwarden.yaml must be a mapping")

/-! ## Reading a parse backwards -/

theorem of_bind_ok {ε α β : Type} {x : Except ε α} {f : α → Except ε β} {b : β}
    (returned : (x >>= f) = .ok b) : ∃ a, x = .ok a ∧ f a = .ok b := by
  cases x with
  | error e => cases returned
  | ok a => exact ⟨a, rfl, returned⟩

theorem refuse_ne_ok {α : Type} {before after : String} {v : Value} (a : α) :
    refuse before v after ≠ .ok a := by
  unfold refuse Value.shown
  split <;> exact fun returned => by cases returned

/-- A check that raises lets nothing through. -/
theorem of_raising_ok {α : Type} {c : Prop} [Decidable c] {x : Except PyError Unit}
    {f : Unit → Except PyError α} {rest : Except PyError α} {a : α} (raises : ∀ u, x ≠ .ok u)
    (returned : (if c then x >>= f else rest) = .ok a) : ¬ c ∧ rest = .ok a := by
  split_ifs at returned with raised
  · obtain ⟨u, passed, -⟩ := of_bind_ok returned
    exact absurd passed (raises u)
  · exact ⟨raised, returned⟩

theorem of_check_ok {α : Type} {c : Prop} [Decidable c] {e : PyError}
    {f : Unit → Except PyError α} {rest : Except PyError α} {a : α}
    (returned : (if c then (throw e : Except PyError Unit) >>= f else rest) = .ok a) :
    ¬ c ∧ rest = .ok a :=
  of_raising_ok (fun _ passed => by cases passed) returned

theorem needsModel_ne_ok {α : Type} {nodeId : Value} (a : α) : needsModel nodeId ≠ .ok a := by
  unfold needsModel Value.printed
  split <;> exact fun returned => by cases returned

/-- What decides the parts of a configuration that later proofs look at. -/
structure Reads (raw : Dict) (config : AppConfig) : Prop where
  verification : verification (raw.get "verification") = .ok config.verification
  triggers : ∃ entries, ((raw.get "triggers").orElse (.list [])).items = .ok entries ∧
    parseEach trigger 0 entries = .ok config.triggers
  llm : llm (raw.get "llm") = .ok config.llm
  thresholds : ∃ risk, (raw.get "risk").orElse (.dict []) = .dict risk ∧
    config.risk.mediumChangedFiles = Dict.get risk "medium_changed_files" ∧
    config.risk.highChangedFiles = Dict.get risk "high_changed_files"

theorem asDict_ok {v : Value} {entries : Dict} (returned : v.asDict = .ok entries) :
    v = .dict entries := by
  unfold Value.asDict at returned
  split at returned
  next => cases returned; rfl
  next => cases returned

theorem parseDict_reads {raw : Dict} {config : AppConfig}
    (accepted : parseDict raw = .ok config) : Reads raw config := by
  unfold parseDict at accepted
  obtain ⟨-, accepted⟩ := of_raising_ok refuse_ne_ok accepted
  obtain ⟨app, -, accepted⟩ := of_bind_ok accepted
  split at accepted
  next name _ =>
    obtain ⟨-, accepted⟩ := of_check_ok accepted
    obtain ⟨entries, -, accepted⟩ := of_bind_ok accepted
    obtain ⟨repos, -, accepted⟩ := of_bind_ok accepted
    obtain ⟨-, accepted⟩ := of_check_ok accepted
    obtain ⟨declared, iterated, accepted⟩ := of_bind_ok accepted
    obtain ⟨triggers, each, accepted⟩ := of_bind_ok accepted
    obtain ⟨delivery, -, accepted⟩ := of_bind_ok accepted
    obtain ⟨-, accepted⟩ := of_check_ok accepted
    split at accepted
    next model _ =>
      obtain ⟨autoMerge, -, accepted⟩ := of_bind_ok accepted
      obtain ⟨verification, verified, accepted⟩ := of_bind_ok accepted
      obtain ⟨llm, modelled, accepted⟩ := of_bind_ok accepted
      obtain ⟨sandbox, -, accepted⟩ := of_bind_ok accepted
      obtain ⟨ci, -, accepted⟩ := of_bind_ok accepted
      obtain ⟨toolchain, -, accepted⟩ := of_bind_ok accepted
      obtain ⟨toolchainId, -, accepted⟩ := of_bind_ok accepted
      obtain ⟨risk, tiered, accepted⟩ := of_bind_ok accepted
      obtain ⟨highPaths, -, accepted⟩ := of_bind_ok accepted
      obtain ⟨mediumPaths, -, accepted⟩ := of_bind_ok accepted
      obtain ⟨highLabels, -, accepted⟩ := of_bind_ok accepted
      obtain ⟨budgets, -, accepted⟩ := of_bind_ok accepted
      obtain ⟨cents, -, accepted⟩ := of_bind_ok accepted
      obtain ⟨flow, -, accepted⟩ := of_bind_ok accepted
      obtain ⟨retries, -, accepted⟩ := of_bind_ok accepted
      cases accepted
      exact {
        verification := verified
        triggers := ⟨declared, iterated, each⟩
        llm := modelled
        thresholds := ⟨risk, asDict_ok tiered, rfl, rfl⟩ }
    next => exact absurd accepted (refuse_ne_ok config)
  next => cases accepted

/-- Whether the verification section configures a verifier as blocking. A verifier that is
not mentioned is. -/
def blocking (raw : Dict) (name : String) : Bool :=
  match raw.get "verification" with
  | .dict section_ =>
      match Dict.get section_ "verifiers" with
      | .dict declared => (Dict.getD declared name (.bool true)).truthy
      | _ => true
  | _ => true

theorem requireDict_ok {v : Value} {message : String} {entries : Dict}
    (returned : requireDict v message = .ok entries) : v = .dict entries := by
  unfold requireDict at returned
  split at returned
  next => cases returned; rfl
  next => cases returned

theorem parseDict_blocking {raw : Dict} {config : AppConfig}
    (accepted : parseDict raw = .ok config) :
    config.verification.blocking = allVerifiers.filter (blocking raw) := by
  have read := (parseDict_reads accepted).verification
  have all : allVerifiers.filter (fun _ => true) = allVerifiers := List.filter_true _
  generalize config.verification = parsed at read
  unfold verification at read
  unfold blocking
  split at read
  next absent =>
    cases read
    simp only [absent, all]
  next present =>
    obtain ⟨entries, found, read⟩ := of_bind_ok read
    simp only [requireDict_ok found]
    split at read
    next absent =>
      cases read
      simp only [absent, all]
    next =>
      obtain ⟨declared, found, read⟩ := of_bind_ok read
      simp only [requireDict_ok found]
      dsimp only at read
      split_ifs at read
      · obtain ⟨_, _, read⟩ := of_bind_ok read
        cases read
      · cases read
        rfl

end Config
end KuWarden
