import KuWarden.Errors
import KuWarden.Python.Base64
import KuWarden.Python.Letters
import KuWarden.Python.Utf8
import KuWarden.State

/-!
Tenant credentials, encrypted with a local master key.

The cipher is a parameter, ideal in that it decrypts nothing that was not encrypted under the
same key, nonce and associated data. So is the fingerprint of a key, of which nothing is used.
-/
namespace KuWarden.Secrets

inductive CredentialKind
  | ticketReadWrite | scmRead | scmWriteBranch | scmPullRequest | scmMerge
  | ciRead | ciTrigger | deploy | llmApiKey
  deriving DecidableEq, Repr

def CredentialKind.value : CredentialKind → String
  | .ticketReadWrite => "ticket.read_write"
  | .scmRead => "scm.read"
  | .scmWriteBranch => "scm.write_branch"
  | .scmPullRequest => "scm.pull_request"
  | .scmMerge => "scm.merge"
  | .ciRead => "ci.read"
  | .ciTrigger => "ci.trigger"
  | .deploy => "deploy"
  | .llmApiKey => "llm.api_key"

structure Secret where
  reveal : String
  deriving DecidableEq

structure CredentialRequest where
  kind : CredentialKind
  realm : String

/-! ## The master key -/

def keyVariable : String := "KUWARDEN_SECRET_KEY"

def keyBytes : Nat := 32

structure MasterKey where
  bytes : Bytes
  length : bytes.length = keyBytes
  deriving DecidableEq

def secretKeyError (message : String) : PyError := ⟨.secretKeyError, message, none⟩

/-- `generate_master_key()`, with the bytes it drew. -/
def generateMasterKey (key : MasterKey) : String :=
  String.ofList (Base64.urlsafeB64encode key.bytes)

/-- `_load_master_key(None)`, in a process with this environment. -/
def loadMasterKey (environ : String → Option String) : Except PyError MasterKey :=
  match nonEmpty (environ keyVariable) with
  | none => .error (secretKeyError (keyVariable ++ " is not set. Generate one with " ++
      "`uv run python -m engine.adapters.secrets keygen` and put it in .env — " ++
      "losing it means every stored credential must be re-entered."))
  | some material =>
      match Base64.urlsafeB64decode material.toList with
      | none => .error (secretKeyError (keyVariable ++ " is not valid base64url"))
      | some bytes =>
          if length : bytes.length = keyBytes then .ok ⟨bytes, length⟩
          else .error (secretKeyError (keyVariable ++ " must decode to " ++
            Text.ofNat keyBytes ++ " bytes, got " ++ Text.ofNat bytes.length))

/-! ## The store -/

/-- Authenticated encryption, with its ciphertexts. -/
structure Aead (C : Type) where
  encrypt : MasterKey → (nonce plaintext associated : Bytes) → C
  decrypt : MasterKey → (nonce : Bytes) → C → (associated : Bytes) → Option Bytes
  decrypt_encrypt : ∀ key nonce plaintext associated,
    decrypt key nonce (encrypt key nonce plaintext associated) associated = some plaintext
  ideal : ∀ key key' nonce nonce' plaintext plaintext' associated associated',
    decrypt key nonce (encrypt key' nonce' plaintext' associated') associated =
      some plaintext → key' = key ∧ nonce' = nonce ∧ associated' = associated

/-- `_associated_data`: the slot a ciphertext is bound to. -/
def associatedData (appId : UUID) (kind : CredentialKind) : Bytes :=
  Utf8.encode ("kuwarden/v1/" ++ appId.text ++ "/" ++ kind.value)

structure Row (C : Type) where
  keyId : String
  nonce : Bytes
  ciphertext : C

/-- `app_credentials`, by its primary key `(app_id, kind)`. -/
abbrev AppCredentials (C : Type) := UUID → String → Option (Row C)

def AppCredentials.upsert {C : Type} (rows : AppCredentials C) (appId : UUID) (kind : String)
    (row : Option (Row C)) : AppCredentials C :=
  fun a k => if a = appId ∧ k = kind then row else rows a k

/-- Scoped to one application when it is made. -/
structure EncryptedPostgresStore where
  appId : UUID
  key : MasterKey

section Store

variable {C : Type} (aead : Aead C) (keyFingerprint : MasterKey → String)

namespace EncryptedPostgresStore

variable (store : EncryptedPostgresStore)

def resolve (request : CredentialRequest) (rows : AppCredentials C) : Except PyError Secret :=
  match rows store.appId request.kind.value with
  | none => .error ⟨.policyDenied, "no credential stored for " ++ request.kind.value ++
      " on application " ++ store.appId.text, none⟩
  | some row =>
      if row.keyId ≠ keyFingerprint store.key then
        .error (secretKeyError (request.kind.value ++ " was encrypted with key " ++
          row.keyId ++ ", but " ++ keyVariable ++ " is key " ++ keyFingerprint store.key ++
          "; the credential must be re-entered or the original key restored"))
      else
        match aead.decrypt store.key row.nonce row.ciphertext
            (associatedData store.appId request.kind) with
        | none => .error (secretKeyError (request.kind.value ++ " failed to decrypt; the " ++
            "ciphertext has been altered or moved between rows"))
        | some plaintext =>
            match Utf8.decode plaintext with
            | none => .error ⟨.valueError, "invalid UTF-8", none⟩
            | some value => .ok ⟨value⟩

/-- The row that `put` writes, with the nonce it drew. -/
def sealed (appId : UUID) (kind : CredentialKind) (secret : Secret) (nonce : Bytes) : Row C where
  keyId := keyFingerprint store.key
  nonce := nonce
  ciphertext := aead.encrypt store.key nonce (Utf8.encode secret.reveal)
    (associatedData appId kind)

def put (appId : UUID) (kind : CredentialKind) (secret : Secret) (nonce : Bytes)
    (rows : AppCredentials C) : Except PyError (AppCredentials C) :=
  if appId ≠ store.appId then
    .error ⟨.policyDenied, "store is scoped to application " ++ store.appId.text ++
      ", refusing a write to " ++ appId.text, none⟩
  else .ok (rows.upsert appId kind.value
    (some (store.sealed aead keyFingerprint appId kind secret nonce)))

/-- It deletes the row it is asked to, whatever application the store is scoped to. -/
def forget (_ : EncryptedPostgresStore) (appId : UUID) (kind : CredentialKind) (rows : AppCredentials C) :
    AppCredentials C :=
  rows.upsert appId kind.value none

end EncryptedPostgresStore

/-! ## The brokers -/

/-- `EnvCredentialBroker.VARIABLES`. -/
def envVariables : CredentialKind → String
  | .ticketReadWrite => "KUWARDEN_TICKET_TOKEN"
  | .scmRead | .scmWriteBranch | .scmPullRequest | .ciRead => "KUWARDEN_SCM_TOKEN"
  | .scmMerge => "KUWARDEN_SCM_MERGE_TOKEN"
  | .ciTrigger => "KUWARDEN_CI_TOKEN"
  | .deploy => "KUWARDEN_DEPLOY_TOKEN"
  | .llmApiKey => "KUWARDEN_LLM_API_KEY"

structure EnvCredentialBroker where
  environ : String → Option String

namespace EnvCredentialBroker

variable (letters : Text.Letters)

def realmSlug (realm : String) : String := String.ofList (letters.marked realm.toList)

def narrow (kind : CredentialKind) (realm : String) : String :=
  envVariables kind ++ "__" ++ realmSlug letters realm

def resolve (broker : EnvCredentialBroker) (request : CredentialRequest) :
    Except PyError Secret :=
  let name := envVariables request.kind
  let narrow := narrow letters request.kind request.realm
  match (nonEmpty (broker.environ narrow)).or (nonEmpty (broker.environ name)) with
  | some value => .ok ⟨value⟩
  | none => .error ⟨.policyDenied, "no credential available for " ++ request.kind.value ++
      " in realm " ++ Text.repr request.realm ++ " (looked for " ++ narrow ++ ", then " ++ name ++
      ")", none⟩

end EnvCredentialBroker

structure StoreThenEnvBroker where
  store : EncryptedPostgresStore
  env : EnvCredentialBroker

namespace StoreThenEnvBroker

/-- `StoreThenEnvBroker(app_id)`, which needs the key at once. -/
def make (appId : UUID) (environ : String → Option String) :
    Except PyError StoreThenEnvBroker := do
  let key ← loadMasterKey environ
  return ⟨⟨appId, key⟩, ⟨environ⟩⟩

def resolve (letters : Text.Letters) (broker : StoreThenEnvBroker) (request : CredentialRequest)
    (rows : AppCredentials C) : Except PyError Secret :=
  match broker.store.resolve aead keyFingerprint request rows with
  | .ok secret => .ok secret
  | .error exc =>
      if exc.kind ≠ .policyDenied then .error exc
      else
        match broker.env.resolve letters request with
        | .ok secret => .ok secret
        | .error exc' =>
            if exc'.kind ≠ .policyDenied then .error exc'
            else .error ⟨.policyDenied, "no credential for " ++ request.kind.value ++
              " (realm " ++ Text.repr request.realm ++ "): none stored for application " ++
              broker.store.appId.text ++ " in the Workbench, and none in the environment", none⟩

end StoreThenEnvBroker
end Store

/-! ## Operations, and an adversary in the database -/

inductive Event
  | put (store : EncryptedPostgresStore) (appId : UUID) (kind : CredentialKind)
      (secret : Secret) (nonce : Bytes)
  | forget (store : EncryptedPostgresStore) (appId : UUID) (kind : CredentialKind)
  | overwrite (appId : UUID) (kind : String) (past : Nat)

/-- The table, and every row that ever stood in it. -/
structure World (C : Type) where
  rows : AppCredentials C := fun _ _ => none
  past : List (Row C) := []

section Runs

variable {C : Type} (aead : Aead C) (keyFingerprint : MasterKey → String)

/-- The adversary writes what stood somewhere before. -/
def step (w : World C) : Event → World C
  | .put store appId kind secret nonce =>
      match store.put aead keyFingerprint appId kind secret nonce w.rows with
      | .ok rows => ⟨rows,
          w.past ++ [store.sealed aead keyFingerprint appId kind secret nonce]⟩
      | .error _ => w
  | .forget store appId kind => { w with rows := store.forget appId kind w.rows }
  | .overwrite appId kind past =>
      match w.past[past]? with
      | some row => { w with rows := w.rows.upsert appId kind (some row) }
      | none => w

def play (events : List Event) : World C := events.foldl (step aead keyFingerprint) {}

/-! ## Slots -/

theorem value_inj {kind kind' : CredentialKind} (same : kind.value = kind'.value) :
    kind = kind' := by
  cases kind <;> cases kind' <;> first | rfl | (revert same; decide)

theorem associated_data_inj {appId appId' : UUID} {kind kind' : CredentialKind}
    (same : associatedData appId kind = associatedData appId' kind') :
    appId = appId' ∧ kind = kind' := by
  have text := congrArg String.toList (Utf8.encode_inj same)
  simp only [String.toList_append, List.append_assoc] at text
  have rest := List.append_cancel_left text
  obtain ⟨ids, tail⟩ := List.append_inj rest (by rw [UUID.length_text, UUID.length_text])
  refine ⟨UUID.text_inj (String.toList_inj.mp ids), value_inj (String.toList_inj.mp ?_)⟩
  exact List.append_cancel_left tail

/-! ## What a row holds -/

variable {aead keyFingerprint} {w : World C} {events : List Event} {e : Event}

/-- Every row that ever stood was put, by a store of the application it was put for. -/
structure Traced (aead : Aead C) (keyFingerprint : MasterKey → String) (events : List Event)
    (w : World C) : Prop where
  past : ∀ row ∈ w.past, ∃ store kind secret nonce, .put store store.appId kind secret nonce ∈
    events ∧ row = store.sealed aead keyFingerprint store.appId kind secret nonce
  rows : ∀ appId kind row, w.rows appId kind = some row → row ∈ w.past

theorem upsert_eq_some {rows : AppCredentials C} {appId a : UUID} {kind k : String}
    {new : Option (Row C)} {row : Row C} (found : rows.upsert appId kind new a k = some row) :
    new = some row ∨ rows a k = some row := by
  unfold AppCredentials.upsert at found
  split at found
  · exact .inl found
  · exact .inr found

theorem Traced.step (traced : Traced aead keyFingerprint events w) (e : Event) :
    Traced aead keyFingerprint (events ++ [e]) (step aead keyFingerprint w e) := by
  have later : ∀ row ∈ w.past, ∃ store kind secret nonce,
      .put store store.appId kind secret nonce ∈ events ++ [e] ∧
        row = store.sealed aead keyFingerprint store.appId kind secret nonce := by
    intro row mem
    obtain ⟨store, kind, secret, nonce, put, is⟩ := traced.past row mem
    exact ⟨store, kind, secret, nonce, List.mem_append_left _ put, is⟩
  cases e with
  | put store appId kind secret nonce =>
      by_cases own : appId = store.appId
      · subst own
        have written : Secrets.step aead keyFingerprint w (.put store store.appId kind secret nonce) =
            ⟨w.rows.upsert store.appId kind.value
                (some (store.sealed aead keyFingerprint store.appId kind secret nonce)),
              w.past ++ [store.sealed aead keyFingerprint store.appId kind secret nonce]⟩ := by
          simp [Secrets.step, EncryptedPostgresStore.put]
        rw [written]
        refine ⟨fun row mem => ?_, fun a k row found => ?_⟩
        · rcases List.mem_append.mp mem with old | new
          · exact later row old
          · exact ⟨store, kind, secret, nonce, by simp, List.mem_singleton.mp new⟩
        · rcases upsert_eq_some found with new | old
          · exact List.mem_append_right _ (List.mem_singleton.mpr (Option.some.inj new).symm)
          · exact List.mem_append_left _ (traced.rows a k row old)
      · have refused : Secrets.step aead keyFingerprint w (.put store appId kind secret nonce) =
            w := by
          simp [Secrets.step, EncryptedPostgresStore.put, own]
        rw [refused]
        exact ⟨later, traced.rows⟩
  | forget store appId kind =>
      refine ⟨later, fun a k row found => ?_⟩
      rcases upsert_eq_some found with absurd | old
      · cases absurd
      · exact traced.rows a k row old
  | overwrite appId kind i =>
      cases stood : w.past[i]? with
      | none =>
          simp only [Secrets.step, stood]
          exact ⟨later, traced.rows⟩
      | some row =>
          simp only [Secrets.step, stood]
          refine ⟨later, fun a k row' found => ?_⟩
          rcases upsert_eq_some found with new | old
          · cases new
            exact List.mem_of_getElem? stood
          · exact traced.rows a k row' old

theorem traced_play (events : List Event) :
    Traced aead keyFingerprint events (play aead keyFingerprint events) := by
  induction events using List.reverseRecOn with
  | nil =>
      refine ⟨?_, ?_⟩
      · intro row mem
        cases mem
      · intro a k row found
        cases found
  | append_singleton events e ih =>
      rw [play, List.foldl_append]
      exact ih.step e

/-- What decrypts in a slot was put there under the same key. -/
theorem resolve_sealed {store store' : EncryptedPostgresStore} {request : CredentialRequest}
    {rows : AppCredentials C} {kind : CredentialKind} {secret secret' : Secret} {nonce : Bytes}
    (found : rows store.appId request.kind.value =
      some (store'.sealed aead keyFingerprint store'.appId kind secret' nonce))
    (resolved : store.resolve aead keyFingerprint request rows = .ok secret) :
    store' = store ∧ kind = request.kind ∧ secret' = secret := by
  unfold EncryptedPostgresStore.resolve at resolved
  rw [found] at resolved
  dsimp only at resolved
  split at resolved
  · cases resolved
  · split at resolved
    · cases resolved
    next plaintext opened =>
      obtain ⟨keys, -, slots⟩ := aead.ideal _ _ _ _ _ _ _ _ opened
      obtain ⟨apps, kinds⟩ := associated_data_inj slots
      obtain ⟨appId, key⟩ := store
      obtain ⟨appId', key'⟩ := store'
      cases keys
      cases apps
      cases kinds
      have plain : Utf8.encode secret'.reveal = plaintext := by
        rw [EncryptedPostgresStore.sealed, aead.decrypt_encrypt] at opened
        exact Option.some.inj opened
      rw [← plain, Utf8.decode_encode] at resolved
      cases resolved
      exact ⟨rfl, rfl, rfl⟩

theorem sealed_resolves {store : EncryptedPostgresStore} {request : CredentialRequest}
    {rows : AppCredentials C} {secret : Secret} {nonce : Bytes}
    (found : rows store.appId request.kind.value =
      some (store.sealed aead keyFingerprint store.appId request.kind secret nonce)) :
    store.resolve aead keyFingerprint request rows = .ok secret := by
  simp [EncryptedPostgresStore.resolve, found, EncryptedPostgresStore.sealed,
    aead.decrypt_encrypt, Utf8.decode_encode]

/-! ## The last operation on a slot -/

/-- What writes or deletes the row of a slot. A put for another application is refused. -/
def Touches (appId : UUID) (kind : CredentialKind) : Event → Prop
  | .put store a k _ _ => a = store.appId ∧ a = appId ∧ k = kind
  | .forget _ a k => a = appId ∧ k = kind
  | .overwrite a k _ => a = appId ∧ k = kind.value

theorem step_untouched {appId : UUID} {kind : CredentialKind} (w : World C)
    (untouched : ¬ Touches appId kind e) :
    (step aead keyFingerprint w e).rows appId kind.value = w.rows appId kind.value := by
  cases e with
  | put store a k secret nonce =>
      by_cases own : a = store.appId
      · have other : ¬ (appId = a ∧ kind.value = k.value) := by
          rintro ⟨rfl, same⟩
          exact untouched ⟨own, rfl, (value_inj same).symm⟩
        subst own
        simp [step, EncryptedPostgresStore.put, AppCredentials.upsert, other]
      · simp [step, EncryptedPostgresStore.put, own]
  | forget store a k =>
      have other : ¬ (appId = a ∧ kind.value = k.value) := by
        rintro ⟨rfl, same⟩
        exact untouched ⟨rfl, (value_inj same).symm⟩
      simp [step, EncryptedPostgresStore.forget, AppCredentials.upsert, other]
  | overwrite a k i =>
      have other : ¬ (appId = a ∧ kind.value = k) := by
        rintro ⟨rfl, rfl⟩
        exact untouched ⟨rfl, rfl⟩
      cases stood : w.past[i]? with
      | none => simp [step, stood]
      | some row => simp [step, stood, AppCredentials.upsert, other]

theorem foldl_untouched {appId : UUID} {kind : CredentialKind}
    (untouched : ∀ e ∈ events, ¬ Touches appId kind e) (w : World C) :
    (events.foldl (step aead keyFingerprint) w).rows appId kind.value =
      w.rows appId kind.value := by
  induction events generalizing w with
  | nil => rfl
  | cons e rest ih =>
      rw [List.foldl_cons, ih fun e mem => untouched e (List.mem_cons_of_mem _ mem)]
      exact step_untouched w (untouched e List.mem_cons_self)

/-- A put that nothing has touched since is the row of its slot. -/
theorem last_put {before after : List Event} {store : EncryptedPostgresStore}
    {kind : CredentialKind} {secret : Secret} {nonce : Bytes}
    (split : events = before ++ .put store store.appId kind secret nonce :: after)
    (untouched : ∀ e ∈ after, ¬ Touches store.appId kind e) :
    (play aead keyFingerprint events).rows store.appId kind.value =
      some (store.sealed aead keyFingerprint store.appId kind secret nonce) := by
  rw [split, play, List.foldl_append, List.foldl_cons, foldl_untouched untouched]
  simp [step, EncryptedPostgresStore.put, AppCredentials.upsert]

/-! ## Fallback -/

/-- A stored row is answered for by the store alone, which denies only what is not stored. -/
theorem stored_not_denied {store : EncryptedPostgresStore} {request : CredentialRequest}
    {rows : AppCredentials C} {row : Row C} {exc : PyError}
    (found : rows store.appId request.kind.value = some row)
    (failed : store.resolve aead keyFingerprint request rows = .error exc) :
    exc.kind ≠ .policyDenied := by
  unfold EncryptedPostgresStore.resolve at failed
  rw [found] at failed
  dsimp only at failed
  split at failed
  · cases failed
    simp [secretKeyError]
  · split at failed
    · cases failed
      simp [secretKeyError]
    · split at failed
      · cases failed
        simp
      · cases failed

theorem broker_of_stored {letters : Text.Letters} {broker : StoreThenEnvBroker}
    {request : CredentialRequest} {rows : AppCredentials C} {row : Row C}
    (found : rows broker.store.appId request.kind.value = some row) :
    broker.resolve aead keyFingerprint letters request rows =
      broker.store.resolve aead keyFingerprint request rows := by
  unfold StoreThenEnvBroker.resolve
  cases resolved : broker.store.resolve aead keyFingerprint request rows with
  | ok secret => rfl
  | error exc => simp [stored_not_denied found resolved]

/-- A generated key is the one that is loaded of it. -/
theorem load_generated {environ : String → Option String} {key : MasterKey}
    (holds : environ keyVariable = some (generateMasterKey key)) :
    loadMasterKey environ = .ok key := by
  obtain ⟨bytes, length⟩ := key
  have decoded : Base64.urlsafeB64decode (generateMasterKey ⟨bytes, length⟩).toList =
      some bytes := by
    rw [generateMasterKey, String.toList_ofList, Base64.urlsafe_b64decode_b64encode]
  have some : nonEmpty (environ keyVariable) = some (generateMasterKey ⟨bytes, length⟩) := by
    refine nonEmpty_eq_some.mpr ⟨holds, fun empty => ?_⟩
    rw [empty] at decoded
    cases decoded
    cases length
  unfold loadMasterKey
  rw [some]
  dsimp only
  rw [decoded]
  exact dif_pos length

/-- Wherever rows were moved, a slot gives up only what was put into it under the same key;
the last put into a slot that nobody touched since is what it gives up; and the environment is
asked only for a slot that is empty. The broker of a process whose environment has the key then
gives up that last put as well. -/
theorem slots_isolated (aead : Aead C) (keyFingerprint : MasterKey → String)
    (letters : Text.Letters) (events : List Event) :
    (∀ (store : EncryptedPostgresStore) request secret,
      store.resolve aead keyFingerprint request (play aead keyFingerprint events).rows =
        .ok secret →
      ∃ nonce, .put store store.appId request.kind secret nonce ∈ events) ∧
    (∀ (store : EncryptedPostgresStore) (request : CredentialRequest) secret nonce before after,
      events = before ++ .put store store.appId request.kind secret nonce :: after →
      (∀ e ∈ after, ¬ Touches store.appId request.kind e) →
      store.resolve aead keyFingerprint request (play aead keyFingerprint events).rows =
        .ok secret) ∧
    (∀ (broker : StoreThenEnvBroker) (request : CredentialRequest) row,
      (play aead keyFingerprint events).rows broker.store.appId request.kind.value = some row →
      broker.resolve aead keyFingerprint letters request (play aead keyFingerprint events).rows =
        broker.store.resolve aead keyFingerprint request
          (play aead keyFingerprint events).rows) ∧
    ∀ (store : EncryptedPostgresStore) (request : CredentialRequest) secret nonce before after
      environ, events = before ++ .put store store.appId request.kind secret nonce :: after →
      (∀ e ∈ after, ¬ Touches store.appId request.kind e) →
      environ keyVariable = some (generateMasterKey store.key) →
      ∃ broker, StoreThenEnvBroker.make store.appId environ = .ok broker ∧
        broker.resolve aead keyFingerprint letters request
          (play aead keyFingerprint events).rows = .ok secret := by
  refine ⟨fun store request secret resolved => ?_, fun store request secret nonce before after
    split untouched => sealed_resolves (last_put split untouched),
    fun broker request row found => broker_of_stored found,
    fun store request secret nonce before after environ split untouched holds => ?_⟩
  · have traced : Traced aead keyFingerprint events (play aead keyFingerprint events) :=
      traced_play events
    cases found : (play aead keyFingerprint events).rows store.appId request.kind.value with
    | none => simp [EncryptedPostgresStore.resolve, found] at resolved
    | some row =>
        obtain ⟨store', kind, secret', nonce, put, rfl⟩ :=
          traced.past row (traced.rows _ _ row found)
        obtain ⟨rfl, rfl, rfl⟩ := resolve_sealed found resolved
        exact ⟨nonce, put⟩
  · have stored : (play aead keyFingerprint events).rows store.appId request.kind.value =
        some (store.sealed aead keyFingerprint store.appId request.kind secret nonce) :=
      last_put split untouched
    refine ⟨⟨store, ⟨environ⟩⟩, ?_, ?_⟩
    · rw [StoreThenEnvBroker.make, load_generated holds]
      rfl
    · rw [broker_of_stored stored, sealed_resolves stored]

end Runs

/-- A cipher that encloses what it was given. -/
def enclosing : Aead (MasterKey × Bytes × Bytes × Bytes) where
  encrypt key nonce plaintext associated := (key, nonce, plaintext, associated)
  decrypt key nonce ciphertext associated :=
    if ciphertext.1 = key ∧ ciphertext.2.1 = nonce ∧ ciphertext.2.2.2 = associated then
      some ciphertext.2.2.1
    else none
  decrypt_encrypt key nonce plaintext associated := by simp
  ideal key key' nonce nonce' plaintext plaintext' associated associated' := by
    intro opened
    by_contra other
    simp [other] at opened

def storeOf (app : BitVec 128) : EncryptedPostgresStore :=
  ⟨⟨app⟩, ⟨List.replicate 32 7, by decide⟩⟩

/-- One application's row is moved to another's, which does not open it. -/
def moved : List Event := [
  .put (storeOf 1) ⟨1⟩ .scmMerge ⟨"ghp_one"⟩ (List.replicate 12 0),
  .overwrite ⟨2⟩ "scm.merge" 0]

theorem slots_isolated_moved :
    (storeOf 1).resolve enclosing (fun _ => "k") ⟨.scmMerge, "github.com:acme"⟩
        (play enclosing (fun _ => "k") moved).rows = .ok ⟨"ghp_one"⟩ ∧
    ∀ secret, (storeOf 2).resolve enclosing (fun _ => "k") ⟨.scmMerge, "github.com:acme"⟩
        (play enclosing (fun _ => "k") moved).rows ≠ .ok secret := by
  obtain ⟨only, last, -⟩ := slots_isolated enclosing (fun _ => "k") .basic moved
  refine ⟨last (storeOf 1) ⟨.scmMerge, "github.com:acme"⟩ _ _ [] _ rfl ?_, fun secret opened => ?_⟩
  · intro e mem
    rcases List.mem_singleton.mp mem with rfl
    simp [Touches, storeOf]
  · obtain ⟨nonce, put⟩ := only _ _ secret opened
    simp [moved, storeOf] at put

end KuWarden.Secrets
