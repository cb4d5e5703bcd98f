import KuWarden.Config
import KuWarden.Python.Demands

/-!
What the parser of a configuration asks of the value it is given, in the order it asks.

Some of it is checked, and answered with the error that callers wait for. The rest is assumed by
calling `.get` on a value, iterating over it, converting it to a number or a text, or sorting it.
-/
namespace KuWarden

open Python

namespace Value

def isNull : Value → Bool
  | .null => true
  | _ => false

def isDict : Value → Bool
  | .dict _ => true
  | _ => false

def isText : Value → Bool
  | .str _ => true
  | _ => false

/-- An integer or `None`, which is what a limit is declared as. -/
def isLimit : Value → Bool
  | .null | .int _ | .bool _ => true
  | _ => false

def entries : Value → Dict
  | .dict entries => entries
  | _ => []

@[simp] theorem entries_dict (entries : Dict) : (Value.dict entries).entries = entries := rfl

def elements (v : Value) : List Value := v.items.toOption.getD []

def hashable : Value → Bool
  | .list _ | .dict _ | .set _ => false
  | _ => true

end Value

namespace Config

/-- The error that callers of the parser wait for. -/
def Refusal (e : PyError) : Prop := e.kind = .configError

instance (e : PyError) : Decidable (Refusal e) := inferInstanceAs (Decidable (_ = _))

/-! ## What is asked of each section -/

def writes (v : Value) : Demand := .assumed v.writable

def writesAny (v : Value) : Demand := .assumed (!v.truthy || v.writable)

/-- A check, whose refusal quotes a value. -/
def quoting (met : Bool) (v : Value) : List Demand := [.assumed (met || v.writable), .checked met]

def repoDemands (entry : Value) : List Demand :=
  let provider := entry.entries.getD "provider" (.str "")
  [.checked entry.isDict,
    writes provider,
    .checked (provider.text = "github" ∨ provider.text = "azure_repos"),
    .checked (provider.text = "azure_repos" → (entry.entries.get "project").truthy),
    .checked (["name", "org", "repo"].all fun required => (entry.entries.get required).truthy),
    writes (entry.entries.get "name"),
    writes (entry.entries.get "org"),
    writes (entry.entries.get "repo"),
    writesAny (entry.entries.get "project"),
    writes (entry.entries.getD "path" (.str "."))]

def triggerDemands (entry : Value) : List Demand :=
  let provider := entry.entries.getD "provider" (.str "")
  [.checked entry.isDict,
    writes provider,
    .checked (provider.text = "jira" ∨ provider.text = "azure_devops"),
    .checked (provider.text = "jira" → (entry.entries.get "site").truthy),
    .checked (provider.text = "azure_devops" → (entry.entries.get "organisation").truthy),
    .checked (entry.entries.get "project").truthy,
    writes (entry.entries.get "project"),
    writesAny (entry.entries.get "site"),
    writesAny (entry.entries.get "account_email"),
    writesAny (entry.entries.get "organisation"),
    writesAny (entry.entries.get "label"),
    writesAny (entry.entries.get "ready_state"),
    writesAny (entry.entries.get "story_points_field")]

def autoMergeDemands (raw : Value) (model : Option IntegrationModel) : List Demand :=
  if raw.isNull then [] else
  let tier := raw.entries.getD "max_risk_tier" (.str "low")
  let files := raw.entries.get "max_files_changed"
  [.checked raw.isDict,
    .checked ((raw.entries.getD "enabled" (.bool false)).truthy → model = some .gatedMerge),
    .assumed tier.hashable] ++
  quoting (RiskTier.all.any fun known => tier.isStr known.text) tier ++
  [.checked (files.isNull ∨ ∃ n ∈ asInt? files, 1 ≤ n)]

def verifiersDemands (declared : Value) : List Demand :=
  if declared.isNull then [] else
  [.checked declared.isDict,
    .assumed ((unknownVerifiers declared.entries).all Value.isText),
    .checked (unknownVerifiers declared.entries).isEmpty]

def verificationDemands (raw : Value) : List Demand :=
  if raw.isNull then [] else
  .checked raw.isDict :: verifiersDemands (raw.entries.get "verifiers")

/-- A node of the `llm` section: its id and its settings. -/
def nodeDemands (node : Value × Value) : List Demand :=
  if node.1.isStr "provider" ∨ node.1.isStr "base_url" then [] else
  quoting node.2.isDict node.1 ++
  quoting (node.2.entries.get "model").truthy node.1 ++
  [writes (node.2.entries.get "model"),
    writes (node.2.entries.getD "effort" (.str "high")),
    .assumed (node.2.entries.getD "max_tokens" (.int 8192)).toInt.isOk]

def llmDemands (raw : Value) : List Demand :=
  if raw.isNull then [] else
  [.checked raw.isDict,
    .checked !(raw.entries.get "provider").isNull] ++
  quoting (Provider.ofValue? (raw.entries.get "provider")).isSome (raw.entries.get "provider") ++
  [.checked (["api_key", "key", "token", "secret"].all fun forbidden =>
      !raw.entries.has forbidden)] ++
  raw.entries.flatMap nodeDemands ++
  [writesAny (raw.entries.get "base_url")]

def sandboxDemands (raw : Value) : List Demand :=
  let limits := (raw.entries.get "limits").orElse (.dict [])
  [.checked !raw.isNull,
    .checked raw.isDict,
    .checked !(raw.entries.get "test_command").isNull,
    .checked (raw.entries.get "test_command").isList,
    .checked (raw.entries.get "toolchain_image").truthy,
    writes (raw.entries.get "toolchain_image"),
    .assumed limits.isDict,
    .assumed (limits.entries.getD "memory_mb" (.int 2048)).toInt.isOk,
    .assumed (limits.entries.getD "cpus" (.float (.finite 2) "2.0")).toFloat.isOk,
    .assumed (limits.entries.getD "pids" (.int 256)).toInt.isOk,
    .assumed (limits.entries.getD "timeout_s" (.int 600)).toInt.isOk,
    .assumed (limits.entries.getD "tmp_mb" (.int 512)).toInt.isOk,
    writes (raw.entries.get "test_command")]

def ciDemands (raw : Value) : List Demand :=
  if raw.isNull then [] else
  let provider := raw.entries.getD "provider" (.str "")
  let required := (raw.entries.get "required_workflows").orElse (.list [])
  let pollS := (raw.entries.getD "poll_s" (.int 15)).toInt
  [.checked raw.isDict,
    writes provider,
    .checked (provider.text = "github_actions"),
    .checked required.isList,
    .assumed pollS.isOk,
    .checked (∃ n ∈ pollS.toOption, 1 ≤ n),
    .assumed (raw.entries.getD "wait_s" (.int 900)).toInt.isOk,
    .assumed (raw.entries.getD "grace_s" (.int 90)).toInt.isOk,
    writes required]

def writesEach (v : Value) : List Demand := [.assumed v.items.isOk, writes (.list v.elements)]

/-- The sections that are read last, and of which nothing is checked. -/
def settingDemands (raw : Dict) : List Demand :=
  let toolchain := raw.getD "toolchain" (.dict [])
  let risk := (raw.get "risk").orElse (.dict [])
  let budgets := (raw.get "budgets").orElse (.dict [])
  let flow := raw.getD "flow" (.dict [])
  [.assumed toolchain.isDict,
    writes (toolchain.entries.getD "id" (.str "none")),
    .assumed risk.isDict] ++
  writesEach (risk.entries.getD "high_paths" (.list [])) ++
  writesEach (risk.entries.getD "medium_paths" (.list [])) ++
  writesEach (risk.entries.getD "high_labels" (.list [])) ++
  [.assumed budgets.isDict,
    .assumed (budgets.entries.getD "cents_per_run" (.int 0)).toInt.isOk,
    .assumed flow.isDict,
    .assumed (flow.entries.getD "max_coder_retries" (.int 3)).toInt.isOk]

/-- The section that must be there: the application, its repositories and its triggers. -/
def headDemands (raw : Dict) : List Demand :=
  let app := raw.get "app"
  let workspace := raw.get "workspace"
  let repos := workspace.entries.get "repos"
  let triggers := (raw.get "triggers").orElse (.list [])
  quoting ((raw.get "version").equalsInt 1) (raw.get "version") ++
  [.checked app.isDict,
    .checked ((app.entries.get "name").isText && (app.entries.get "name").truthy),
    .checked workspace.isDict,
    .checked repos.isList] ++
  repos.elements.flatMap repoDemands ++
  [.checked !repos.elements.isEmpty, .assumed triggers.items.isOk] ++
  triggers.elements.flatMap triggerDemands

def deliveryDemands (raw : Dict) : List Demand :=
  let delivery := raw.get "delivery"
  let declared := delivery.entries.get "integration_model"
  [.checked delivery.isDict,
    .checked !declared.isNull] ++
  quoting (IntegrationModel.ofValue? declared).isSome declared ++
  autoMergeDemands (delivery.entries.get "auto_merge") (IntegrationModel.ofValue? declared)

/-- All that is asked of a configuration, in turn. -/
def demands (raw : Dict) : List Demand :=
  headDemands raw ++ deliveryDemands raw ++ verificationDemands (raw.get "verification") ++
    llmDemands (raw.get "llm") ++ sandboxDemands (raw.get "sandbox") ++
    ciDemands (raw.get "ci") ++ settingDemands raw

/-- What is stored as it stands, though it is declared to be a number or a string. -/
def stored (raw : Dict) : List Demand :=
  let risk := (raw.get "risk").orElse (.dict [])
  [.assumed (((raw.get "triggers").orElse (.list [])).elements.all fun entry =>
      (entry.entries.get "max_story_points").isLimit),
    .assumed (risk.entries.get "medium_changed_files").isLimit,
    .assumed (risk.entries.get "high_changed_files").isLimit,
    .assumed ((raw.get "llm").entries.all fun node =>
      node.1.isStr "provider" || node.1.isStr "base_url" || node.1.isText)]

/-- Of what the parser goes ahead on, nothing is missing that it comes to. -/
def WellShaped : Value → Prop
  | .dict raw => verdict (demands raw ++ stored raw) ≠ .escaped
  | _ => True

/-! ## The parser answers as the verdict has it -/

theorem configError_refusal (message : String) : Refusal (configError message) := rfl

theorem requireDict_dict_bind {β : Type} {entries : Dict} {message : String}
    {f : Dict → Except PyError β} : (requireDict (.dict entries) message >>= f) = f entries := rfl

theorem parseInt_escapes {repr : String} {cs : List Char} {e : PyError}
    (failed : Value.parseInt repr cs = .error e) : ¬ Refusal e := by
  unfold Value.parseInt at failed
  dsimp only at failed
  split_ifs at failed <;> cases failed <;> simp [Refusal]

theorem toInt_escapes {v : Value} {e : PyError} (failed : v.toInt = .error e) : ¬ Refusal e := by
  unfold Value.toInt at failed
  split at failed <;> first
    | exact parseInt_escapes failed
    | cases failed <;> simp [Refusal, Value.typeError]

theorem toFloat_escapes {v : Value} {e : PyError} (failed : v.toFloat = .error e) :
    ¬ Refusal e := by
  unfold Value.toFloat at failed
  split at failed <;> (try split at failed) <;> cases failed <;> simp [Refusal, Value.typeError]

theorem tooLong_escapes : ¬ Refusal Value.tooLong := by simp [Refusal, Value.tooLong]

theorem items_escapes {v : Value} {e : PyError} (failed : v.items = .error e) : ¬ Refusal e := by
  unfold Value.items at failed
  split at failed <;> cases failed
  simp [Refusal, Value.typeError]

variable {α : Type} {q : List Demand}

theorem requireDict_meets {v : Value} {message : String} {f : Dict → Except PyError α}
    (rest : ∀ entries, v = .dict entries → Meets Refusal q (f entries)) :
    Meets Refusal (.checked v.isDict :: q) (requireDict v message >>= f) := by
  cases v with
  | dict entries => exact rest entries rfl
  | _ => exact configError_refusal _

theorem asDict_meets {v : Value} {f : Dict → Except PyError α}
    (rest : ∀ entries, v = .dict entries → Meets Refusal q (f entries)) :
    Meets Refusal (.assumed v.isDict :: q) (v.asDict >>= f) := by
  cases v with
  | dict entries => exact rest entries rfl
  | _ => exact fun refusal => by cases refusal

theorem printed_meets {v : Value} {f : String → Except PyError α}
    (rest : v.printed = .ok v.text → Meets Refusal q (f v.text)) :
    Meets Refusal (writes v :: q) (v.printed >>= f) := by
  unfold Value.printed at rest ⊢
  refine Meets.assumed (fun long => ?_) fun writable => ?_
  · rw [if_neg (by simp [long])]
    exact ⟨_, rfl, tooLong_escapes⟩
  · rw [if_pos writable] at rest ⊢
    exact rest rfl

theorem optionalText_meets {v : Value} {f : Option String → Except PyError α}
    (rest : ∀ text, Meets Refusal q (f text)) :
    Meets Refusal (writesAny v :: q) (optionalText v >>= f) := by
  unfold optionalText Value.printed
  refine Meets.assumed (fun long => ?_) fun writable => ?_
  · obtain ⟨truthy, long⟩ : v.truthy = true ∧ v.writable = false := by simpa using long
    rw [if_pos truthy, if_neg (by simp [long])]
    exact ⟨_, rfl, tooLong_escapes⟩
  · by_cases truthy : v.truthy = true
    · rw [if_pos truthy, if_pos (by simpa [truthy] using writable)]
      exact rest _
    · rw [if_neg truthy]
      exact rest _

theorem printEach_eq (values : List Value) : printEach values =
    if Value.allWritable values then .ok (values.map Value.text) else .error Value.tooLong := by
  induction values with
  | nil => rfl
  | cons v rest ih =>
      unfold printEach Value.printed Value.allWritable
      rw [ih]
      cases v.writable <;> cases Value.allWritable rest <;> rfl

theorem printEach_meets {values : List Value} {f : List String → Except PyError α}
    (rest : ∀ texts, Meets Refusal q (f texts)) :
    Meets Refusal (writes (.list values) :: q) (printEach values >>= f) := by
  rw [printEach_eq]
  refine Meets.assumed (fun long => ?_) fun writable => ?_
  · rw [if_neg (by simpa [Value.writable] using long)]
    exact ⟨_, rfl, tooLong_escapes⟩
  · rw [if_pos (by simpa [Value.writable] using writable)]
    exact rest _

theorem quoting_unmet (v : Value) : verdict (quoting false v) ≠ .accepted := by
  cases writable : v.writable <;> simp [quoting, verdict, writable]

theorem quoting_passes {v : Value} {x : Except PyError α} (rest : Meets Refusal q x) :
    Meets Refusal (quoting true v ++ q) x := rest

theorem refuse_meets {β : Type} {v : Value} {before after : String} :
    Meets Refusal (quoting false v ++ q) (refuse before v after : Except PyError β) := by
  refine Meets.stops ?_ (quoting_unmet v)
  unfold refuse Value.shown quoting
  cases v.writable with
  | true => exact configError_refusal _
  | false => exact tooLong_escapes

theorem needsModel_meets {β : Type} {v : Value} :
    Meets Refusal (quoting false v ++ q) (needsModel v : Except PyError β) := by
  refine Meets.stops ?_ (quoting_unmet v)
  unfold needsModel Value.printed quoting
  cases v.writable with
  | true => exact configError_refusal _
  | false => exact tooLong_escapes

/-- A check whose refusal quotes a value, at the head of what follows it. -/
theorem quoting_meets {c : Prop} [Decidable c] {met : Bool} {v : Value} {x : Except PyError Unit}
    {f : Unit → Except PyError α} {y : Except PyError α} (agrees : met = true ↔ ¬ c)
    (quotes : Meets Refusal (quoting false v ++ []) x) (rest : ¬ c → Meets Refusal q y) :
    Meets Refusal (quoting met v ++ q) (if c then x >>= f else y) := by
  rw [List.append_nil] at quotes
  by_cases raised : c
  · have failed : met = false := Bool.eq_false_iff.mpr fun passed => agrees.mp passed raised
    rw [if_pos raised, failed]
    exact Meets.bind quotes fun u passed =>
      absurd (quotes.accepted_iff.mpr ⟨u, passed⟩) (quoting_unmet v)
  · rw [if_neg raised, agrees.mpr raised]
    exact rest raised

theorem toInt_meets {v : Value} {f : Int → Except PyError α}
    (rest : ∀ n, v.toInt = .ok n → Meets Refusal q (f n)) :
    Meets Refusal (.assumed v.toInt.isOk :: q) (v.toInt >>= f) :=
  Meets.convert (fun _ => toInt_escapes) rest

theorem repo_meets (entry : Value) (i : Nat) :
    Meets Refusal (repoDemands entry) (repo entry i) := by
  apply requireDict_meets
  rintro entries rfl
  refine printed_meets fun _ => ?_
  refine Meets.check (by simp [Value.entries, or_iff_not_imp_left]) rfl fun _ => ?_
  refine Meets.check (decide_eq_true_iff.trans (by simp [Value.entries])) rfl fun _ => ?_
  refine Meets.bind (p := [_]) (Meets.check_all (by simp [Value.entries]) fun _ => rfl) fun _ _ => ?_
  refine printed_meets fun _ => printed_meets fun _ => printed_meets fun _ => ?_
  exact optionalText_meets fun _ => printed_meets fun _ => Meets.ok _

theorem trigger_meets (entry : Value) (i : Nat) :
    Meets Refusal (triggerDemands entry) (trigger entry i) := by
  apply requireDict_meets
  rintro entries rfl
  refine printed_meets fun _ => ?_
  refine Meets.check (by simp [Value.entries, or_iff_not_imp_left]) rfl fun _ => ?_
  refine Meets.check (decide_eq_true_iff.trans (by simp [Value.entries])) rfl fun _ => ?_
  refine Meets.check (decide_eq_true_iff.trans (by simp [Value.entries])) rfl fun _ => ?_
  refine Meets.check (by simp [Value.entries]) rfl fun _ => ?_
  refine printed_meets fun _ => ?_
  refine optionalText_meets fun _ => optionalText_meets fun _ => optionalText_meets fun _ => ?_
  exact optionalText_meets fun _ => optionalText_meets fun _ => optionalText_meets fun _ => Meets.ok _

theorem parseEach_meets {β : Type} {f : Value → Nat → Except PyError β}
    {asked : Value → List Demand} (each : ∀ entry i, Meets Refusal (asked entry) (f entry i))
    (entries : List Value) (i : Nat) :
    Meets Refusal (entries.flatMap asked) (parseEach f i entries) := by
  induction entries generalizing i with
  | nil => exact Meets.ok _
  | cons entry rest ih =>
      rw [List.flatMap_cons]
      exact Meets.bind (each entry i) fun first _ => Meets.map _ (ih (i + 1))

/-- What can be a key is looked up among the tiers. -/
theorem riskTier_hashable {v : Value} (keyed : v.hashable = true) :
    riskTier v = match RiskTier.all.find? fun tier => v.isStr tier.text with
      | some tier => .ok tier
      | none => refuse "unknown auto_merge.max_risk_tier " v
          ("; expected one of " ++ Text.join ", " (RiskTier.all.map RiskTier.text)) := by
  cases v <;> first | rfl | cases keyed

theorem riskTier_unhashable {v : Value} (unkeyed : v.hashable = false) :
    riskTier v = .error (Value.typeError ("unhashable type: '" ++ v.typeName ++ "'")) := by
  cases v <;> first | rfl | cases unkeyed

theorem riskTier_meets (v : Value) :
    Meets Refusal (.assumed v.hashable ::
      (quoting (RiskTier.all.any fun known => v.isStr known.text) v ++ [])) (riskTier v) := by
  apply Meets.assumed
  · intro unkeyed
    exact ⟨_, riskTier_unhashable unkeyed, by simp [Refusal, Value.typeError]⟩
  · intro keyed
    rw [riskTier_hashable keyed, ← List.isSome_find?]
    cases RiskTier.all.find? fun tier => v.isStr tier.text with
    | some tier => exact Meets.ok tier
    | none => exact refuse_meets

theorem maxFiles_meets (v : Value) :
    Meets Refusal [.checked (v.isNull ∨ ∃ n ∈ asInt? v, 1 ≤ n)] (maxFiles v) := by
  cases v with
  | null => exact Meets.ok none
  | int n =>
      apply Meets.checked
      · intro small
        have below : n < 1 := by simpa [Value.isNull, asInt?] using small
        exact ⟨_, if_pos below, rfl⟩
      · intro enough
        have least : ¬ n < 1 := by simpa [Value.isNull, asInt?] using enough
        rw [show maxFiles (.int n) = .ok (some n) from if_neg least]
        exact Meets.ok _
  | bool b => cases b <;> trivial
  | _ => exact configError_refusal _

theorem auto_merge_meets (raw : Value) (model : IntegrationModel) :
    Meets Refusal (autoMergeDemands raw (some model)) (autoMerge raw model) := by
  cases raw with
  | null => exact Meets.ok _
  | dict entries =>
      refine requireDict_meets fun _ same => ?_
      cases same
      refine Meets.check (decide_eq_true_iff.trans (by simp [Value.entries])) rfl fun _ => ?_
      refine Meets.bind (riskTier_meets _) fun tier _ => ?_
      exact Meets.map _ (maxFiles_meets _)
  | _ => exact configError_refusal _

def asNames (values : List Value) : Option (List String) :=
  values.mapM fun | .str s => some s | _ => none

theorem sortedNames_eq (values : List Value) :
    sortedNames values =
      match asNames values with
      | some names => .ok (Text.join ", " (names.insertionSort (· ≤ ·)))
      | none => .error (Value.typeError "sequence item 0: expected str instance") := rfl

theorem asNames_isSome (values : List Value) :
    (asNames values).isSome = values.all Value.isText := by
  induction values with
  | nil => rfl
  | cons v rest ih =>
      rw [List.all_cons, ← ih]
      unfold asNames
      rw [List.mapM_cons]
      cases v with
      | str s => cases rest.mapM (fun | .str s => some s | _ => none : Value → Option String) <;> rfl
      | _ => rfl

/-- Names that are known are not sorted; the others are, to be named in the refusal. -/
theorem verifiers_meets (declared : Dict) :
    Meets Refusal (verifiersDemands (.dict declared))
      (do
        if unknownVerifiers declared ≠ [] then
          let names ← sortedNames (unknownVerifiers declared)
          throw (configError ("unknown verifier(s) " ++ names ++ "; expected any of " ++
            Text.join ", " allVerifiers))
        return ({ blocking := allVerifiers.filter fun name =>
          (declared.getD name (.bool true)).truthy } : VerificationConfig)) := by
  change Meets Refusal [.checked true, .assumed ((unknownVerifiers declared).all Value.isText),
    .checked (unknownVerifiers declared).isEmpty] _
  generalize unknownVerifiers declared = unknown
  cases unknown with
  | nil => exact trivial
  | cons v rest =>
      rw [if_pos (List.cons_ne_nil v rest), ← asNames_isSome]
      rw [sortedNames_eq]
      cases asNames (v :: rest) with
      | some names => exact configError_refusal _
      | none => exact fun refusal => by cases refusal

theorem verification_meets (raw : Value) :
    Meets Refusal (verificationDemands raw) (verification raw) := by
  cases raw with
  | null => exact Meets.ok _
  | dict entries =>
      refine requireDict_meets fun _ same => ?_
      cases same
      change Meets Refusal (verifiersDemands (Dict.get entries "verifiers")) _
      cases Dict.get entries "verifiers" with
      | null => exact Meets.ok _
      | dict declared => exact verifiers_meets declared
      | _ => exact configError_refusal _
  | _ => exact configError_refusal _

theorem nodeModels_meets (nodes : Dict) :
    Meets Refusal (nodes.flatMap nodeDemands) (nodeModels nodes) := by
  induction nodes with
  | nil => exact Meets.ok _
  | cons node rest ih =>
      rw [List.flatMap_cons]
      unfold nodeModels
      by_cases reserved : node.1.isStr "provider" ∨ node.1.isStr "base_url"
      · rw [if_pos reserved, nodeDemands, if_pos reserved]
        exact ih
      · rw [if_neg reserved, nodeDemands, if_neg reserved]
        simp only [List.append_assoc]
        cases node.2 with
        | dict entries =>
            refine quoting_passes ?_
            refine quoting_meets (by simp [Value.entries]) needsModel_meets fun _ => ?_
            refine printed_meets fun _ => printed_meets fun _ => ?_
            exact toInt_meets fun _ _ => Meets.map _ ih
        | _ => exact needsModel_meets

theorem llm_meets (raw : Value) : Meets Refusal (llmDemands raw) (llm raw) := by
  cases raw with
  | null => exact Meets.ok none
  | dict entries =>
      refine requireDict_meets fun _ same => ?_
      cases same
      refine Meets.check ?_ rfl fun _ => ?_
      · simp only [Value.entries]
        cases Dict.get entries "provider" <;> simp [Value.isNull]
      · simp only [Value.entries]
        cases Provider.ofValue? (Dict.get entries "provider") with
        | none => exact refuse_meets
        | some provider =>
            refine quoting_passes ?_
            refine Meets.bind (p := [_]) (Meets.check_all (by simp) fun _ => rfl) fun _ _ => ?_
            refine Meets.bind (nodeModels_meets entries) fun _ _ => ?_
            exact optionalText_meets fun _ => Meets.ok _
  | _ => exact configError_refusal _

theorem ci_meets (raw : Value) : Meets Refusal (ciDemands raw) (ci raw) := by
  cases raw with
  | null => exact Meets.ok none
  | dict entries =>
      refine requireDict_meets fun _ same => ?_
      cases same
      refine printed_meets fun _ => ?_
      refine Meets.check (decide_eq_true_iff.trans (by simp [Value.entries])) rfl fun _ => ?_
      simp only [Value.entries]
      cases (Dict.get entries "required_workflows").orElse (.list []) with
      | list required =>
          refine Meets.checked (fun h => by cases h) fun _ => ?_
          refine toInt_meets fun pollS converted => ?_
          apply Meets.checked
          · intro small
            have below : ¬ 1 ≤ pollS := by simpa [converted, Except.toOption] using small
            exact ⟨_, dif_neg below, rfl⟩
          · intro enough
            have least : 1 ≤ pollS := by simpa [converted, Except.toOption] using enough
            rw [dif_pos least]
            refine toInt_meets fun waitS _ => ?_
            refine toInt_meets fun graceS _ => ?_
            exact printEach_meets fun _ => Meets.ok _
      | _ => exact configError_refusal _
  | _ => exact configError_refusal _

theorem sandbox_meets (raw : Value) : Meets Refusal (sandboxDemands raw) (sandbox raw) := by
  cases raw with
  | dict entries =>
      refine Meets.checked (fun h => by cases h) fun _ => ?_
      refine requireDict_meets fun _ same => ?_
      cases same
      simp only [Value.entries]
      cases Dict.get entries "test_command" with
      | list command =>
          refine Meets.check (by simp [Value.isNull]) rfl fun _ => ?_
          refine Meets.checked (fun h => by cases h) fun _ => ?_
          refine Meets.check (by simp) rfl fun _ => ?_
          refine printed_meets fun _ => ?_
          refine asDict_meets fun limits same => ?_
          rw [same]
          refine toInt_meets fun memoryMb _ => ?_
          refine Meets.convert (fun _ => toFloat_escapes) fun cpus _ => ?_
          refine toInt_meets fun pids _ => ?_
          refine toInt_meets fun timeoutS _ => ?_
          refine toInt_meets fun tmpMb _ => ?_
          exact printEach_meets fun _ => Meets.ok _
      | _ => exact configError_refusal _
  | _ => exact configError_refusal _

theorem mapping_meets {raw : Dict} {key : String} {f : Dict → Except PyError α}
    (rest : ∀ entries, raw.get key = .dict entries → Meets Refusal q (f entries)) :
    Meets Refusal (.checked (raw.get key).isDict :: q) (mapping raw key >>= f) :=
  requireDict_meets rest

theorem sequence_meets {raw : Dict} {outer inner : String} {f : List Value → Except PyError α}
    (rest : ∀ elements, (raw.get outer).entries.get inner = .list elements →
      Meets Refusal q (f elements)) :
    Meets Refusal (.checked (raw.get outer).isDict ::
      .checked ((raw.get outer).entries.get inner).isList :: q) (sequence raw outer inner >>= f) := by
  unfold sequence mapping
  cases found : raw.get outer with
  | dict entries =>
      refine Meets.checked (fun h => by cases h) fun _ => ?_
      simp only [found, Value.entries] at rest ⊢
      rw [requireDict_dict_bind]
      cases listed : Dict.get entries inner with
      | list elements => exact rest elements listed
      | _ => exact configError_refusal _
  | _ => exact configError_refusal _

theorem items_meets {v : Value} {f : List Value → Except PyError α}
    (rest : v.items = .ok v.elements → Meets Refusal q (f v.elements)) :
    Meets Refusal (.assumed v.items.isOk :: q) (v.items >>= f) := by
  refine Meets.convert (fun _ => items_escapes) fun elements iterated => ?_
  have same : v.elements = elements := by simp [Value.elements, iterated, Except.toOption]
  rw [same] at rest
  exact rest iterated

theorem parseEach_length {β : Type} {f : Value → Nat → Except PyError β} {entries : List Value}
    {i : Nat} {read : List β} (parsed : parseEach f i entries = .ok read) :
    read.length = entries.length := by
  induction entries generalizing i read with
  | nil => cases parsed; rfl
  | cons entry rest ih =>
      obtain ⟨first, -, parsed⟩ := of_bind_ok parsed
      obtain ⟨others, found, parsed⟩ := of_bind_ok parsed
      cases parsed
      simp [ih found]

theorem textList_meets {entries : Dict} {key : String} {f : List String → Except PyError α}
    (rest : ∀ texts, Meets Refusal q (f texts)) :
    Meets Refusal (writesEach (entries.getD key (.list [])) ++ q) (textList entries key >>= f) := by
  unfold textList
  rw [bind_assoc]
  exact items_meets fun _ => printEach_meets rest

theorem settings_meets (raw : Dict) (finish : String → Dict → List String → List String →
      List String → Int → Int → AppConfig) :
    Meets Refusal (settingDemands raw) (do
      let toolchain ← (raw.getD "toolchain" (.dict [])).asDict
      let toolchainId ← (toolchain.getD "id" (.str "none")).printed
      let risk ← ((raw.get "risk").orElse (.dict [])).asDict
      let highPaths ← textList risk "high_paths"
      let mediumPaths ← textList risk "medium_paths"
      let highLabels ← textList risk "high_labels"
      let budgets ← ((raw.get "budgets").orElse (.dict [])).asDict
      let budgetCentsPerRun ← (budgets.getD "cents_per_run" (.int 0)).toInt
      let flow ← (raw.getD "flow" (.dict [])).asDict
      let maxCoderRetries ← (flow.getD "max_coder_retries" (.int 3)).toInt
      return finish toolchainId risk highPaths mediumPaths highLabels budgetCentsPerRun
        maxCoderRetries) := by
  unfold settingDemands
  simp only [List.append_assoc, List.cons_append, List.nil_append]
  refine asDict_meets fun toolchain found => ?_
  rw [found]
  refine printed_meets fun _ => ?_
  refine asDict_meets fun risk found => ?_
  rw [found]
  refine textList_meets fun highPaths => ?_
  refine textList_meets fun mediumPaths => ?_
  refine textList_meets fun highLabels => ?_
  refine asDict_meets fun budgets found => ?_
  rw [found]
  refine toInt_meets fun budgetCentsPerRun _ => ?_
  refine asDict_meets fun flow found => ?_
  rw [found]
  exact toInt_meets fun maxCoderRetries _ => Meets.ok _

theorem parseDict_meets (raw : Dict) : Meets Refusal (demands raw) (parseDict raw) := by
  unfold parseDict demands headDemands deliveryDemands
  simp only [List.append_assoc, List.cons_append, List.nil_append]
  refine quoting_meets (by simp) refuse_meets fun _ => ?_
  refine mapping_meets fun app found => ?_
  rw [found, Value.entries_dict]
  cases Dict.get app "name" with
  | str name =>
      refine Meets.check (by simp [Value.isText, Value.truthy]) rfl fun _ => ?_
      refine sequence_meets fun entries listed => ?_
      rw [listed]
      refine Meets.bind (parseEach_meets repo_meets entries 0) fun repos parsed => ?_
      refine Meets.check ?_ rfl fun _ => ?_
      · have same := parseEach_length parsed
        simp only [Value.elements, Value.items, Except.toOption, Option.getD_some]
        cases repos <;> cases entries <;> simp_all
      refine items_meets fun _ => ?_
      refine Meets.bind (parseEach_meets trigger_meets _ 0) fun triggers _ => ?_
      refine mapping_meets fun delivery found => ?_
      rw [found, Value.entries_dict]
      refine Meets.check ?_ rfl fun _ => ?_
      · cases Dict.get delivery "integration_model" <;> simp [Value.isNull]
      cases IntegrationModel.ofValue? (Dict.get delivery "integration_model") with
      | some model =>
          refine quoting_passes ?_
          refine Meets.bind (auto_merge_meets _ model) fun autoMerge _ => ?_
          refine Meets.bind (verification_meets _) fun verification _ => ?_
          refine Meets.bind (llm_meets _) fun llm _ => ?_
          refine Meets.bind (sandbox_meets _) fun sandbox _ => ?_
          refine Meets.bind (ci_meets _) fun ci _ => ?_
          exact settings_meets raw _
      | none => exact refuse_meets
  | _ => exact configError_refusal _

end Config
end KuWarden
