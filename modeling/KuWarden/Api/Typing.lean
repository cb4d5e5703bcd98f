import KuWarden.Api.Configure
import KuWarden.Api.Governing
import KuWarden.Nodes.Triage
import KuWarden.Shapes

/-!
What a configuration is typed as that the parser accepts, and what becomes of one that it does
not.

A limit is compared with a count long after it was read, by the rules that tier a change and by
the admission of a ticket. A request that stores a configuration answers for the errors the
parser is declared to raise.
-/
namespace KuWarden

open Python Process Config

/-! ## Declared types -/

/-- Every field holds what it is declared to. The others do by their Lean types. -/
structure AppConfig.WellTyped (config : AppConfig) : Prop where
  points : ∀ trigger ∈ config.triggers, trigger.maxStoryPoints.isLimit = true
  medium : config.risk.mediumChangedFiles.isLimit = true
  high : config.risk.highChangedFiles.isLimit = true
  nodes : ∀ llm, config.llm = some llm → ∀ node ∈ llm.perNode, node.1.isText = true

namespace Config

theorem trigger_points {entry : Value} {i : Nat} {read : TriggerConfig}
    (parsed : trigger entry i = .ok read) :
    read.maxStoryPoints = entry.entries.get "max_story_points" := by
  unfold trigger at parsed
  obtain ⟨entries, found, parsed⟩ := of_bind_ok parsed
  dsimp only at parsed
  obtain ⟨provider, -, parsed⟩ := of_bind_ok parsed
  obtain ⟨-, parsed⟩ := of_check_ok parsed
  obtain ⟨-, parsed⟩ := of_check_ok parsed
  obtain ⟨-, parsed⟩ := of_check_ok parsed
  obtain ⟨-, parsed⟩ := of_check_ok parsed
  obtain ⟨project, -, parsed⟩ := of_bind_ok parsed
  obtain ⟨site, -, parsed⟩ := of_bind_ok parsed
  obtain ⟨accountEmail, -, parsed⟩ := of_bind_ok parsed
  obtain ⟨organisation, -, parsed⟩ := of_bind_ok parsed
  obtain ⟨label, -, parsed⟩ := of_bind_ok parsed
  obtain ⟨readyState, -, parsed⟩ := of_bind_ok parsed
  obtain ⟨storyPointsField, -, parsed⟩ := of_bind_ok parsed
  rw [requireDict_ok found]
  cases parsed
  rfl

theorem triggers_points {entries : List Value} {i : Nat} {read : List TriggerConfig}
    (parsed : parseEach trigger i entries = .ok read) :
    (∀ t ∈ read, t.maxStoryPoints.isLimit = true) ↔
      (entries.all fun entry => (entry.entries.get "max_story_points").isLimit) = true := by
  induction entries generalizing i read with
  | nil => cases parsed; simp
  | cons entry rest ih =>
      obtain ⟨first, found, parsed⟩ := of_bind_ok parsed
      obtain ⟨others, more, parsed⟩ := of_bind_ok parsed
      cases parsed
      rw [List.forall_mem_cons, ih more, trigger_points found]
      simp

theorem nodeModels_keys {nodes : Dict} {read : List (Value × NodeModel)}
    (parsed : nodeModels nodes = .ok read) :
    (∀ node ∈ read, node.1.isText = true) ↔
      (nodes.all fun node =>
        node.1.isStr "provider" || node.1.isStr "base_url" || node.1.isText) = true := by
  induction nodes generalizing read with
  | nil => cases parsed; simp
  | cons node rest ih =>
      unfold nodeModels at parsed
      by_cases reserved : node.1.isStr "provider" ∨ node.1.isStr "base_url"
      · rw [if_pos reserved] at parsed
        rw [ih parsed]
        simp [reserved]
      · rw [if_neg reserved] at parsed
        split at parsed
        next entries _ =>
          obtain ⟨-, parsed⟩ := of_raising_ok needsModel_ne_ok parsed
          obtain ⟨model, -, parsed⟩ := of_bind_ok parsed
          obtain ⟨effort, -, parsed⟩ := of_bind_ok parsed
          obtain ⟨maxTokens, -, parsed⟩ := of_bind_ok parsed
          obtain ⟨others, more, parsed⟩ := of_bind_ok parsed
          cases parsed
          rw [List.forall_mem_cons, ih more]
          simp [reserved]
        next => exact absurd parsed (needsModel_ne_ok read)

theorem llm_keys {raw : Value} {read : Option LLMConfig} (parsed : llm raw = .ok read) :
    (∀ settings, read = some settings → ∀ node ∈ settings.perNode, node.1.isText = true) ↔
      (raw.entries.all fun node =>
        node.1.isStr "provider" || node.1.isStr "base_url" || node.1.isText) = true := by
  unfold llm at parsed
  split at parsed
  next => cases parsed; simp [Value.entries]
  next =>
    obtain ⟨entries, found, parsed⟩ := of_bind_ok parsed
    dsimp only at parsed
    obtain ⟨-, parsed⟩ := of_check_ok parsed
    split at parsed
    next provider _ =>
      obtain ⟨-, -, parsed⟩ := of_bind_ok parsed
      obtain ⟨perNode, more, parsed⟩ := of_bind_ok parsed
      obtain ⟨baseUrl, -, parsed⟩ := of_bind_ok parsed
      cases parsed
      rw [requireDict_ok found, Value.entries_dict, ← nodeModels_keys more]
      simp
    next => exact absurd parsed (refuse_ne_ok read)

/-- What an accepted configuration stores as it stands decides whether it is well typed. -/
theorem wellTyped_iff {raw : Dict} {config : AppConfig} (accepted : parseDict raw = .ok config) :
    config.WellTyped ↔ verdict (stored raw) ≠ .escaped := by
  obtain ⟨-, ⟨entries, iterated, each⟩, modelled, risk, found, medium, high⟩ :=
    parseDict_reads accepted
  have all_met : ∀ a b c d : Bool,
      verdict [.assumed a, .assumed b, .assumed c, .assumed d] ≠ .escaped ↔
        a = true ∧ b = true ∧ c = true ∧ d = true := by decide
  have same : ((raw.get "triggers").orElse (.list [])).elements = entries := by
    simp [Value.elements, iterated, Except.toOption]
  unfold stored
  rw [all_met, same, found, Value.entries_dict, ← triggers_points each, ← llm_keys modelled,
    ← medium, ← high]
  constructor
  · intro typed
    obtain ⟨points, medium, high, nodes⟩ := typed
    exact ⟨points, medium, high, nodes⟩
  · intro met
    obtain ⟨points, medium, high, nodes⟩ := met
    exact ⟨points, medium, high, nodes⟩

end Config

/-! ## Limits are compared with counts -/

/-- `count > limit`, of a limit that is not `None`. -/
def exceeds (count : Nat) (limit : Value) : Except PyError Bool :=
  match limit with
  | .null => .ok false
  | .int m => .ok (decide ((count : Int) > m))
  | .bool b => .ok (decide ((count : Int) > if b then 1 else 0))
  | .float (.finite q) _ => .ok (decide ((count : ℚ) > q))
  | .float (.inf negative) _ => .ok negative
  | .float .nan _ => .ok false
  | v => .error (Value.typeError ("'>' not supported between instances of 'int' and '" ++
      v.typeName ++ "'"))

namespace Api

/-- `tier_for_diff` on the rules as they were declared. -/
def DeclaredRules.tierForDiff (rules : DeclaredRules) (current : RiskTier)
    (diff : Option Diff) : Except PyError (RiskTier × String) := do
  let paths := (diff.map Diff.paths).getD []
  match firstMatch rules.highPaths paths with
  | some (path, pattern) => return (.high, path ++ " matches high_paths " ++ Text.repr pattern)
  | none =>
      if ← exceeds paths.length rules.highChangedFiles then
        let limit ← rules.highChangedFiles.printed
        return (.high, Text.ofNat paths.length ++
          " files changed, above high_changed_files (" ++ limit ++ ")")
      else
        match firstMatch rules.mediumPaths paths with
        | some (path, pattern) =>
            return (.medium, path ++ " matches medium_paths " ++ Text.repr pattern)
        | none =>
            if ← exceeds paths.length rules.mediumChangedFiles then
              let limit ← rules.mediumChangedFiles.printed
              return (.medium, Text.ofNat paths.length ++
                " files changed, above medium_changed_files (" ++ limit ++ ")")
            else return (current, "no rule escalated it")

/-- A limit as the workflow decodes it. -/
def limit : Value → Option Int := Config.asInt?

def DeclaredRules.decoded (rules : DeclaredRules) : RiskRules where
  highPaths := rules.highPaths
  mediumPaths := rules.mediumPaths
  mediumChangedFiles := limit rules.mediumChangedFiles
  highChangedFiles := limit rules.highChangedFiles

theorem exceeds_limit {v : Value} (typed : v.isLimit = true) (count : Nat) :
    exceeds count v = .ok (above count (limit v)) := by
  cases v with
  | null => rfl
  | int m => rfl
  | bool b => rfl
  | _ => cases typed

/-- With limits that are numbers, the tier is the one the workflow settles, unless the limit that
is exceeded is too long to be written out. -/
theorem DeclaredRules.tier_for_diff_eq (rules : DeclaredRules)
    (medium : rules.mediumChangedFiles.isLimit = true)
    (high : rules.highChangedFiles.isLimit = true) (current : RiskTier) (diff : Option Diff) :
    (rules.tierForDiff current diff).map Prod.fst =
        .ok (KuWarden.tierForDiff current diff rules.decoded).1 ∨
      rules.tierForDiff current diff = .error Value.tooLong := by
  unfold DeclaredRules.tierForDiff KuWarden.tierForDiff Value.printed
  simp only [exceeds_limit high, exceeds_limit medium, decoded]
  generalize (diff.map Diff.paths).getD [] = paths
  cases firstMatch rules.highPaths paths with
  | some found => exact .inl rfl
  | none =>
      by_cases many : above paths.length (limit rules.highChangedFiles) = true
      · simp only [many, if_true]
        cases rules.highChangedFiles.writable with
        | true => exact .inl rfl
        | false => exact .inr rfl
      · simp only [many]
        cases firstMatch rules.mediumPaths paths with
        | some found => exact .inl rfl
        | none =>
            by_cases several : above paths.length (limit rules.mediumChangedFiles) = true
            · simp only [several, if_true]
              cases rules.mediumChangedFiles.writable with
              | true => exact .inl rfl
              | false => exact .inr rfl
            · simp only [several]
              exact .inl rfl

end Api

/-! ## A ticket is admitted, or refused by policy -/

namespace Triage

theorem order_limit {v : Value} (typed : v.isLimit = true) (present : v = .null → False) (n : Int) :
    ∃ compared, order n v = .ok compared := by
  cases v with
  | null => exact (present rfl).elim
  | int m => exact ⟨_, rfl⟩
  | bool b => exact ⟨_, rfl⟩
  | _ => cases typed

theorem of_check_error {α : Type} {c : Prop} [Decidable c] {e e' : PyError}
    {f : Unit → Except PyError α} {rest : Except PyError α}
    (failed : (if c then (throw e : Except PyError Unit) >>= f else rest) = .error e') :
    e' = e ∨ rest = .error e' := by
  split_ifs at failed with raised
  · cases failed
    exact .inl rfl
  · exact .inr failed

theorem ceiling_error {limit : Value} {e : PyError} (failed : ceiling limit = .error e) :
    e = Value.tooLong := by
  unfold ceiling Value.printed at failed
  split at failed
  · cases failed
  · split at failed <;> cases failed
    rfl

theorem of_bind_error {α β : Type} {x : Except PyError α} {f : α → Except PyError β} {e : PyError}
    (failed : (x >>= f) = .error e) : x = .error e ∨ ∃ a, f a = .error e := by
  cases x with
  | error e' =>
      cases failed
      exact .inl rfl
  | ok a => exact .inr ⟨a, failed⟩

/-- Admission against a limit that is a number raises nothing but a refusal, unless the number is
too long to be written out. -/
theorem admits_error {config : AppConfig} {trigger : TriggerConfig} {ticket : Ticket}
    {e : PyError} (typed : trigger.maxStoryPoints.isLimit = true)
    (failed : admits config trigger ticket = .error e) : e.kind ≠ .typeError := by
  unfold admits at failed
  dsimp only at failed
  obtain rfl | failed := of_check_error failed
  · simp
  obtain rfl | failed := of_check_error failed
  · simp
  obtain failed | ⟨ceiling, failed⟩ := of_bind_error failed
  · simp [ceiling_error failed, Value.tooLong]
  split at failed
  next => cases failed
  next => cases failed
  next points given present =>
    obtain ⟨compared, ordered⟩ := order_limit typed present points
    rw [ordered] at failed
    obtain rfl | failed := of_check_error failed
    · simp
    · cases failed

variable {W Lbl : Type} {adapters : Adapters W Lbl}

/-- A type error is one that an adapter answered with. -/
def Blames (e : PyError) : Assertion FlowState W AdapterOp AdapterRep Lbl :=
  fun _ _ h => e.kind = .typeError → ∃ op, .reply op (.error e) ∈ h

theorem blames_kind {e : PyError} (other : e.kind ≠ .typeError) (s : FlowState) (w : W)
    (h : History AdapterOp AdapterRep Lbl) : Blames e s w h :=
  fun same => absurd same other

theorem throws_ask (op : AdapterOp) : (Node.ask op).Throws adapters.system Blames := by
  intro s w h
  refine Node.wp_ask.mpr ?_
  intro s' w' h' _
  refine ⟨trivial, ?_⟩
  rintro r s'' w'' - e rfl _
  exact ⟨op, by simp⟩

/-- Before a ticket is admitted its trigger is selected, among those that were declared. -/
theorem select_mem {triggers : List TriggerConfig} {fallback : TriggerConfig}
    (declared : fallback ∈ triggers) (system : String) : (select triggers fallback system).1 ∈ triggers := by
  unfold select
  cases found : triggers.find? fun t => t.provider = system with
  | some trigger => exact List.mem_of_find?_eq_some found
  | none => exact declared

theorem throws_triage {ctx : NodeContext} (typed : ctx.config.WellTyped) :
    (triage ctx).Throws adapters.system Blames := by
  unfold triage
  refine Task.throws_bind Task.throws_read fun before => ?_
  refine Task.throws_ofExcept_bind ?_ fun _ _ => ?_
  · intro e failed
    unfold assertConfiguredFor at failed
    split_ifs at failed <;> cases failed <;> exact blames_kind (by simp)
  cases declared : ctx.config.triggers with
  | nil => exact Task.throws_raise (blames_kind (by simp))
  | cons fallback rest =>
      have chosen := typed.points _ (select_mem
        (declared ▸ List.mem_cons_self : fallback ∈ ctx.config.triggers) before.ticket.system)
      rw [declared] at chosen
      dsimp only
      generalize select (fallback :: rest) fallback before.ticket.system = selected at chosen ⊢
      refine Task.throws_ofExcept_bind ?_ fun provider _ => ?_
      · intro e failed
        unfold Node.ticketAdapter at failed
        split_ifs at failed <;> cases failed <;> exact blames_kind (by simp [configError])
      refine Task.throws_bind (throws_ask _) fun ticket => ?_
      refine Task.throws_bind (Task.throws_update _) fun _ => ?_
      refine Task.throws_ofExcept_bind ?_ fun _ _ => ?_
      · intro e failed
        exact blames_kind (admits_error chosen failed)
      refine Task.throws_bind (Task.throws_update _) fun _ => ?_
      refine Task.throws_bind (Task.throws_update _) fun _ => ?_
      unfold acknowledge
      exact Task.throws_bind Task.throws_read fun _ =>
        Task.throws_handle fun _ => Task.throws_pure _

end Triage

/-! ## What becomes of a text -/

namespace Api

open Configure ConfigStore

variable (safeLoad : String → Except String Value)

/-- A text is read into a configuration of which every field has its declared type, so that
nothing fails over the type of a limit; or it is refused, and a request to store it is told so. -/
structure Settles (text : String) : Prop where
  refused : ∀ e, Config.parse safeLoad text = .error e → e.kind = .configError
  typed : ∀ config, Config.parse safeLoad text = .ok config → config.WellTyped
  tiered : ∀ config, Config.parse safeLoad text = .ok config → ∀ rules blocking,
    governing (.ok config) = .ok (rules, blocking) → ∀ current diff e,
      rules.tierForDiff current diff = .error e → e.kind ≠ .typeError
  triaged : ∀ config, Config.parse safeLoad text = .ok config →
    ∀ ctx : NodeContext, ctx.config = config →
      ∀ (W Lbl : Type) (adapters : Adapters W Lbl),
        (Triage.triage ctx).Throws adapters.system Triage.Blames
  answered : ∀ e, Config.parse safeLoad text = .error e → ∀ w : Deployment,
    ∃ detail, checkConfig safeLoad w ⟨text⟩ = abort 422 detail

variable {safeLoad} {text : String}

theorem parse_meets {raw : Dict} (loaded : safeLoad text = .ok (.dict raw)) :
    Config.parse safeLoad text = parseDict raw := by
  unfold Config.parse
  rw [loaded]

/-- Unless the value is a mapping, there is nothing to go ahead on. -/
theorem parse_other (other : ∀ raw, safeLoad text ≠ .ok (.dict raw)) :
    ∃ message, Config.parse safeLoad text = .error (configError message) := by
  unfold Config.parse
  split
  next => exact ⟨_, rfl⟩
  next raw loaded => exact absurd loaded (other raw)
  next => exact ⟨_, rfl⟩

theorem wellShaped_iff {raw : Dict} : WellShaped (.dict raw) ↔
    (∀ e, parseDict raw = .error e → e.kind = .configError) ∧
      ∀ config, parseDict raw = .ok config → config.WellTyped := by
  have meets := parseDict_meets raw
  change verdict (demands raw ++ stored raw) ≠ .escaped ↔ _
  rw [verdict_append]
  cases parsed : parseDict raw with
  | ok config =>
      have accepted := meets.accepted_iff.mpr ⟨config, parsed⟩
      rw [if_pos accepted, ← wellTyped_iff parsed]
      simp
  | error e =>
      have refused : verdict (demands raw) ≠ .accepted := by
        intro accepted
        obtain ⟨config, same⟩ := meets.accepted_iff.mp accepted
        rw [parsed] at same
        cases same
      rw [if_neg refused, ne_eq, meets.escaped_iff, parsed]
      simp [Refusal]

/-- A text that is refused as it should be, or read into what is declared, is settled. -/
theorem settles_of (refused : ∀ e, Config.parse safeLoad text = .error e → e.kind = .configError)
    (typed : ∀ config, Config.parse safeLoad text = .ok config → config.WellTyped) :
    Settles safeLoad text where
  refused := refused
  typed := typed
  tiered := by
    intro config parsed rules blocking governs current diff e failed
    cases governs
    let declared : DeclaredRules := {
      highPaths := config.risk.highPaths
      mediumPaths := config.risk.mediumPaths
      mediumChangedFiles := config.risk.mediumChangedFiles
      highChangedFiles := config.risk.highChangedFiles }
    have settled := declared.tier_for_diff_eq (typed config parsed).medium
      (typed config parsed).high current diff
    change declared.tierForDiff current diff = .error e at failed
    rw [failed] at settled
    rcases settled with absurd | long
    · cases absurd
    · cases long
      simp [Value.tooLong]
  triaged := by
    rintro config parsed ctx rfl W Lbl adapters
    exact Triage.throws_triage (typed ctx.config parsed)
  answered := by
    intro e failed w
    refine ⟨"this does not parse as a kuwarden.yaml: " ++ e.message, ?_⟩
    unfold checkConfig parseBody
    simp only [failed, refused e failed, if_true]
    rfl

/-- A text is settled if and only if, of what its value holds, nothing has another shape than
the parser goes ahead on. -/
theorem settles_iff :
    Settles safeLoad text ↔ ∀ v, safeLoad text = .ok v → WellShaped v := by
  constructor
  · intro settles v loaded
    cases v with
    | dict raw =>
        have same := parse_meets loaded
        exact wellShaped_iff.mpr ⟨fun e failed => settles.refused e (same.trans failed),
          fun config parsed => settles.typed config (same.trans parsed)⟩
    | _ => exact trivial
  · intro shaped
    by_cases mapping : ∃ raw, safeLoad text = .ok (.dict raw)
    · obtain ⟨raw, loaded⟩ := mapping
      obtain ⟨refused, typed⟩ := wellShaped_iff.mp (shaped _ loaded)
      rw [← parse_meets loaded] at refused typed
      exact settles_of refused typed
    · obtain ⟨message, failed⟩ := parse_other fun raw loaded => mapping ⟨raw, loaded⟩
      exact settles_of (by rw [failed]; rintro e ⟨⟩; rfl) (by rw [failed]; rintro config ⟨⟩)

/-- A configuration in which the `toolchain` key was left empty. -/
def emptyToolchain : Dict :=
  [(.str "version", .int 1),
    (.str "app", .dict [(.str "name", .str "shop")]),
    (.str "workspace", .dict [(.str "repos", .list [.dict [(.str "name", .str "shop"),
      (.str "provider", .str "github"), (.str "org", .str "acme"), (.str "repo", .str "shop")]])]),
    (.str "delivery", .dict [(.str "integration_model", .str "gated_merge")]),
    (.str "sandbox", .dict [(.str "toolchain_image", .str "node:22"),
      (.str "test_command", .list [.str "npm", .str "test"])]),
    (.str "toolchain", .null)]

def emptyToolchainText : String :=
  "version: 1\napp: \x7bname: shop\x7d\n" ++
  "workspace:\n  repos:\n    - \x7bname: shop, provider: github, org: acme, repo: shop\x7d\n" ++
  "delivery: \x7bintegration_model: gated_merge\x7d\n" ++
  "sandbox: \x7btoolchain_image: 'node:22', test_command: [npm, test]\x7d\n" ++
  "toolchain:\n"

theorem toolchain_left_empty :
    ¬ Settles (fun _ => .ok (.dict emptyToolchain)) emptyToolchainText := by
  intro settles
  have shaped : WellShaped (.dict emptyToolchain) :=
    wellShaped_iff.mpr ⟨settles.refused, settles.typed⟩
  exact shaped (by decide)

end Api
end KuWarden
