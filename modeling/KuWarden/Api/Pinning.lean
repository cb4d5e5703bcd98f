import KuWarden.Api.Governing
import KuWarden.ConfigStore
import KuWarden.Flows.Delivery

/-!
The rules a run is pinned with, and those of the configuration that its worker resolves.

The two are resolved in different processes. Where the API resolves nothing it pins no rules,
and no diff trips one.
-/
namespace KuWarden.Api

open ConfigStore KuWarden.Flow

/-- The tiering rules of a configuration, with its thresholds decoded. -/
def rulesOf (converter : Value → Except PyError (Option Int)) (config : AppConfig) :
    Except PyError RiskRules := do
  let mediumChangedFiles ← converter config.risk.mediumChangedFiles
  let highChangedFiles ← converter config.risk.highChangedFiles
  return {
    highPaths := config.risk.highPaths
    mediumPaths := config.risk.mediumPaths
    mediumChangedFiles, highChangedFiles }

def TripsHigh (rules : RiskRules) (paths : List String) : Prop :=
  (∃ path ∈ paths, (matchesAny rules.highPaths path).isSome) ∨
    above paths.length rules.highChangedFiles = true

/-- A rule that makes a change medium, if none makes it high. -/
def TripsMedium (rules : RiskRules) (paths : List String) : Prop :=
  (∃ path ∈ paths, (matchesAny rules.mediumPaths path).isSome) ∨
    above paths.length rules.mediumChangedFiles = true

instance (rules : RiskRules) (paths : List String) : Decidable (TripsHigh rules paths) :=
  inferInstanceAs (Decidable (_ ∨ _))

instance (rules : RiskRules) (paths : List String) : Decidable (TripsMedium rules paths) :=
  inferInstanceAs (Decidable (_ ∨ _))

def changed (state : FlowState) : List String := (state.diff.map Diff.paths).getD []

/-- Every rule of the worker's configuration that the diff trips finds the run tiered as the
rule asks, or with a rule that the API resolved, which is tripped and asks as much. -/
structure Covered (converter : Value → Except PyError (Option Int))
    (resolved worker : Except PyError AppConfig) (state : FlowState) : Prop where
  high : ∀ rules, worker >>= rulesOf converter = .ok rules → TripsHigh rules (changed state) →
    state.riskTier = .high ∨ ∃ declared, resolved >>= rulesOf converter = .ok declared ∧
      TripsHigh declared (changed state)
  medium : ∀ rules, worker >>= rulesOf converter = .ok rules →
    TripsMedium rules (changed state) →
    state.riskTier ≠ .low ∨ ∃ declared, resolved >>= rulesOf converter = .ok declared ∧
      (TripsHigh declared (changed state) ∨ TripsMedium declared (changed state))

/-! ## The tier that rules settle -/

theorem first_match_isSome {patterns paths : List String} :
    (firstMatch patterns paths).isSome ↔ ∃ path ∈ paths, (matchesAny patterns path).isSome := by
  induction paths with
  | nil => simp [firstMatch]
  | cons path rest ih =>
      unfold firstMatch
      cases found : matchesAny patterns path with
      | some pattern => simp [found]
      | none => simp [found, ih]

theorem tier_for_diff_eq (current : RiskTier) (diff : Option Diff) (rules : RiskRules) :
    (tierForDiff current diff rules).1 =
      let paths := (diff.map Diff.paths).getD []
      if TripsHigh rules paths then .high
      else if TripsMedium rules paths then .medium
      else current := by
  have matched : ∀ patterns : List String,
      (∃ path ∈ (diff.map Diff.paths).getD [], (matchesAny patterns path).isSome = true) ↔
        (firstMatch patterns ((diff.map Diff.paths).getD [])).isSome = true :=
    fun patterns => first_match_isSome.symm
  unfold tierForDiff TripsHigh TripsMedium
  simp only [matched]
  cases firstMatch rules.highPaths ((diff.map Diff.paths).getD []) with
  | some hit => simp
  | none =>
      by_cases many : above ((diff.map Diff.paths).getD []).length rules.highChangedFiles = true
      · simp [many]
      · cases firstMatch rules.mediumPaths ((diff.map Diff.paths).getD []) with
        | some hit => simp [many]
        | none =>
            by_cases several :
                above ((diff.map Diff.paths).getD []).length rules.mediumChangedFiles = true
            · simp [many, several]
            · simp [many, several]

theorem order_raise_to (current proposed : RiskTier) :
    (current.raiseTo proposed).order = max current.order proposed.order := by
  cases current <;> cases proposed <;> rfl

/-- How far a set of rules raises a diff. -/
def escalation (rules : RiskRules) (paths : List String) : Nat :=
  if TripsHigh rules paths then 2 else if TripsMedium rules paths then 1 else 0

theorem order_final_tier (state : FlowState) (params : FlowInput) :
    (finalTier state params).1.order =
      max state.riskTier.order (escalation params.riskRules (changed state)) := by
  have settled := tier_for_diff_eq state.riskTier state.diff params.riskRules
  dsimp only at settled
  have final : (finalTier state params).1 = state.riskTier.raiseTo
      (tierForDiff state.riskTier state.diff params.riskRules).1 := rfl
  rw [final, settled, order_raise_to, escalation, changed]
  split
  · rfl
  · split
    · rfl
    · rw [max_self, Nat.max_zero]

theorem escalation_eq_two {rules : RiskRules} {paths : List String} :
    escalation rules paths = 2 ↔ TripsHigh rules paths := by
  unfold escalation
  by_cases high : TripsHigh rules paths <;> by_cases medium : TripsMedium rules paths <;>
    simp [high, medium]

theorem escalation_pos {rules : RiskRules} {paths : List String} :
    0 < escalation rules paths ↔ TripsHigh rules paths ∨ TripsMedium rules paths := by
  unfold escalation
  by_cases high : TripsHigh rules paths <;> by_cases medium : TripsMedium rules paths <;>
    simp [high, medium]

theorem escalation_le (rules : RiskRules) (paths : List String) : escalation rules paths ≤ 2 := by
  unfold escalation
  split
  · exact le_rfl
  · split <;> decide

theorem max_le_max_iff {t e e' : Nat} (ht : t ≤ 2) (he : e ≤ 2) (he' : e' ≤ 2) :
    max t e' ≤ max t e ↔ (e' = 2 → t = 2 ∨ e = 2) ∧ (0 < e' → t ≠ 0 ∨ 0 < e) := by
  omega

theorem pinned_rules {converter : Value → Except PyError (Option Int)}
    {resolved : Except PyError AppConfig} {request : Request} {params : FlowInput}
    (nulls : converter .null = .ok none)
    (launched : launch converter resolved request = .ok params) :
    resolved >>= rulesOf converter = .ok params.riskRules ∨
      (∃ exc, resolved = .error exc) ∧ params.riskRules = {} := by
  unfold launch at launched
  obtain ⟨⟨rules, blocking⟩, governs, launched⟩ := Config.of_bind_ok launched
  obtain ⟨medium, read, launched⟩ := Config.of_bind_ok launched
  obtain ⟨high, read', launched⟩ := Config.of_bind_ok launched
  cases launched
  cases resolved with
  | ok config =>
      refine .inl ?_
      cases governs
      show rulesOf converter config = _
      unfold rulesOf
      rw [show converter config.risk.mediumChangedFiles = .ok medium from read,
        show converter config.risk.highChangedFiles = .ok high from read']
      rfl
  | error exc =>
      refine .inr ⟨⟨exc, rfl⟩, ?_⟩
      unfold governing at governs
      dsimp only at governs
      split at governs
      · cases governs
        cases nulls.symm.trans read
        cases nulls.symm.trans read'
        rfl
      · cases governs

theorem escalation_empty (paths : List String) : escalation {} paths = 0 := by
  simp [escalation, TripsHigh, TripsMedium, matchesAny, above]

theorem covered_iff {converter : Value → Except PyError (Option Int)}
    {resolved worker : Except PyError AppConfig} {request : Request} {params : FlowInput}
    {rules : RiskRules} {state : FlowState} (nulls : converter .null = .ok none)
    (launched : launch converter resolved request = .ok params)
    (declared : worker >>= rulesOf converter = .ok rules) :
    Covered converter resolved worker state ↔
      (escalation rules (changed state) = 2 → state.riskTier.order = 2 ∨
        escalation params.riskRules (changed state) = 2) ∧
      (0 < escalation rules (changed state) → state.riskTier.order ≠ 0 ∨
        0 < escalation params.riskRules (changed state)) := by
  have is_high : state.riskTier.order = 2 ↔ state.riskTier = .high := by
    cases state.riskTier <;> simp [RiskTier.order]
  have is_low : state.riskTier.order = 0 ↔ state.riskTier = .low := by
    cases state.riskTier <;> simp [RiskTier.order]
  have pins : ∀ P : RiskRules → Prop, ¬ P {} →
      ((∃ declared, resolved >>= rulesOf converter = .ok declared ∧ P declared) ↔
        P params.riskRules) := by
    intro P empty
    rcases pinned_rules nulls launched with read | ⟨⟨exc, rfl⟩, none_⟩
    · refine ⟨?_, fun holds => ⟨_, read, holds⟩⟩
      rintro ⟨declared, read', holds⟩
      cases read.symm.trans read'
      exact holds
    · rw [none_]
      refine ⟨?_, fun holds => absurd holds empty⟩
      rintro ⟨declared, same, -⟩
      cases same
  have none_high : ¬ TripsHigh {} (changed state) := by
    rw [← escalation_eq_two, escalation_empty]
    decide
  have none_tripped : ¬ (TripsHigh {} (changed state) ∨ TripsMedium {} (changed state)) := by
    rw [← escalation_pos, escalation_empty]
    decide
  have highs := pins (fun rules => TripsHigh rules (changed state)) none_high
  have mediums := pins (fun rules => TripsHigh rules (changed state) ∨
    TripsMedium rules (changed state)) none_tripped
  rw [is_high, ne_eq, is_low, escalation_eq_two, escalation_eq_two, escalation_pos, escalation_pos]
  constructor
  · intro ⟨high, medium⟩
    refine ⟨fun trips => (high rules declared trips).imp_right highs.mp, ?_⟩
    rintro (trips | trips)
    · rcases high rules declared trips with tier | tripped
      · exact .inl (by rw [tier]; decide)
      · exact .inr (.inl (highs.mp tripped))
    · exact (medium rules declared trips).imp_right mediums.mp
  · intro ⟨high, medium⟩
    refine ⟨fun rules' read trips => ?_, fun rules' read trips => ?_⟩
    · cases declared.symm.trans read
      exact (high trips).imp_right highs.mpr
    · cases declared.symm.trans read
      exact (medium (.inr trips)).imp_right mediums.mpr

/-! ## Two processes -/

section

variable {safeLoad : String → Except String Value}
  {converter : Value → Except PyError (Option Int)} {host host' : Host} {now now' : Nat}
  {cached cached' : Option Entry} {fallback : Option AppConfig} {rows : Option AppRows}
  {request : Request} {params : FlowInput} {rules : RiskRules}

/-- The final tier of a run and the one its worker's configuration asks for. -/
theorem pinned_tier_iff (state : FlowState) (nulls : converter .null = .ok none)
    (launched : launch converter
      (resolve safeLoad host (some request.appId) none now cached rows).1 request = .ok params)
    (declared : (resolve safeLoad host' (some request.appId) fallback now' cached' rows).1 >>=
      rulesOf converter = .ok rules) :
    (finalTier state { params with riskRules := rules }).1.order ≤
        (finalTier state params).1.order ↔
      Covered converter
        (resolve safeLoad host (some request.appId) none now cached rows).1
        (resolve safeLoad host' (some request.appId) fallback now' cached' rows).1 state := by
  rw [covered_iff nulls launched declared, order_final_tier, order_final_tier]
  refine max_le_max_iff ?_ (escalation_le _ _) (escalation_le _ _)
  cases state.riskTier <;> decide

end

/-! ## A worker with a file of its own -/

/-- What the converter makes of a number or of nothing. -/
def decoded : Value → Except PyError (Option Int)
  | .null => .ok none
  | .int n => .ok (some n)
  | _ => .error ⟨.typeError, "Expected int or None", none⟩

/-- A configuration under which infrastructure is high risk. -/
def guarded : AppConfig where
  name := "shop"
  repos := [{ name := "shop", provider := "github", org := "acme", repo := "shop" }]
  triggers := []
  integrationModel := .gatedMerge
  sandbox := { toolchainImage := "python", testCommand := ["pytest"] }
  toolchainId := "none"
  risk := { highPaths := ["infra/*"] }

/-- The shop, registered, with nothing stored. -/
def registered : AppRows where
  registered := ⟨"shop", .gatedMerge⟩

def delivery : Request where
  runId := ⟨1⟩
  appId := ⟨7⟩
  ticketId := "AB-1"
  provider := "azure-devops"

def pinned : FlowInput where
  runId := ⟨1⟩
  appId := ⟨7⟩
  ticket := { id := "AB-1", system := "azure-devops", title := "", body := "" }
  policyCommit := policyCommit
  policyBundle := [(.str "source", .str "not-loaded")]
  blockingVerifiers := allVerifiers

/-- A run of low risk that has changed infrastructure. -/
def infra : FlowState where
  runId := ⟨1⟩
  rootRunId := ⟨1⟩
  ticket := { id := "AB-1", system := "azure-devops", title := "", body := "" }
  policyCommit := policyCommit
  policyBundle := []
  diff := some ⟨[⟨"infra/main.tf", 1, 0⟩]⟩

theorem launch_registered (safeLoad : String → Except String Value) :
    launch decoded (resolve safeLoad {} (some ⟨7⟩) none 0 none (some registered)).1 delivery =
      .ok pinned := rfl

/-- What the worker resolves, from the file it was started with. -/
theorem resolve_guarded : (resolve (fun _ => .error "") {} (some ⟨7⟩) (some guarded) 0 none
    (some registered)).1 >>= rulesOf decoded = .ok { highPaths := ["infra/*"] } := rfl

/-- The API resolves nothing and pins no rules. -/
theorem pinned_tier_lower : ¬ ∀ (safeLoad : String → Except String Value)
    (converter : Value → Except PyError (Option Int)) (host host' : Host) (now now' : Nat)
    (cached cached' : Option Entry) (fallback : Option AppConfig) (rows : Option AppRows)
    (request : Request) (params : FlowInput) (rules : RiskRules) (state : FlowState),
    converter .null = .ok none →
    launch converter
      (resolve safeLoad host (some request.appId) none now cached rows).1 request = .ok params →
    (resolve safeLoad host' (some request.appId) fallback now' cached' rows).1 >>=
      rulesOf converter = .ok rules →
    (finalTier state { params with riskRules := rules }).1.order ≤
      (finalTier state params).1.order := by
  intro least
  have below := least (fun _ => .error "") decoded {} {} 0 0 none none (some guarded)
    (some registered) delivery pinned { highPaths := ["infra/*"] } infra rfl
    (launch_registered _) resolve_guarded
  revert below
  decide +kernel

/-- A run that the API pins no rules for. -/
theorem pinned_tier_iff_registered :
    (finalTier infra { pinned with riskRules := { highPaths := ["infra/*"] } }).1.order ≤
        (finalTier infra pinned).1.order ↔
      Covered decoded
        (resolve (fun _ => .error "") {} (some delivery.appId) none 0 none (some registered)).1
        (resolve (fun _ => .error "") {} (some delivery.appId) (some guarded) 0 none (some registered)).1
        infra :=
  pinned_tier_iff infra rfl (launch_registered _) resolve_guarded

end KuWarden.Api
