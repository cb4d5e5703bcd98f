import KuWarden.Flows.Delivery
import Mathlib.Order.Bounds.Basic

/-!
The final tier as the greatest of the provisional tier and the tiers of the rules that match.

`tier_for_diff` tries the rules highest first and returns on the first that matches. What it
returns is what all the rules ask for together, in whatever order they and the files stand.
-/
namespace KuWarden

instance : PartialOrder RiskTier :=
  PartialOrder.lift RiskTier.order fun a b => by cases a <;> cases b <;> decide

namespace RiskTier

theorem le_high (tier : RiskTier) : tier ≤ .high := by
  cases tier <;> decide

theorem le_raise_to_left (current proposed : RiskTier) : current ≤ current.raiseTo proposed :=
  order_le_raise_to current proposed

theorem le_raise_to_right (current proposed : RiskTier) : proposed ≤ current.raiseTo proposed := by
  cases current <;> cases proposed <;> decide

theorem raise_to_eq (current proposed : RiskTier) :
    current.raiseTo proposed = current ∨ current.raiseTo proposed = proposed := by
  unfold raiseTo
  split
  · exact .inr rfl
  · exact .inl rfl

end RiskTier

inductive Rule
  | path (tier : RiskTier) (pattern : String)
  | size (tier : RiskTier) (threshold : Int)
  deriving DecidableEq

namespace Rule

def tier : Rule → RiskTier
  | path tier _ => tier
  | size tier _ => tier

def Matches (paths : List String) : Rule → Prop
  | path _ pattern =>
      ∃ path ∈ paths, globMatches pattern.toList (normalise path.toList) = true
  | size _ threshold => threshold < paths.length

/-- The reason names the rule, and the path or the count that it matches. -/
def Explains (paths : List String) (reason : String) : Rule → Prop
  | path tier pattern =>
      ∃ path ∈ paths, globMatches pattern.toList (normalise path.toList) = true ∧
        reason = path ++ (" matches " ++ tier.text ++ "_paths ") ++ Text.repr pattern
  | size tier threshold =>
      reason = Text.ofNat paths.length ++
        (" files changed, above " ++ tier.text ++ "_changed_files (") ++ Text.ofInt threshold ++ ")"

end Rule

namespace RiskRules

/-- The rules that are declared; none of them asks for the lowest tier. -/
def Declares (rules : RiskRules) : Rule → Prop
  | .path .high pattern => pattern ∈ rules.highPaths
  | .path .medium pattern => pattern ∈ rules.mediumPaths
  | .size .high threshold => rules.highChangedFiles = some threshold
  | .size .medium threshold => rules.mediumChangedFiles = some threshold
  | _ => False

/-- The same rules, with the patterns in another order. -/
structure Rearranges (rules rules' : RiskRules) : Prop where
  highPaths : rules.highPaths.Perm rules'.highPaths
  mediumPaths : rules.mediumPaths.Perm rules'.mediumPaths
  highChangedFiles : rules.highChangedFiles = rules'.highChangedFiles
  mediumChangedFiles : rules.mediumChangedFiles = rules'.mediumChangedFiles

/-- A threshold that is no higher than another; none is above them all. -/
def Lowers (threshold threshold' : Option Int) : Prop :=
  ∀ n, threshold = some n → ∃ n', threshold' = some n' ∧ n' ≤ n

/-- More patterns, and thresholds that are no higher. -/
structure Tightens (rules rules' : RiskRules) : Prop where
  highPaths : rules.highPaths ⊆ rules'.highPaths
  mediumPaths : rules.mediumPaths ⊆ rules'.mediumPaths
  highChangedFiles : Lowers rules.highChangedFiles rules'.highChangedFiles
  mediumChangedFiles : Lowers rules.mediumChangedFiles rules'.mediumChangedFiles

theorem Rearranges.tightens {rules rules' : RiskRules} (same : rules.Rearranges rules') :
    rules.Tightens rules' where
  highPaths := same.highPaths.subset
  mediumPaths := same.mediumPaths.subset
  highChangedFiles n is := ⟨n, same.highChangedFiles ▸ is, le_refl n⟩
  mediumChangedFiles n is := ⟨n, same.mediumChangedFiles ▸ is, le_refl n⟩

theorem Rearranges.symm {rules rules' : RiskRules} (same : rules.Rearranges rules') :
    rules'.Rearranges rules where
  highPaths := same.highPaths.symm
  mediumPaths := same.mediumPaths.symm
  highChangedFiles := same.highChangedFiles.symm
  mediumChangedFiles := same.mediumChangedFiles.symm

/-- A rule that matches leaves one that asks for the same tier and matches, once rules are
tightened and paths are added. -/
theorem Tightens.matched {rules rules' : RiskRules} {paths paths' : List String} {rule : Rule}
    (tight : rules.Tightens rules') (more : paths.Subperm paths') (declared : rules.Declares rule)
    (matched : rule.Matches paths) :
    ∃ rule', rules'.Declares rule' ∧ rule'.Matches paths' ∧ rule'.tier = rule.tier := by
  cases rule with
  | path tier pattern =>
      obtain ⟨path, mem, is⟩ := matched
      have kept : rules'.Declares (.path tier pattern) := by
        cases tier with
        | low => exact declared
        | medium => exact tight.mediumPaths declared
        | high => exact tight.highPaths declared
      exact ⟨.path tier pattern, kept, ⟨path, more.subset mem, is⟩, rfl⟩
  | size tier threshold =>
      have lowered : ∃ n, rules'.Declares (.size tier n) ∧ n ≤ threshold := by
        cases tier with
        | low => exact absurd declared id
        | medium => exact tight.mediumChangedFiles threshold declared
        | high => exact tight.highChangedFiles threshold declared
      obtain ⟨n, kept, low⟩ := lowered
      have longer : paths.length ≤ paths'.length := more.length_le
      have beyond : threshold < paths.length := matched
      exact ⟨.size tier n, kept, show n < (paths'.length : Int) by omega, rfl⟩

end RiskRules

/-! ## The cascade -/

theorem first_match_eq_some {patterns paths : List String} {path pattern : String}
    (found : firstMatch patterns paths = some (path, pattern)) :
    path ∈ paths ∧ pattern ∈ patterns ∧
      globMatches pattern.toList (normalise path.toList) = true := by
  induction paths with
  | nil => cases found
  | cons head rest ih =>
      simp only [firstMatch] at found
      split at found
      · next pattern' hit =>
          cases found
          have is := List.find?_some hit
          exact ⟨List.mem_cons_self, List.mem_of_find?_eq_some hit, is⟩
      · obtain ⟨mem, declared, is⟩ := ih found
        exact ⟨List.mem_cons_of_mem head mem, declared, is⟩

theorem first_match_eq_none {patterns paths : List String}
    (missing : firstMatch patterns paths = none) {path pattern : String} (mem : path ∈ paths)
    (declared : pattern ∈ patterns) :
    globMatches pattern.toList (normalise path.toList) = false := by
  induction paths with
  | nil => cases mem
  | cons head rest ih =>
      simp only [firstMatch] at missing
      split at missing
      · cases missing
      · next none_here =>
          rcases List.mem_cons.mp mem with rfl | mem
          · simpa using List.find?_eq_none.mp none_here pattern declared
          · exact ih missing mem

theorem above_some {count : Nat} {threshold : Option Int} (beyond : above count threshold = true) :
    ∃ n, threshold = some n ∧ n < count := by
  cases threshold with
  | none => cases beyond
  | some n => exact ⟨n, rfl, of_decide_eq_true beyond⟩

/-- A tier with the reason for it: it is the current one, or that of a rule that matches and that
the reason names, and no rule that matches asks for more. -/
structure Settles (current : RiskTier) (paths : List String) (rules : RiskRules)
    (settled : RiskTier × String) : Prop where
  named : settled.1 = current ∨ ∃ rule, rules.Declares rule ∧ rule.Matches paths ∧
    rule.tier = settled.1 ∧ rule.Explains paths settled.2
  greatest : ∀ rule, rules.Declares rule → rule.Matches paths → rule.tier ≤ settled.1

section
variable {current : RiskTier} {paths : List String} {rules : RiskRules}

theorem Settles.of_path {tier : RiskTier} {patterns : List String} {path pattern reason : String}
    (found : firstMatch patterns paths = some (path, pattern))
    (declares : ∀ pattern ∈ patterns, rules.Declares (.path tier pattern))
    (is : reason = path ++ (" matches " ++ tier.text ++ "_paths ") ++ Text.repr pattern)
    (greatest : ∀ rule, rules.Declares rule → rule.Matches paths → rule.tier ≤ tier) :
    Settles current paths rules (tier, reason) := by
  obtain ⟨mem, declared, hit⟩ := first_match_eq_some found
  exact ⟨.inr ⟨.path tier pattern, declares pattern declared, ⟨path, mem, hit⟩, rfl,
    ⟨path, mem, hit, is⟩⟩, greatest⟩

theorem Settles.of_size {tier : RiskTier} {threshold : Option Int} {reason : String}
    (beyond : above paths.length threshold = true)
    (declares : ∀ n, threshold = some n → rules.Declares (.size tier n))
    (is : reason = Text.ofNat paths.length ++
      (" files changed, above " ++ tier.text ++ "_changed_files (") ++ thresholdText threshold ++
      ")")
    (greatest : ∀ rule, rules.Declares rule → rule.Matches paths → rule.tier ≤ tier) :
    Settles current paths rules (tier, reason) := by
  obtain ⟨n, rfl, more⟩ := above_some beyond
  exact ⟨.inr ⟨.size tier n, declares n rfl, more, rfl, is⟩, greatest⟩

/-- The rules of one tier, none of which matches. -/
structure Passed (tier : RiskTier) (patterns : List String) (threshold : Option Int)
    (paths : List String) : Prop where
  none_matches : firstMatch patterns paths = none
  not_above : ¬ above paths.length threshold = true

theorem Passed.no_path {tier : RiskTier} {patterns : List String} {threshold : Option Int}
    (passed : Passed tier patterns threshold paths) {pattern : String}
    (mem : pattern ∈ patterns) :
    ¬ Rule.Matches paths (.path tier pattern) := by
  rintro ⟨path, there, hit⟩
  rw [first_match_eq_none passed.none_matches there mem] at hit
  cases hit

theorem Passed.no_size {tier : RiskTier} {patterns : List String} {n : Int}
    (passed : Passed tier patterns (some n) paths) : ¬ Rule.Matches paths (.size tier n) :=
  fun beyond => passed.not_above (decide_eq_true beyond)

theorem Passed.high (passed : Passed .high rules.highPaths rules.highChangedFiles paths)
    {rule : Rule} (declared : rules.Declares rule) (matched : rule.Matches paths) :
    rule.tier = .medium := by
  cases rule with
  | path tier pattern =>
      cases tier with
      | low => exact absurd declared id
      | medium => rfl
      | high => exact absurd matched (passed.no_path declared)
  | size tier n =>
      cases tier with
      | low => exact absurd declared id
      | medium => rfl
      | high =>
          have is : rules.highChangedFiles = some n := declared
          exact absurd matched (is ▸ passed).no_size

theorem Passed.medium
    (passed : Passed .medium rules.mediumPaths rules.mediumChangedFiles paths)
    {rule : Rule} (declared : rules.Declares rule) (matched : rule.Matches paths) :
    rule.tier ≠ .medium := by
  rintro medium
  cases rule with
  | path tier pattern =>
      obtain rfl : tier = .medium := medium
      exact passed.no_path declared matched
  | size tier n =>
      obtain rfl : tier = .medium := medium
      have is : rules.mediumChangedFiles = some n := declared
      exact (is ▸ passed).no_size matched

theorem tier_for_diff_settles (current : RiskTier) (diff : Option Diff) (rules : RiskRules) :
    Settles current ((diff.map Diff.paths).getD []) rules (tierForDiff current diff rules) := by
  unfold tierForDiff
  generalize (diff.map Diff.paths).getD [] = paths
  dsimp only
  split
  · next path pattern found =>
      exact .of_path found (fun _ mem => mem) (by simp [RiskTier.text])
        fun rule _ _ => rule.tier.le_high
  · next no_high =>
      split
      · next beyond =>
          exact .of_size beyond (fun _ is => is) (by simp [RiskTier.text])
            fun rule _ _ => rule.tier.le_high
      · next not_over =>
          have high : Passed .high rules.highPaths rules.highChangedFiles paths :=
            ⟨no_high, not_over⟩
          have at_most : ∀ rule, rules.Declares rule → rule.Matches paths → rule.tier ≤ .medium :=
            fun rule declared matched => by rw [high.high declared matched]
          split
          · next path pattern found =>
              exact .of_path found (fun _ mem => mem) (by simp [RiskTier.text]) at_most
          · next no_medium =>
              split
              · next beyond =>
                  exact .of_size beyond (fun _ is => is) (by simp [RiskTier.text]) at_most
              · next not_over =>
                  have medium : Passed .medium rules.mediumPaths rules.mediumChangedFiles
                      paths := ⟨no_medium, not_over⟩
                  exact ⟨.inl rfl, fun rule declared matched => absurd
                    (high.high declared matched) (medium.medium declared matched)⟩

end

/-! ## The final tier -/

namespace Flow

/-- The paths of a run's diff; none without a diff. -/
def changedPaths (state : FlowState) : List String := (state.diff.map Diff.paths).getD []

/-- The tiers that are asked for: the provisional one, and those of the rules that match. -/
def Asked (current : RiskTier) (rules : RiskRules) (paths : List String) : Set RiskTier :=
  {tier | tier = current ∨ ∃ rule, rules.Declares rule ∧ rule.Matches paths ∧ rule.tier = tier}

theorem final_tier_greatest (state : FlowState) (params : FlowInput) :
    IsGreatest (Asked state.riskTier params.riskRules (changedPaths state))
      (finalTier state params).1 := by
  have settles := tier_for_diff_settles state.riskTier state.diff params.riskRules
  constructor
  · rcases RiskTier.raise_to_eq state.riskTier
      (tierForDiff state.riskTier state.diff params.riskRules).1 with kept | raised
    · exact .inl kept
    · rcases settles.named with kept | ⟨rule, declared, matched, is, -⟩
      · exact .inl (raised.trans kept)
      · exact .inr ⟨rule, declared, matched, is.trans raised.symm⟩
  · rintro tier (rfl | ⟨rule, declared, matched, rfl⟩)
    · exact RiskTier.le_raise_to_left _ _
    · exact (settles.greatest rule declared matched).trans (RiskTier.le_raise_to_right _ _)

theorem final_tier_mono {state state' : FlowState} {params params' : FlowInput}
    (provisional : state.riskTier ≤ state'.riskTier)
    (files : (changedPaths state).Subperm (changedPaths state'))
    (rules : params.riskRules.Tightens params'.riskRules) :
    (finalTier state params).1 ≤ (finalTier state' params').1 := by
  have upper := (final_tier_greatest state' params').2
  rcases (final_tier_greatest state params).1 with kept | ⟨rule, declared, matched, is⟩
  · rw [kept]
    exact provisional.trans (upper (.inl rfl))
  · obtain ⟨rule', declared', matched', same⟩ := rules.matched files declared matched
    exact upper (.inr ⟨rule', declared', matched', same.trans is⟩)

theorem final_tier_explained {state : FlowState} {params : FlowInput}
    (raised : state.riskTier < (finalTier state params).1) :
    ∃ rule, params.riskRules.Declares rule ∧ rule.Matches (changedPaths state) ∧
      rule.tier = (finalTier state params).1 ∧
      rule.Explains (changedPaths state) (finalTier state params).2 := by
  have proposed : (finalTier state params).1 =
      (tierForDiff state.riskTier state.diff params.riskRules).1 :=
    (RiskTier.raise_to_eq state.riskTier _).resolve_left raised.ne'
  rcases (tier_for_diff_settles state.riskTier state.diff params.riskRules).named with
    kept | ⟨rule, declared, matched, is, explains⟩
  · exact absurd (proposed.trans kept) raised.ne'
  · exact ⟨rule, declared, matched, is.trans proposed.symm, explains⟩

/-- The final tier is the greatest that is asked for, whatever the order of the files and the
patterns; more of them, or lower thresholds, never lower it; and where it exceeds the
provisional tier its reason is a rule of exactly this tier. -/
theorem final_tier_maximum (state : FlowState) (params : FlowInput) :
    IsGreatest (Asked state.riskTier params.riskRules (changedPaths state))
      (finalTier state params).1 ∧
    (∀ (state' : FlowState) (params' : FlowInput), state'.riskTier = state.riskTier →
      (changedPaths state').Perm (changedPaths state) →
      params'.riskRules.Rearranges params.riskRules →
      (finalTier state' params').1 = (finalTier state params).1) ∧
    (∀ (state' : FlowState) (params' : FlowInput), state.riskTier ≤ state'.riskTier →
      (changedPaths state).Subperm (changedPaths state') →
      params.riskRules.Tightens params'.riskRules →
      (finalTier state params).1 ≤ (finalTier state' params').1) ∧
    (state.riskTier < (finalTier state params).1 →
      ∃ rule, params.riskRules.Declares rule ∧ rule.Matches (changedPaths state) ∧
        rule.tier = (finalTier state params).1 ∧
        rule.Explains (changedPaths state) (finalTier state params).2) := by
  refine ⟨final_tier_greatest state params, ?_, fun _ _ => final_tier_mono, final_tier_explained⟩
  intro state' params' provisional files rules
  exact le_antisymm (final_tier_mono provisional.le files.subperm rules.tightens)
    (final_tier_mono provisional.ge files.symm.subperm rules.symm.tightens)

/-- A change to one file of the payments, with a rule of each kind. -/
def paying : FlowState where
  runId := ⟨1⟩
  rootRunId := ⟨1⟩
  ticket := { id := "AB-1", system := "azure-devops", title := "", body := "" }
  policyCommit := ""
  policyBundle := []
  diff := some ⟨[⟨"pay/a.ts", 1, 0⟩]⟩

def payingParams : FlowInput where
  runId := ⟨1⟩
  appId := ⟨7⟩
  ticket := { id := "AB-1", system := "azure-devops", title := "", body := "" }
  policyCommit := ""
  riskRules := {
    highPaths := ["pay/*"]
    mediumPaths := ["**"]
    mediumChangedFiles := some 0 }

theorem final_tier_maximum_paying :
    paying.riskTier = .low ∧ (finalTier paying payingParams).1 = .high ∧
      ∃ rule, payingParams.riskRules.Declares rule ∧ rule.Matches (changedPaths paying) ∧
        rule.tier = (finalTier paying payingParams).1 ∧
        rule.Explains (changedPaths paying) (finalTier paying payingParams).2 := by
  have raised : paying.riskTier.order < (finalTier paying payingParams).1.order := by decide
  exact ⟨rfl, by decide, (final_tier_maximum paying payingParams).2.2.2 raised⟩

end Flow

end KuWarden
