import KuWarden.Policy.Pricing

/-!
Spending adds up, in any order and in any grouping. What is added to the unknown is unknown.
-/
namespace KuWarden

attribute [local simp] combine

theorem combine_cons (total : Option Int) (rest : List (Option Int)) :
    combine (total :: rest) = combine [total, combine rest] := by
  cases total <;> cases known : combine rest <;> simp [known]

@[simp] theorem combine_singleton (total : Option Int) : combine [total] = total := by
  cases total <;> simp

theorem combine_swap (a b : Option Int) : combine [a, b] = combine [b, a] := by
  cases a <;> cases b <;> simp [Int.add_comm]

theorem combine_assoc (a b c : Option Int) :
    combine [combine [a, b], c] = combine [a, combine [b, c]] := by
  cases a <;> cases b <;> cases c <;> simp [Int.add_assoc]

theorem combine_append (a b : List (Option Int)) :
    combine (a ++ b) = combine [combine a, combine b] := by
  induction a with
  | nil => cases known : combine b <;> simp [known]
  | cons total rest ih =>
      rw [List.cons_append, combine_cons total (rest ++ b), ih, ← combine_assoc,
        ← combine_cons total rest]

theorem combine_perm {a b : List (Option Int)} (perm : a.Perm b) : combine a = combine b := by
  induction perm with
  | nil => rfl
  | @cons total rest rest' _ ih => rw [combine_cons total rest, ih, ← combine_cons total rest']
  | swap total total' rest =>
      rw [combine_cons total' (total :: rest), combine_cons total (total' :: rest),
        combine_cons total rest, combine_cons total' rest, ← combine_assoc,
        combine_swap total' total, combine_assoc]
  | trans _ _ ih ih' => exact ih.trans ih'

theorem combine_eq_none_iff {totals : List (Option Int)} :
    combine totals = none ↔ none ∈ totals := by
  induction totals with
  | nil => simp
  | cons total rest ih =>
      cases total with
      | none => simp
      | some total =>
          rw [List.mem_cons, ← ih]
          cases known : combine rest <;> simp [known]

theorem accrue_eq (total : Option Int) (model : String) (usage : Usage) :
    accrue total model usage = combine [total, microCents model usage] := by
  cases total <;> cases known : microCents model usage <;> simp [accrue, known]

/-- More makes no difference to the unknown, and nothing makes none to anything. -/
theorem combine_pair_eq_left {a b : Option Int} :
    combine [a, b] = a ↔ a = none ∨ b = some 0 := by
  cases a <;> cases b <;> simp

end KuWarden
