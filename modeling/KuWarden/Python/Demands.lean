import Mathlib.Data.List.Basic

/-!
Code that checks a value and converts it in one pass.

A check that fails raises the error its callers wait for; a conversion that fails raises what it
likes. Which of the two a value is answered with is settled by the first demand it does not meet.
-/
namespace Python

/-- What code asks of its input: with a check, or by going ahead. -/
inductive Demand
  | checked (met : Bool)
  | assumed (met : Bool)
  deriving DecidableEq

inductive Verdict
  | accepted | refused | escaped
  deriving DecidableEq

/-- How an input is answered, of which these demands are made in turn. -/
def verdict : List Demand → Verdict
  | [] => .accepted
  | .checked met :: rest => if met then verdict rest else .refused
  | .assumed met :: rest => if met then verdict rest else .escaped

theorem verdict_append (p q : List Demand) :
    verdict (p ++ q) = if verdict p = .accepted then verdict q else verdict p := by
  induction p with
  | nil => rfl
  | cons demand rest ih =>
      cases demand with
      | checked met => cases met <;> simp [verdict, ih]
      | assumed met => cases met <;> simp [verdict, ih]

variable {ε α β : Type} {expected : ε → Prop}

def Verdict.Fits (expected : ε → Prop) : Verdict → Except ε α → Prop
  | .accepted, .ok _ => True
  | .refused, .error e => expected e
  | .escaped, .error e => ¬ expected e
  | _, _ => False

/-- The code answers as the verdict on its demands has it. -/
def Meets (expected : ε → Prop) (demands : List Demand) (x : Except ε α) : Prop :=
  (verdict demands).Fits expected x

namespace Meets

theorem ok (a : α) : Meets expected [] (.ok a : Except ε α) := trivial

theorem bind {p q : List Demand} {x : Except ε α} {f : α → Except ε β}
    (first : Meets expected p x) (rest : ∀ a, x = .ok a → Meets expected q (f a)) :
    Meets expected (p ++ q) (x >>= f) := by
  unfold Meets at first rest ⊢
  rw [verdict_append]
  cases x with
  | ok a =>
      cases accepted : verdict p <;> simp only [accepted, Verdict.Fits] at first
      exact rest a rfl
  | error e =>
      cases failed : verdict p <;> simp only [failed, Verdict.Fits] at first
      · exact first
      · exact first

theorem map {p : List Demand} {x : Except ε α} (g : α → β) (first : Meets expected p x) :
    Meets expected p (x >>= fun a => .ok (g a)) := by
  have composed : Meets expected (p ++ []) (x >>= fun a => .ok (g a)) :=
    bind first fun a _ => ok (g a)
  rwa [List.append_nil] at composed

/-- After a demand that is not met none is made. -/
theorem stops {p q : List Demand} {x : Except ε α} (first : Meets expected p x)
    (unmet : verdict p ≠ .accepted) : Meets expected (p ++ q) x := by
  unfold Meets at first ⊢
  rw [verdict_append, if_neg unmet]
  exact first

theorem checked {met : Bool} {q : List Demand} {x : Except ε α}
    (fails : met = false → ∃ e, x = .error e ∧ expected e)
    (passes : met = true → Meets expected q x) : Meets expected (.checked met :: q) x := by
  cases met with
  | false =>
      obtain ⟨e, rfl, refusal⟩ := fails rfl
      exact refusal
  | true => exact passes rfl

/-- A conversion that nothing has checked the value for. -/
theorem assumed {met : Bool} {q : List Demand} {x : Except ε α}
    (fails : met = false → ∃ e, x = .error e ∧ ¬ expected e)
    (passes : met = true → Meets expected q x) : Meets expected (.assumed met :: q) x := by
  cases met with
  | false =>
      obtain ⟨e, rfl, escapes⟩ := fails rfl
      exact escapes
  | true => exact passes rfl

theorem accepted_iff {demands : List Demand} {x : Except ε α} (meets : Meets expected demands x) :
    verdict demands = .accepted ↔ ∃ a, x = .ok a := by
  unfold Meets at meets
  cases settled : verdict demands <;> cases x <;> simp_all [Verdict.Fits]

theorem escaped_iff {demands : List Demand} {x : Except ε α} (meets : Meets expected demands x) :
    verdict demands = .escaped ↔ ∃ e, x = .error e ∧ ¬ expected e := by
  unfold Meets at meets
  cases settled : verdict demands <;> cases x <;> simp_all [Verdict.Fits]

/-- A guard of the code, at the head of what follows it. -/
theorem check {c : Prop} [Decidable c] {met : Bool} {e : ε} {f : PUnit → Except ε α}
    {q : List Demand} {x : Except ε α} (agrees : met = true ↔ ¬ c) (refusal : expected e)
    (rest : ¬ c → Meets expected q x) :
    Meets expected (.checked met :: q) (if c then (throw e : Except ε PUnit) >>= f else x) := by
  by_cases raised : c
  · have failed : met = false := Bool.eq_false_iff.mpr fun passed => agrees.mp passed raised
    rw [if_pos raised, failed]
    exact refusal
  · rw [if_neg raised, agrees.mpr raised]
    exact rest raised

/-- A conversion of the code, at the head of what follows it. -/
theorem convert {x : Except ε α} {f : α → Except ε β} {q : List Demand}
    (escapes : ∀ e, x = .error e → ¬ expected e)
    (rest : ∀ a, x = .ok a → Meets expected q (f a)) :
    Meets expected (.assumed x.isOk :: q) (x >>= f) := by
  cases x with
  | ok a => exact rest a rfl
  | error e => exact escapes e rfl

/-- A loop whose body only checks. -/
theorem check_all {γ : Type} {l : List γ} {c : γ → Prop} [DecidablePred c] {met : Bool}
    {e : γ → ε} (agrees : met = true ↔ ∀ a ∈ l, ¬ c a) (refusal : ∀ a, expected (e a)) :
    Meets expected [.checked met] (forIn l PUnit.unit fun a _ =>
      if c a then (throw (e a) : Except ε PUnit) >>= fun _ => pure (ForInStep.yield PUnit.unit)
      else pure (ForInStep.yield PUnit.unit)) := by
  induction l generalizing met with
  | nil =>
      rw [agrees.mpr (by simp)]
      trivial
  | cons a rest ih =>
      rw [List.forIn_cons]
      by_cases raised : c a
      · have failed : met = false :=
          Bool.eq_false_iff.mpr fun passed => agrees.mp passed a List.mem_cons_self raised
        rw [if_pos raised, failed]
        exact refusal a
      · rw [if_neg raised]
        exact ih (by simp [agrees, raised])

end Meets
end Python
