import Mathlib.Tactic.Common

/-!
Events that happen one after the other to a state.
-/
namespace Process

variable {S E : Type} (step : S → E → S)

/-- `P` holds of each event and the state it finds. -/
def Along (P : S → E → Prop) : List E → S → Prop
  | [], _ => True
  | e :: rest, s => P s e ∧ Along P rest (step s e)

variable {step} {C P : S → E → Prop} {events : List E} {s : S}

/-- The run lemma: what the events keep that meet the condition tells of each of them. -/
theorem Along.of_invariant {I : S → Prop}
    (keeps : ∀ s e, I s → C s e → I (step s e)) (tells : ∀ s e, I s → C s e → P s e)
    (meets : Along step C events s) (held : I s) : Along step P events s := by
  induction events generalizing s with
  | nil => trivial
  | cons e rest ih =>
      obtain ⟨here, later⟩ := meets
      exact ⟨tells s e held here, ih later (keeps s e held here)⟩

end Process
