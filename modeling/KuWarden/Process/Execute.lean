import KuWarden.Process.Logic

/-!
Playing a system on a schedule.

A `Schedule` fixes, for every suspended configuration, either a move of the
environment or an answer. A configuration it plays to is one the system reaches,
so a concrete run is a computation.
-/
namespace Process

variable {σ W Op Lbl α : Type} {Rep : Op → Type}

structure Schedule (S : System σ W Op Rep Lbl) where
  move : σ → W → Op → Option (Lbl × σ × W)
  answer : σ → W → (op : Op) → Option (Rep op × σ × W)
  move_env : ∀ {s w op l s' w'}, move s w op = some (l, s', w') → S.env s w l s' w'
  answer_serve : ∀ {s w op r s' w'}, answer s w op = some (r, s', w') →
    S.serve s w op r s' w'

variable {S : System σ W Op Rep Lbl}

def Schedule.next (plan : Schedule S) (c : Config σ W Op Rep Lbl α) :
    Option (Config σ W Op Rep Lbl α) :=
  match c.proc with
  | .done _ _ => none
  | .await s op k =>
      match plan.move s c.world op with
      | some (l, s', w') => some ⟨.await s' op k, w', c.history ++ [.env l]⟩
      | none =>
          match plan.answer s c.world op with
          | some (r, s', w') => some (.launch (k r s') w' (c.history ++ [.reply op r]))
          | none => none

theorem Schedule.next_step (plan : Schedule S) {c c' : Config σ W Op Rep Lbl α}
    (h : plan.next c = some c') : S.Step c c' := by
  obtain ⟨proc, world, history⟩ := c
  cases proc with
  | done s a => simp [Schedule.next] at h
  | await s op k =>
      simp only [Schedule.next] at h
      split at h
      next l s' w' moved =>
        cases h
        exact .env op k history (plan.move_env moved)
      next =>
        split at h
        next r s' w' answered =>
          cases h
          exact .reply op k history r (plan.answer_serve answered)
        next => cases h

/-- Play at most `n` steps. -/
def Schedule.play (plan : Schedule S) :
    Nat → Config σ W Op Rep Lbl α → Config σ W Op Rep Lbl α
  | 0, c => c
  | n + 1, c =>
      match plan.next c with
      | some c' => plan.play n c'
      | none => c

theorem Schedule.play_reaches (plan : Schedule S) (n : Nat)
    (c : Config σ W Op Rep Lbl α) : S.Reaches c (plan.play n c) := by
  induction n generalizing c with
  | zero => exact .refl
  | succ n ih =>
      simp only [Schedule.play]
      split
      next c' taken => exact .head (plan.next_step taken) (ih c')
      next => exact .refl

end Process
