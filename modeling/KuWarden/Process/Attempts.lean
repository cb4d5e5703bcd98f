import KuWarden.Process.Logic

/-!
At-least-once execution of a task.

An attempt runs the task from its own start state. It may stop anywhere: when the
process that executes it crashes, or when its answer is lost on the way back, the
calls it made so far have taken effect and nothing of its state survives.
-/
namespace Process

variable {σ W Op Lbl ε α : Type} {Rep : Op → Type}

/-- One attempt: the calls it made, and what the caller learned from it. -/
structure Attempt (σ Op : Type) (Rep : Op → Type) (Lbl ε α : Type) where
  history : History Op Rep Lbl
  outcome : Option (Except ε (α × σ))

/-- `Tries n` executes the task at most `n` times. `refusal` marks the exceptions that
are not tried again; `expired` is what the caller is told when no answer came back. -/
inductive Tries (S : System σ W Op Rep Lbl) (t : Task σ Op Rep ε α) (s : σ)
    (refusal : ε → Bool) (expired : ε) :
    Nat → W → List (Attempt σ Op Rep Lbl ε α) → Except ε (α × σ) → W → Prop
  | returned {n : Nat} {w : W} {c : Config σ W Op Rep Lbl (Except ε α)} {s' : σ} {a : α} :
      S.Reaches (.launch (t s) w []) c → c.proc = .done s' (.ok a) →
      Tries S t s refusal expired (n + 1) w [⟨c.history, some (.ok (a, s'))⟩]
        (.ok (a, s')) c.world
  | raised {n : Nat} {w : W} {c : Config σ W Op Rep Lbl (Except ε α)} {s' : σ} {e : ε} :
      S.Reaches (.launch (t s) w []) c → c.proc = .done s' (.error e) →
      refusal e = true ∨ n = 0 →
      Tries S t s refusal expired (n + 1) w [⟨c.history, some (.error e)⟩]
        (.error e) c.world
  | lost {w : W} {c : Config σ W Op Rep Lbl (Except ε α)} :
      S.Reaches (.launch (t s) w []) c →
      Tries S t s refusal expired 1 w [⟨c.history, none⟩] (.error expired) c.world
  | raisedAgain {n : Nat} {w w' : W} {c : Config σ W Op Rep Lbl (Except ε α)} {s' : σ}
      {e : ε} {rest : List (Attempt σ Op Rep Lbl ε α)} {r : Except ε (α × σ)} :
      S.Reaches (.launch (t s) w []) c → c.proc = .done s' (.error e) →
      refusal e = false → Tries S t s refusal expired n c.world rest r w' →
      Tries S t s refusal expired (n + 1) w (⟨c.history, some (.error e)⟩ :: rest) r w'
  | lostAgain {n : Nat} {w w' : W} {c : Config σ W Op Rep Lbl (Except ε α)}
      {rest : List (Attempt σ Op Rep Lbl ε α)} {r : Except ε (α × σ)} :
      S.Reaches (.launch (t s) w []) c →
      Tries S t s refusal expired n c.world rest r w' →
      Tries S t s refusal expired (n + 1) w (⟨c.history, none⟩ :: rest) r w'

variable {S : System σ W Op Rep Lbl} {t : Task σ Op Rep ε α} {s : σ}
  {refusal : ε → Bool} {expired : ε}

/-- What an execution returns, one of its attempts returned. -/
theorem Tries.returned_by {n : Nat} {w w' : W} {atts : List (Attempt σ Op Rep Lbl ε α)}
    {a : α} {s' : σ} (h : Tries S t s refusal expired n w atts (.ok (a, s')) w') :
    ∃ w₀ c, S.Reaches (.launch (t s) w₀ []) c ∧ c.proc = .done s' (.ok a) ∧
      c.world = w' := by
  generalize result : Except.ok (a, s') = r at h
  induction h with
  | @returned n w c _ _ run final => cases result; exact ⟨w, c, run, final, rfl⟩
  | raised | lost => cases result
  | raisedAgain _ _ _ _ ih | lostAgain _ _ ih => exact ih result

end Process
