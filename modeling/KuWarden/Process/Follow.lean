import KuWarden.Process.Basic

/-!
Following a task through fixed answers.

A task that makes no call twice can be given its answers in advance. Nothing else moves the
shared state while it waits.
-/
namespace Process

variable {σ Op ε α β : Type} {Rep : Op → Type} (reply : (op : Op) → Rep op)

/-- The calls a process makes, and how it ends. -/
def Proc.follow : Proc σ Op Rep α → List Op × σ × α
  | .done s a => ([], s, a)
  | .await s op k =>
      let rest := (k (reply op) s).follow
      (op :: rest.1, rest.2)

theorem Proc.follow_bind (p : Proc σ Op Rep α) (f : α → σ → Proc σ Op Rep β) :
    (p.bind f).follow reply =
      let first := p.follow reply
      let rest := (f first.2.2 first.2.1).follow reply
      (first.1 ++ rest.1, rest.2) := by
  induction p with
  | done s a => rfl
  | await s op k ih =>
      simp only [Proc.bind, Proc.follow, ih]
      rfl

namespace Task

/-- The calls of a task that starts in the state `s`. -/
def asks (s : σ) (t : Task σ Op Rep ε α) : List Op := ((t s).follow reply).1

def outcome (s : σ) (t : Task σ Op Rep ε α) : σ × Except ε α := ((t s).follow reply).2

variable {s : σ}

theorem asks_call_bind (op : Op) (f : Rep op → Task σ Op Rep ε β) :
    asks reply s (call op >>= f) = op :: asks reply s (f (reply op)) := rfl

theorem outcome_call_bind (op : Op) (f : Rep op → Task σ Op Rep ε β) :
    outcome reply s (call op >>= f) = outcome reply s (f (reply op)) := rfl

theorem asks_ok_bind (a : α) (f : α → Task σ Op Rep ε β) :
    asks reply s (ofExcept (.ok a) >>= f) = asks reply s (f a) := rfl

theorem outcome_ok_bind (a : α) (f : α → Task σ Op Rep ε β) :
    outcome reply s (ofExcept (.ok a) >>= f) = outcome reply s (f a) := rfl

theorem asks_error_bind (e : ε) (f : α → Task σ Op Rep ε β) :
    asks reply s (ofExcept (.error e) >>= f) = [] := rfl

theorem outcome_error_bind (e : ε) (f : α → Task σ Op Rep ε β) :
    outcome reply s (ofExcept (.error e) >>= f) = (s, .error e) := rfl

theorem follow_bind (t : Task σ Op Rep ε α) (f : α → Task σ Op Rep ε β) :
    ((t >>= f) s).follow reply =
      match outcome reply s t with
      | (s', .ok a) => (asks reply s t ++ asks reply s' (f a), outcome reply s' (f a))
      | (s', .error e) => (asks reply s t, s', .error e) := by
  refine (Proc.follow_bind reply (t s) _).trans ?_
  unfold asks outcome
  obtain ⟨ops, s', r⟩ := (t s).follow reply
  cases r with
  | ok a => rfl
  | error e => simp [Proc.follow]

theorem asks_bind_ok {t : Task σ Op Rep ε α} {f : α → Task σ Op Rep ε β} {s' : σ} {a : α}
    (ended : outcome reply s t = (s', .ok a)) :
    asks reply s (t >>= f) = asks reply s t ++ asks reply s' (f a) := by
  rw [asks, follow_bind, ended]

theorem asks_bind_error {t : Task σ Op Rep ε α} {f : α → Task σ Op Rep ε β} {s' : σ} {e : ε}
    (ended : outcome reply s t = (s', .error e)) :
    asks reply s (t >>= f) = asks reply s t := by
  rw [asks, follow_bind, ended]

end Task
end Process
