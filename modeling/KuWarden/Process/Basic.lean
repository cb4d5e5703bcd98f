import Mathlib.Logic.Relation
import Mathlib.Tactic.Common

/-!
Cooperative processes over a shared state.

A process owns the shared state between two awaits and gives it up at every
call. What happens while it is suspended (other processes, signals, the outside
world) is the `env` relation of a `System`; what a call may answer is its `serve`
relation. Nothing here assumes that a call succeeds or that the environment is
quiet.
-/
namespace Process

/-- `done` ends with a value; `await` suspends on a call with the shared state as
the process left it, and resumes with the reply and the state as it then is. -/
inductive Proc (σ Op : Type) (Rep : Op → Type) (α : Type) : Type
  | done (s : σ) (a : α)
  | await (s : σ) (op : Op) (k : Rep op → σ → Proc σ Op Rep α)

variable {σ W Op Lbl ε α β γ : Type} {Rep : Op → Type}

def Proc.bind : Proc σ Op Rep α → (α → σ → Proc σ Op Rep β) → Proc σ Op Rep β
  | .done s a, f => f a s
  | .await s op k, f => .await s op fun r s' => (k r s').bind f

theorem Proc.bind_assoc (p : Proc σ Op Rep α) (f : α → σ → Proc σ Op Rep β)
    (g : β → σ → Proc σ Op Rep γ) :
    (p.bind f).bind g = p.bind fun a s => (f a s).bind g := by
  induction p with
  | done s a => rfl
  | await s op k ih =>
      simp only [Proc.bind]
      congr 1
      funext r s'
      exact ih r s'

/-- Code that reads and writes the shared state, calls, and may raise. -/
def Task (σ Op : Type) (Rep : Op → Type) (ε α : Type) : Type :=
  σ → Proc σ Op Rep (Except ε α)

namespace Task

def pure (a : α) : Task σ Op Rep ε α := fun s => .done s (.ok a)

def bind (t : Task σ Op Rep ε α) (f : α → Task σ Op Rep ε β) : Task σ Op Rep ε β :=
  fun s => (t s).bind fun r s' =>
    match r with
    | .ok a => f a s'
    | .error e => .done s' (.error e)

def raise (e : ε) : Task σ Op Rep ε α := fun s => .done s (.error e)

/-- Run `handler` on whatever `t` raises, in the state `t` left. -/
def handle (t : Task σ Op Rep ε α) (handler : ε → Task σ Op Rep ε α) : Task σ Op Rep ε α :=
  fun s => (t s).bind fun r s' =>
    match r with
    | .ok a => .done s' (.ok a)
    | .error e => handler e s'

/-- The outcome as a value, so that a caller can branch on it. -/
def attempt (t : Task σ Op Rep ε α) : Task σ Op Rep ε (Except ε α) :=
  fun s => (t s).bind fun r s' => .done s' (.ok r)

def read : Task σ Op Rep ε σ := fun s => .done s (.ok s)

def update (f : σ → σ) : Task σ Op Rep ε Unit := fun s => .done (f s) (.ok ())

def call (op : Op) : Task σ Op Rep ε (Rep op) :=
  fun s => .await s op fun r s' => .done s' (.ok r)

def ofExcept (r : Except ε α) : Task σ Op Rep ε α := fun s => .done s r

instance : Monad (Task σ Op Rep ε) where
  pure := Task.pure
  bind := Task.bind

theorem bind_assoc (t : Task σ Op Rep ε α) (f : α → Task σ Op Rep ε β)
    (g : β → Task σ Op Rep ε γ) : (t >>= f) >>= g = t >>= fun a => f a >>= g := by
  funext s
  refine (Proc.bind_assoc (t s) _ _).trans ?_
  show (t s).bind _ = (t s).bind _
  congr 1
  funext r s'
  cases r <;> rfl

end Task

/-- What a history records: a call going out, its reply, a move of the environment. -/
inductive Label (Op : Type) (Rep : Op → Type) (Lbl : Type) : Type
  | call (op : Op)
  | reply (op : Op) (r : Rep op)
  | env (l : Lbl)

abbrev History (Op : Type) (Rep : Op → Type) (Lbl : Type) := List (Label Op Rep Lbl)

/-- How the outside answers a call, and how it may move while a process waits. -/
structure System (σ W Op : Type) (Rep : Op → Type) (Lbl : Type) where
  serve : σ → W → (op : Op) → Rep op → σ → W → Prop
  env : σ → W → Lbl → σ → W → Prop

/-- The same system, of which only the answers given where `C` holds are looked at. -/
def System.under (S : System σ W Op Rep Lbl) (C : σ → W → Op → Prop) :
    System σ W Op Rep Lbl where
  serve s w op r s' w' := C s w op ∧ S.serve s w op r s' w'
  env := S.env

structure Config (σ W Op : Type) (Rep : Op → Type) (Lbl α : Type) where
  proc : Proc σ Op Rep α
  world : W
  history : History Op Rep Lbl

/-- A process that has just run to its next await; the call it makes is recorded. -/
def Config.launch : Proc σ Op Rep α → W → History Op Rep Lbl → Config σ W Op Rep Lbl α
  | .done s a, w, h => ⟨.done s a, w, h⟩
  | .await s op k, w, h => ⟨.await s op k, w, h ++ [.call op]⟩

inductive System.Step (S : System σ W Op Rep Lbl) :
    Config σ W Op Rep Lbl α → Config σ W Op Rep Lbl α → Prop
  | env {s s' : σ} {w w' : W} {l : Lbl} (op : Op) (k : Rep op → σ → Proc σ Op Rep α)
      (h : History Op Rep Lbl) : S.env s w l s' w' →
      S.Step ⟨.await s op k, w, h⟩ ⟨.await s' op k, w', h ++ [.env l]⟩
  | reply {s s' : σ} {w w' : W} (op : Op) (k : Rep op → σ → Proc σ Op Rep α)
      (h : History Op Rep Lbl) (r : Rep op) : S.serve s w op r s' w' →
      S.Step ⟨.await s op k, w, h⟩ (.launch (k r s') w' (h ++ [.reply op r]))

/-- Every configuration some run passes through. -/
def System.Reaches (S : System σ W Op Rep Lbl) :
    Config σ W Op Rep Lbl α → Config σ W Op Rep Lbl α → Prop :=
  Relation.ReflTransGen S.Step

/-- Any number of environment moves while a call is out. -/
inductive System.Drift (S : System σ W Op Rep Lbl) (s : σ) (w : W)
    (h : History Op Rep Lbl) : σ → W → History Op Rep Lbl → Prop
  | refl : S.Drift s w h s w h
  | step {s' s'' : σ} {w' w'' : W} {h' : History Op Rep Lbl} {l : Lbl} :
      S.Drift s w h s' w' h' → S.env s' w' l s'' w'' →
      S.Drift s w h s'' w'' (h' ++ [.env l])

end Process
