import KuWarden.Process.Background
import KuWarden.Process.Logic

/-!
How a process may end, whatever its calls are answered and whatever moves meanwhile.

Unlike a weakest precondition this asks nothing of a system. It is what is known about a
task that runs in the background, whose calls nobody follows.
-/
namespace Process

variable {σ W Op Lbl ε α β J : Type} {Rep : Op → Type}

def Proc.ends (Q : α → Prop) : Proc σ Op Rep α → Prop
  | .done _ a => Q a
  | .await _ _ k => ∀ r s, (k r s).ends Q

theorem Proc.ends_then {Q : α → Prop} {R : β → Prop} {p : Proc σ Op Rep α}
    {f : α → σ → Proc σ Op Rep β} (hp : p.ends Q) (hf : ∀ a s, Q a → (f a s).ends R) :
    (p.bind f).ends R := by
  induction p with
  | done s a => exact hf a s hp
  | await s op k ih => exact fun r s' => ih r s' (hp r s')

theorem Proc.wp_ends {S : System σ W Op Rep Lbl} {Q : α → Prop} (p : Proc σ Op Rep α)
    (w : W) (h : History Op Rep Lbl) (hp : p.ends Q) :
    p.wp S (fun _ _ _ => True) w h fun a _ _ _ => Q a := by
  induction p generalizing w h with
  | done s a => exact hp
  | await s op k ih => exact fun s' w' h' _ => ⟨trivial, fun r s'' w'' _ => ih r s'' _ _ (hp r s'')⟩

/-- An outcome that raises nothing but what `E` allows. -/
def Raised (E : ε → Prop) (r : Except ε α) : Prop := ∀ e, r = .error e → E e

theorem raised_ok {E : ε → Prop} (a : α) : Raised E (.ok a) := by
  intro e absurd
  cases absurd

theorem raised_error {E : ε → Prop} {e : ε} (allowed : E e) :
    Raised E (.error e : Except ε α) := by
  intro e' same
  cases same
  exact allowed

namespace Task

variable {E : ε → Prop} {t : Task σ Op Rep ε α}

/-- Whatever happens, `t` raises nothing but what `E` allows. -/
def raises (E : ε → Prop) (t : Task σ Op Rep ε α) : Prop := ∀ s, (t s).ends (Raised E)

theorem raises_pure (a : α) : (Pure.pure a : Task σ Op Rep ε α).raises E :=
  fun _ => raised_ok a

theorem raises_raise {e : ε} (allowed : E e) : (raise e : Task σ Op Rep ε α).raises E :=
  fun _ => raised_error allowed

theorem raises_read : (read : Task σ Op Rep ε σ).raises E := fun s => raised_ok s

theorem raises_update (f : σ → σ) : (update f : Task σ Op Rep ε Unit).raises E :=
  fun _ => raised_ok ()

theorem raises_call (op : Op) : (call op : Task σ Op Rep ε (Rep op)).raises E :=
  fun _ r _ => raised_ok r

theorem raises_bind {f : α → Task σ Op Rep ε β} (ht : t.raises E)
    (hf : ∀ a, (f a).raises E) : (t >>= f).raises E := by
  intro s
  refine Proc.ends_then (ht s) ?_
  intro r s' raised
  cases r with
  | ok a => exact hf a s'
  | error e => exact raised_error (raised e rfl)

theorem raises_wp {S : System σ W Op Rep Lbl} (ht : t.raises E) (s : σ) (w : W)
    (h : History Op Rep Lbl) :
    t.wp S (fun _ _ _ => True) (fun r _ _ _ => Raised E r) s w h :=
  Proc.wp_ends (t s) w h (ht s)

end Task

/-! ## Background tasks -/

def Slot.raises (E : ε → Prop) : Slot σ Op Rep ε β → Prop
  | .running _ k => ∀ r s, (k r s).ends (Raised E)
  | .finished r => Raised E r

theorem Slot.raises_ofProc {E : ε → Prop} {p : Proc σ Op Rep (Except ε β)}
    (hp : p.ends (Raised E)) : (Slot.ofProc p).2.raises E := by
  cases p with
  | done s r => exact hp
  | await s op k => exact hp

namespace Pool

variable {E : ε → Prop} {pool pool' : Pool σ Op Rep ε β J}

/-- No task of the pool has raised, or will raise, anything but what `E` allows. -/
structure Raises (E : ε → Prop) (pool : Pool σ Op Rep ε β J) : Prop where
  failure : ∀ e, pool.failure = some e → E e
  slots : ∀ entry ∈ pool.slots, entry.2.raises E

theorem raises_empty : (empty : Pool σ Op Rep ε β J).Raises E where
  failure := by intro e absurd; cases absurd
  slots := by intro entry mem; cases mem

theorem raises_start {code : J → Task σ Op Rep ε β} (raises : ∀ j, (code j).raises E)
    (js : List J) (s : σ) : (start code js s).2.Raises E where
  failure := by intro e absurd; cases absurd
  slots := by
    suffices all : ∀ entry ∈ (startSlots code js s).2, entry.2.raises E from all
    induction js generalizing s with
    | nil => intro entry mem; cases mem
    | cons j rest ih =>
        intro entry mem
        rcases List.mem_cons.mp mem with rfl | mem
        · exact Slot.raises_ofProc (raises j s)
        · exact ih _ entry mem

theorem Raises.settle (raises : pool.Raises E) (i : Nat) (j : J)
    {slot : Slot σ Op Rep ε β} (here : slot.raises E) : (pool.settle i j slot).Raises E where
  failure := by
    intro e failed
    unfold Pool.settle at failed
    dsimp only at failed
    split at failed
    next => exact here e (by cases failed; rfl)
    next => exact raises.failure e failed
  slots := by
    intro entry mem
    rcases mem_settle mem with old | rfl
    · exact raises.slots entry old
    · exact here

theorem Raises.move {serve : σ → W → (op : Op) → Rep op → σ → W → Prop} {s s' : σ}
    {w w' : W} {l : J × Label Op Rep Empty} (raises : pool.Raises E)
    (move : Move serve s w pool l s' w' pool') : pool'.Raises E := by
  cases move with
  | answer found _ =>
      have waiting := raises.slots _ (List.mem_of_getElem? found)
      exact raises.settle _ _ (Slot.raises_ofProc (waiting _ _))

theorem Raises.joins (raises : pool.Raises E) {reply : Except ε (List β)}
    (joins : pool.Joins reply) : Raised E reply := by
  intro e raised
  subst raised
  exact raises.failure e joins

end Pool
end Process
