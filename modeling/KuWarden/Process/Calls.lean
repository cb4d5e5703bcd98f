import KuWarden.Process.Background
import KuWarden.Process.Triples

/-!
Which calls a process can make, read off its code: whatever the calls answer and whatever
happens meanwhile.

`Only ops` bounds the calls. `Ends last` says that a call in `last` is the final one. A
predicate on the world and the past that such calls cannot disturb then holds throughout.
-/
namespace Process

variable {σ W Op Lbl ε α β : Type} {Rep : Op → Type} {S : System σ W Op Rep Lbl}
  {ops ops' last : Op → Prop}

def Proc.Only (ops : Op → Prop) : Proc σ Op Rep α → Prop
  | .done _ _ => True
  | .await _ op k => ops op ∧ ∀ r s, (k r s).Only ops

theorem Proc.only_bind {p : Proc σ Op Rep α} {f : α → σ → Proc σ Op Rep β}
    (hp : p.Only ops) (hf : ∀ a s, (f a s).Only ops) : (p.bind f).Only ops := by
  induction p with
  | done s a => exact hf a s
  | await s op k ih => exact ⟨hp.1, fun r s' => ih r s' (hp.2 r s')⟩

def Proc.isDone : Proc σ Op Rep α → Prop
  | .done _ _ => True
  | .await _ _ _ => False

/-- Once a call in `last` is answered, nothing is left to do. -/
def Proc.Ends (last : Op → Prop) : Proc σ Op Rep α → Prop
  | .done _ _ => True
  | .await _ op k => ∀ r s, (k r s).Ends last ∧ (last op → (k r s).isDone)

/-- Code that never makes such a call may precede code that ends with one. -/
theorem Proc.ends_bind {p : Proc σ Op Rep α} {f : α → σ → Proc σ Op Rep β}
    (hp : p.Only fun op => ¬ last op) (hf : ∀ a s, (f a s).Ends last) :
    (p.bind f).Ends last := by
  induction p with
  | done s a => exact hf a s
  | await s op k ih => exact fun r s' => ⟨ih r s' (hp.2 r s'), fun is => absurd is hp.1⟩

theorem Proc.ends_bind_done {p : Proc σ Op Rep α} {f : α → σ → Proc σ Op Rep β}
    (hp : p.Ends last) (hf : ∀ a s, (f a s).isDone) : (p.bind f).Ends last := by
  have ends : ∀ a s, (f a s).Ends last := by
    intro a s
    have ceased := hf a s
    cases next : f a s with
    | done s b => trivial
    | await s op k => rw [next] at ceased; exact ceased.elim
  induction p with
  | done s a => exact ends a s
  | await s op k ih =>
      refine fun r s' => ⟨ih r s' (hp r s').1, fun is => ?_⟩
      have ceased := (hp r s').2 is
      show ((k r s').bind f).isDone
      cases next : k r s' with
      | done s a => exact hf a s
      | await s op k => rw [next] at ceased; exact ceased.elim

namespace Task

def Only (ops : Op → Prop) (t : Task σ Op Rep ε α) : Prop := ∀ s, (t s).Only ops

def Ends (last : Op → Prop) (t : Task σ Op Rep ε α) : Prop := ∀ s, (t s).Ends last

theorem only_pure (a : α) : (Pure.pure a : Task σ Op Rep ε α).Only ops := fun _ => trivial

theorem only_raise (e : ε) : (raise e : Task σ Op Rep ε α).Only ops := fun _ => trivial

theorem only_ofExcept (r : Except ε α) : (ofExcept r : Task σ Op Rep ε α).Only ops :=
  fun _ => trivial

theorem only_read : (read : Task σ Op Rep ε σ).Only ops := fun _ => trivial

theorem only_update (f : σ → σ) : (update f : Task σ Op Rep ε Unit).Only ops :=
  fun _ => trivial

theorem only_call {op : Op} (mem : ops op) : (call op : Task σ Op Rep ε (Rep op)).Only ops :=
  fun _ => ⟨mem, fun _ _ => trivial⟩

theorem only_bind {t : Task σ Op Rep ε α} {f : α → Task σ Op Rep ε β} (ht : t.Only ops)
    (hf : ∀ a, (f a).Only ops) : (t >>= f).Only ops := by
  intro s
  refine Proc.only_bind (ht s) fun r s' => ?_
  cases r with
  | ok a => exact hf a s'
  | error e => trivial

theorem only_attempt {t : Task σ Op Rep ε α} (ht : t.Only ops) : t.attempt.Only ops :=
  fun s => Proc.only_bind (ht s) fun _ _ => trivial

theorem ends_bind {t : Task σ Op Rep ε α} {f : α → Task σ Op Rep ε β}
    (ht : t.Only fun op => ¬ last op) (hf : ∀ a, (f a).Ends last) : (t >>= f).Ends last := by
  intro s
  refine Proc.ends_bind (ht s) fun r s' => ?_
  cases r with
  | ok a => exact hf a s'
  | error e => trivial

theorem ends_call {op : Op} : (call op : Task σ Op Rep ε (Rep op)).Ends last :=
  fun _ _ _ => ⟨trivial, fun _ => trivial⟩

theorem ends_bind_done {t : Task σ Op Rep ε α} {f : α → Task σ Op Rep ε β}
    (ht : t.Ends last) (hf : ∀ a s, (f a s).isDone) : (t >>= f).Ends last := by
  intro s
  refine Proc.ends_bind_done (ht s) fun r s' => ?_
  cases r with
  | ok a => exact hf a s'
  | error e => trivial

section Kept

variable {P : W → History Op Rep Lbl → Prop}

/-- What none of the calls disturbs is kept. -/
theorem Only.keeps {t : Task σ Op Rep ε α} (only : t.Only ops)
    (called : ∀ {w h op}, ops op → P w h → P w (h ++ [.call op]))
    (moved : ∀ {s w h l s' w'}, P w h → S.env s w l s' w' → P w' (h ++ [.env l]))
    (served : ∀ {s w h op r s' w'}, ops op → P w h → S.serve s w op r s' w' →
      P w' (h ++ [.reply op r])) : t.Keeps S fun _ w h => P w h := by
  intro s w h held
  suffices all : ∀ (p : Proc σ Op Rep (Except ε α)) (w : W) (h : History Op Rep Lbl),
      p.Only ops → P w h → p.wp S (fun _ w h => P w h) w h fun _ _ w h => P w h from
    all (t s) w h (only s) held
  intro p
  induction p with
  | done s a => exact fun _ _ _ held => held
  | await s op k ih =>
      intro w h only held s' w' h' drift
      have out : P w' h' := keeps_drift (P := fun _ w h => P w h) moved
        (called only.1 held) drift
      exact ⟨out, fun r s'' w'' answered =>
        ih r s'' w'' _ (only.2 r s'') (served only.1 out answered)⟩

/-- A past without a call in `last` stays one until the end. -/
theorem Ends.wp {t : Task σ Op Rep ε α} (ends : t.Ends last) {s : σ} {w : W}
    {h : History Op Rep Lbl} (none : ∀ op r, .reply op r ∈ h → ¬ last op) :
    t.wp S (fun _ _ h => ∀ op r, .reply op r ∈ h → ¬ last op) (fun _ _ _ _ => True) s w h := by
  suffices all : ∀ (p : Proc σ Op Rep (Except ε α)) (w : W) (h : History Op Rep Lbl),
      p.Ends last → (∀ op r, .reply op r ∈ h → ¬ last op) →
      p.wp S (fun _ _ h => ∀ op r, .reply op r ∈ h → ¬ last op) w h fun _ _ _ _ => True from
    all (t s) w h (ends s) none
  intro p
  induction p with
  | done s a => exact fun _ _ _ _ => trivial
  | await s op k ih =>
      intro w h ends none s' w' h' drift
      obtain ⟨moves, rfl⟩ := drift.extends
      have before : ∀ op' r, .reply op' r ∈ h ++ [.call op] ++ moves.map .env → ¬ last op' := by
        intro op' r mem
        exact none op' r (by simpa using mem)
      refine ⟨before, fun r s'' w'' _ => ?_⟩
      obtain ⟨rest, done⟩ := ends r s''
      by_cases is : last op
      · have ceased := done is
        cases next : k r s'' with
        | done s a => trivial
        | await s op k => rw [next] at ceased; exact ceased.elim
      · refine ih r s'' w'' _ rest fun op' r' mem => ?_
        rcases List.mem_append.mp mem with mem | new
        · exact before op' r' mem
        · cases List.mem_singleton.mp new
          exact is

end Kept

end Task

/-! ## Background tasks -/

section Pools

variable {J : Type}

def Slot.Only (ops : Op → Prop) : Slot σ Op Rep ε β → Prop
  | .running op k => ops op ∧ ∀ r s, (k r s).Only ops
  | .finished _ => True

theorem Slot.only_ofProc {p : Proc σ Op Rep (Except ε β)} (hp : p.Only ops) :
    (Slot.ofProc p).2.Only ops := by
  cases p with
  | done s r => trivial
  | await s op k => exact hp

def Pool.Only (ops : Op → Prop) (pool : Pool σ Op Rep ε β J) : Prop :=
  ∀ entry ∈ pool.slots, entry.2.Only ops

theorem Pool.only_empty : (Pool.empty : Pool σ Op Rep ε β J).Only ops := by
  intro entry mem
  cases mem

theorem Pool.only_start {code : J → Task σ Op Rep ε β} {js : List J}
    (only : ∀ j ∈ js, (code j).Only ops) (s : σ) : (Pool.start code js s).2.Only ops := by
  suffices all : ∀ entry ∈ (Pool.startSlots code js s).2, entry.2.Only ops from all
  induction js generalizing s with
  | nil =>
      intro entry mem
      cases mem
  | cons j rest ih =>
      intro entry mem
      rcases List.mem_cons.mp mem with rfl | mem
      · exact Slot.only_ofProc (only j List.mem_cons_self s)
      · exact ih (fun other among => only other (List.mem_cons_of_mem j among)) _ entry mem

theorem Pool.Only.settle {pool : Pool σ Op Rep ε β J} {slot : Slot σ Op Rep ε β}
    (only : pool.Only ops) (i : Nat) (j : J) (here : slot.Only ops) :
    (pool.settle i j slot).Only ops := by
  intro entry mem
  rcases Pool.mem_settle mem with old | rfl
  · exact only entry old
  · exact here

end Pools

end Process
