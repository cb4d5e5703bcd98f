import KuWarden.Process.Basic
import Mathlib.Data.List.Forall2

/-!
Background tasks that run beside a process on the same shared state.

A pool holds tasks that were started together. Each is a process of its own; it
moves only when one of its calls is answered, and from then to its next await it
has the shared state to itself.
-/
namespace Process

variable {σ W Op ε β J : Type} {Rep : Op → Type}

inductive Slot (σ Op : Type) (Rep : Op → Type) (ε β : Type) : Type
  | running (op : Op) (k : Rep op → σ → Proc σ Op Rep (Except ε β))
  | finished (r : Except ε β)

/-- Where a task stands once it has run to its next await, and the state it left. -/
def Slot.ofProc : Proc σ Op Rep (Except ε β) → σ × Slot σ Op Rep ε β
  | .done s r => (s, .finished r)
  | .await s op k => (s, .running op k)

/-- Tasks in the order they were started, and the exception of the first to fail. -/
structure Pool (σ Op : Type) (Rep : Op → Type) (ε β J : Type) where
  slots : List (J × Slot σ Op Rep ε β)
  failure : Option ε

namespace Pool

def empty : Pool σ Op Rep ε β J := ⟨[], none⟩

/-- Start every job in order, each running to its first await before the next. -/
def startSlots (code : J → Task σ Op Rep ε β) :
    List J → σ → σ × List (J × Slot σ Op Rep ε β)
  | [], s => (s, [])
  | j :: js, s =>
      let first := Slot.ofProc (code j s)
      let rest := startSlots code js first.1
      (rest.1, (j, first.2) :: rest.2)

def start (code : J → Task σ Op Rep ε β) (js : List J) (s : σ) :
    σ × Pool σ Op Rep ε β J :=
  let started := startSlots code js s
  (started.1, ⟨started.2, none⟩)

/-- The pool after the task at `i` reached `slot`; only the first failure is kept. -/
def settle (pool : Pool σ Op Rep ε β J) (i : Nat) (j : J) (slot : Slot σ Op Rep ε β) :
    Pool σ Op Rep ε β J where
  slots := pool.slots.set i (j, slot)
  failure :=
    match pool.failure, slot with
    | none, .finished (.error e) => some e
    | failure, _ => failure

/-- The values of all tasks, once every one of them returned. -/
def results : List (J × Slot σ Op Rep ε β) → Option (List β)
  | [] => some []
  | (_, .finished (.ok b)) :: rest => (results rest).map (b :: ·)
  | _ :: _ => none

/-- One task takes the answer to the call it waits for. -/
inductive Move (serve : σ → W → (op : Op) → Rep op → σ → W → Prop)
    (s : σ) (w : W) (pool : Pool σ Op Rep ε β J) :
    J × Label Op Rep Empty → σ → W → Pool σ Op Rep ε β J → Prop
  | answer {i : Nat} {j : J} {op : Op} {k : Rep op → σ → Proc σ Op Rep (Except ε β)}
      {r : Rep op} {s' : σ} {w' : W} :
      pool.slots[i]? = some (j, .running op k) → serve s w op r s' w' →
      Move serve s w pool (j, .reply op r) (Slot.ofProc (k r s')).1 w'
        (pool.settle i j (Slot.ofProc (k r s')).2)

/-- The answers of a call, or an exception as soon as a task failed. -/
def Joins (pool : Pool σ Op Rep ε β J) : Except ε (List β) → Prop
  | .ok bs => results pool.slots = some bs
  | .error e => pool.failure = some e

theorem mem_settle {pool : Pool σ Op Rep ε β J} {i : Nat} {j : J}
    {slot : Slot σ Op Rep ε β} {entry : J × Slot σ Op Rep ε β}
    (h : entry ∈ (pool.settle i j slot).slots) : entry ∈ pool.slots ∨ entry = (j, slot) :=
  List.mem_or_eq_of_mem_set h

/-- One slot of a pool changes, and with it its share of what the slots hold. -/
theorem filterMap_settle {γ : Type} (f : J × Slot σ Op Rep ε β → Option γ)
    {pool : Pool σ Op Rep ε β J} {i : Nat} {j : J} {slot : Slot σ Op Rep ε β}
    (slot' : Slot σ Op Rep ε β) (found : pool.slots[i]? = some (j, slot)) : ∃ before after,
      pool.slots.filterMap f = before ++ (f (j, slot)).toList ++ after ∧
        (pool.settle i j slot').slots.filterMap f =
          before ++ (f (j, slot')).toList ++ after := by
  obtain ⟨lt, at_i⟩ := List.getElem?_eq_some_iff.mp found
  refine ⟨(pool.slots.take i).filterMap f, (pool.slots.drop (i + 1)).filterMap f, ?_, ?_⟩
  · have split : pool.slots = pool.slots.take i ++ ([(j, slot)] ++ pool.slots.drop (i + 1)) := by
      rw [← at_i, List.singleton_append, List.getElem_cons_drop, List.take_append_drop]
    conv_lhs => rw [split]
    cases one : f (j, slot) <;> simp [one]
  · have split : pool.slots.set i (j, slot') =
        pool.slots.take i ++ ([(j, slot')] ++ pool.slots.drop (i + 1)) := by
      rw [List.set_eq_take_append_cons_drop, if_pos lt, List.singleton_append]
    show (pool.slots.set i (j, slot')).filterMap f = _
    rw [split]
    cases one : f (j, slot') <;> simp [one]

theorem results_forall₂ {slots : List (J × Slot σ Op Rep ε β)} {bs : List β}
    (h : results slots = some bs) :
    List.Forall₂ (fun entry b => entry.2 = .finished (.ok b)) slots bs := by
  induction slots generalizing bs with
  | nil => cases h; exact .nil
  | cons entry rest ih =>
      obtain ⟨j, slot⟩ := entry
      cases slot with
      | running op k => cases h
      | finished r =>
          cases r with
          | error e => cases h
          | ok b =>
              obtain ⟨bs', found, rfl⟩ := Option.map_eq_some_iff.mp h
              exact .cons rfl (ih found)

end Pool
end Process
