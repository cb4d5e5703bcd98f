import Mathlib.Data.List.Nodup

/-!
Dictionaries that remember the order in which their keys came.

No key occurs twice, so what is stored under a key is what an entry of it says, and every
operation is known by the entries it leaves.
-/
namespace Python

variable {κ α : Type}

structure OrderedDict (κ α : Type) where
  entries : List (κ × α)
  distinct : (entries.map Prod.fst).Nodup

namespace OrderedDict

def empty : OrderedDict κ α := ⟨[], List.nodup_nil⟩

def length (d : OrderedDict κ α) : Nat := d.entries.length

/-- Drop what came first while more than `n` entries are held. -/
def shed (d : OrderedDict κ α) (n : Nat) : OrderedDict κ α where
  entries := d.entries.drop (d.length - n)
  distinct := d.distinct.sublist ((List.drop_sublist _ _).map _)

variable {d : OrderedDict κ α} {k l : κ} {u v : α} {n : Nat}

theorem length_shed (d : OrderedDict κ α) (n : Nat) : (d.shed n).length ≤ n := by
  simp only [shed, length, List.length_drop]
  omega

theorem mem_shed (mem : (l, u) ∈ (d.shed n).entries) : (l, u) ∈ d.entries :=
  List.mem_of_mem_drop mem

theorem same_of_mem (mem : (k, u) ∈ d.entries) (mem' : (k, v) ∈ d.entries) : u = v :=
  congrArg Prod.snd (List.inj_on_of_nodup_map d.distinct mem mem' rfl)

variable [DecidableEq κ]

def get? (d : OrderedDict κ α) (k : κ) : Option α := d.entries.lookup k

/-- `d.pop(k, None)`. -/
def pop (d : OrderedDict κ α) (k : κ) : OrderedDict κ α where
  entries := d.entries.filter fun entry => entry.1 ≠ k
  distinct := d.distinct.sublist (List.filter_sublist.map _)

theorem not_mem_pop (d : OrderedDict κ α) (k : κ) : k ∉ (d.pop k).entries.map Prod.fst := by
  intro mem
  obtain ⟨entry, kept, rfl⟩ := List.mem_map.mp mem
  simp [pop] at kept

/-- `d[k] = v` for a key that is not there: it comes last. -/
def add (d : OrderedDict κ α) (k : κ) (v : α) (new : k ∉ d.entries.map Prod.fst) :
    OrderedDict κ α where
  entries := d.entries ++ [(k, v)]
  distinct := by
    rw [List.map_append]
    refine d.distinct.append (List.nodup_singleton _) ?_
    simpa using new

/-- `d[k] = v` for a key that is there: it keeps its place. -/
def put (d : OrderedDict κ α) (k : κ) (v : α) : OrderedDict κ α where
  entries := d.entries.map fun entry => if entry.1 = k then (k, v) else entry
  distinct := by
    have keys : (d.entries.map fun entry => if entry.1 = k then (k, v) else entry).map Prod.fst =
        d.entries.map Prod.fst := by
      rw [List.map_map]
      refine List.map_congr_left fun entry _ => ?_
      by_cases at_k : entry.1 = k
      · simp [at_k]
      · simp [at_k]
    rw [keys]
    exact d.distinct

/-- `d[k] = v`. -/
def insert (d : OrderedDict κ α) (k : κ) (v : α) : OrderedDict κ α :=
  if new : k ∉ d.entries.map Prod.fst then d.add k v new else d.put k v

/-- `d.move_to_end(k)`. -/
def moveToEnd (d : OrderedDict κ α) (k : κ) : OrderedDict κ α :=
  match d.get? k with
  | some v => (d.pop k).add k v (d.not_mem_pop k)
  | none => d

theorem mem_of_get? (found : d.get? k = some v) : (k, v) ∈ d.entries := by
  obtain ⟨before, after, split, -⟩ := List.lookup_eq_some_iff.mp found
  simp [split]

theorem get?_eq_some : d.get? k = some v ↔ (k, v) ∈ d.entries := by
  refine ⟨mem_of_get?, fun mem => ?_⟩
  cases found : d.get? k with
  | some u => rw [same_of_mem (mem_of_get? found) mem]
  | none =>
      have other := List.lookup_eq_none_iff.mp found (k, v) mem
      simp at other

theorem get?_eq_none : d.get? k = none ↔ ∀ v, (k, v) ∉ d.entries := by
  constructor
  · intro missing v mem
    cases missing.symm.trans (get?_eq_some.mpr mem)
  · intro missing
    cases found : d.get? k with
    | none => rfl
    | some v => exact absurd (mem_of_get? found) (missing v)

theorem mem_pop : (l, u) ∈ (d.pop k).entries ↔ (l, u) ∈ d.entries ∧ l ≠ k := by
  simp [pop]

theorem mem_insert (mem : (l, u) ∈ (d.insert k v).entries) :
    (l, u) ∈ d.entries ∨ l = k ∧ u = v := by
  unfold insert at mem
  split at mem
  · rcases List.mem_append.mp mem with old | new
    · exact .inl old
    · cases List.mem_singleton.mp new
      exact .inr ⟨rfl, rfl⟩
  · obtain ⟨entry, held, is⟩ := List.mem_map.mp mem
    by_cases at_k : entry.1 = k
    · rw [if_pos at_k] at is
      cases is
      exact .inr ⟨rfl, rfl⟩
    · rw [if_neg at_k] at is
      exact .inl (is ▸ held)

theorem not_mem_keys (new : d.get? k = none) : k ∉ d.entries.map Prod.fst := by
  intro mem
  obtain ⟨⟨k, w⟩, there, rfl⟩ := List.mem_map.mp mem
  exact get?_eq_none.mp new w there

theorem mem_insert_new (new : d.get? k = none) :
    (l, u) ∈ (d.insert k v).entries ↔ (l, u) ∈ d.entries ∨ l = k ∧ u = v := by
  refine ⟨mem_insert, fun held => ?_⟩
  rw [insert, dif_pos (not_mem_keys new)]
  rcases held with old | ⟨rfl, rfl⟩
  · exact List.mem_append_left _ old
  · exact List.mem_append_right _ List.mem_cons_self

/-- What came last is the last to go. -/
theorem get?_shed_insert (new : d.get? k = none) (room : 0 < n) :
    ((d.insert k v).shed n).get? k = some v := by
  refine get?_eq_some.mpr ?_
  rw [insert, dif_pos (not_mem_keys new)]
  simp only [shed, add, length, List.length_append, List.length_singleton]
  rw [List.drop_append_of_le_length (by omega)]
  exact List.mem_append_right _ List.mem_cons_self

theorem mem_move_to_end : (l, u) ∈ (d.moveToEnd k).entries ↔ (l, u) ∈ d.entries := by
  unfold moveToEnd
  split
  next v found =>
    have held := mem_of_get? found
    constructor
    · intro mem
      rcases List.mem_append.mp mem with old | new
      · exact (mem_pop.mp old).1
      · cases List.mem_singleton.mp new
        exact held
    · intro mem
      by_cases at_k : l = k
      · subst at_k
        rw [same_of_mem mem held]
        exact List.mem_append_right _ List.mem_cons_self
      · exact List.mem_append_left _ (mem_pop.mpr ⟨mem, at_k⟩)
  next => rfl

theorem length_move_to_end : (d.moveToEnd k).length = d.length := by
  have perm : (d.moveToEnd k).entries.Perm d.entries :=
    (List.perm_ext_iff_of_nodup (.of_map _ (d.moveToEnd k).distinct)
      (.of_map _ d.distinct)).mpr fun _ => mem_move_to_end
  exact perm.length_eq

theorem get?_insert_self (d : OrderedDict κ α) (k : κ) (v : α) :
    (d.insert k v).get? k = some v := by
  refine get?_eq_some.mpr ?_
  rw [insert]
  split
  · exact List.mem_append_right _ List.mem_cons_self
  next there =>
    obtain ⟨entry, mem, key⟩ := List.mem_map.mp (not_not.mp there)
    exact List.mem_map.mpr ⟨entry, mem, if_pos key⟩

theorem get?_insert_of_ne (d : OrderedDict κ α) (v : α) (other : l ≠ k) :
    (d.insert k v).get? l = d.get? l := by
  refine Option.ext fun u => ?_
  rw [get?_eq_some, get?_eq_some]
  constructor
  · intro mem
    exact (mem_insert mem).resolve_right fun here => other here.1
  · intro mem
    rw [insert]
    split
    · exact List.mem_append_left _ mem
    · exact List.mem_map.mpr ⟨(l, u), mem, if_neg other⟩

def mapValues (f : α → α) (d : OrderedDict κ α) : OrderedDict κ α where
  entries := d.entries.map fun entry => (entry.1, f entry.2)
  distinct := by
    rw [List.map_map]
    exact d.distinct

theorem get?_mapValues (f : α → α) (d : OrderedDict κ α) (k : κ) :
    (d.mapValues f).get? k = (d.get? k).map f := by
  refine Option.ext fun u => ?_
  rw [get?_eq_some, Option.map_eq_some_iff]
  constructor
  · intro mem
    obtain ⟨⟨l, v⟩, held, same⟩ := List.mem_map.mp mem
    cases same
    exact ⟨v, get?_eq_some.mpr held, rfl⟩
  · rintro ⟨v, held, rfl⟩
    exact List.mem_map.mpr ⟨(k, v), get?_eq_some.mp held, rfl⟩

end OrderedDict
end Python
