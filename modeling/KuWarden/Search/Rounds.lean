import Mathlib.Data.Finset.Union
import Mathlib.Tactic.Common

/-!
Searching a graph in rounds. Each round goes one edge further from what the last one found, and
a round that finds nothing is the last.
-/
namespace Rounds

variable {α : Type}

inductive Walk (edge : α → α → Prop) : Nat → α → α → Prop
  | stay {x : α} : Walk edge 0 x x
  | go {x y z : α} {n : Nat} : edge x y → Walk edge n y z → Walk edge (n + 1) x z

/-- Some walk of at most `d` edges leads from `starts` to `z`. -/
def Within (edge : α → α → Prop) (starts : α → Prop) (d : Nat) (z : α) : Prop :=
  ∃ x, starts x ∧ ∃ n, n ≤ d ∧ Walk edge n x z

variable {edge : α → α → Prop} {starts starts' : α → Prop} {d d' : Nat} {x y z : α}

theorem Within.mono (reached : Within edge starts d z) (more : ∀ x, starts x → starts' x)
    (further : d ≤ d') : Within edge starts' d' z := by
  obtain ⟨x, begins, n, short, walk⟩ := reached
  exact ⟨x, more x begins, n, short.trans further, walk⟩

theorem within_zero : Within edge starts 0 z ↔ starts z := by
  constructor
  · rintro ⟨x, begins, n, short, walk⟩
    obtain rfl : n = 0 := Nat.le_zero.mp short
    cases walk
    exact begins
  · exact fun begins => ⟨z, begins, 0, le_rfl, .stay⟩

theorem within_succ : Within edge starts (d + 1) z ↔
    starts z ∨ Within edge (fun y => ∃ x, starts x ∧ edge x y) d z := by
  constructor
  · rintro ⟨x, begins, n, short, walk⟩
    cases walk with
    | stay => exact .inl begins
    | go first rest => exact .inr ⟨_, ⟨x, begins, first⟩, _, Nat.le_of_succ_le_succ short, rest⟩
  · rintro (begins | ⟨y, ⟨x, begins, first⟩, n, short, rest⟩)
    · exact ⟨z, begins, 0, Nat.zero_le _, .stay⟩
    · exact ⟨x, begins, n + 1, Nat.succ_le_succ short, .go first rest⟩

theorem starts_of_within (closed : ∀ x y, starts x → edge x y → starts y)
    (reached : Within edge starts d z) : starts z := by
  obtain ⟨x, begins, n, -, walk⟩ := reached
  induction walk with
  | stay => exact begins
  | go first _ ih => exact ih (closed _ _ begins first)

/-! ## The search -/

/-- Between two rounds, the edges of what is chosen stay within it, but for the frontier's. -/
structure Settled (next : α → Finset α) (chosen frontier : Finset α) : Prop where
  among : frontier ⊆ chosen
  inner : ∀ x ∈ chosen, x ∉ frontier → next x ⊆ chosen

variable {next : α → Finset α} {chosen frontier : Finset α}

theorem settled_start (seeds : Finset α) : Settled next seeds seeds :=
  ⟨Finset.Subset.refl _, fun _ mem fresh => absurd mem fresh⟩

variable [DecidableEq α]

/-- What one round finds: ends of edges of the frontier, none of them chosen before. -/
def found (next : α → Finset α) (chosen frontier : Finset α) : Finset α :=
  frontier.biUnion next \ chosen

/-- What is chosen after at most `d` rounds. -/
def search (next : α → Finset α) : Nat → Finset α → Finset α → Finset α
  | 0, chosen, _ => chosen
  | d + 1, chosen, frontier =>
      let found := found next chosen frontier
      if found = ∅ then chosen else search next d (chosen ∪ found) found

theorem mem_found : z ∈ found next chosen frontier ↔
    (∃ x ∈ frontier, z ∈ next x) ∧ z ∉ chosen := by
  rw [found, Finset.mem_sdiff, Finset.mem_biUnion]

/-- Where an edge of what is chosen leads. -/
theorem Settled.step (settled : Settled next chosen frontier) (mem : x ∈ chosen)
    (leads : y ∈ next x) : y ∈ chosen ∪ found next chosen frontier := by
  by_cases known : y ∈ chosen
  · exact Finset.mem_union_left _ known
  · refine Finset.mem_union_right _ (mem_found.mpr ⟨⟨x, ?_, leads⟩, known⟩)
    by_contra old
    exact known (settled.inner x mem old leads)

theorem Settled.round (settled : Settled next chosen frontier) :
    Settled next (chosen ∪ found next chosen frontier) (found next chosen frontier) where
  among := Finset.subset_union_right
  inner _ mem old _ leads :=
    settled.step ((Finset.mem_union.mp mem).resolve_right old) leads

/-- The search chooses what is reached within `d` edges. -/
theorem mem_search (settled : Settled next chosen frontier) : z ∈ search next d chosen frontier ↔
    Within (fun x y => y ∈ next x) (· ∈ chosen) d z := by
  induction d generalizing chosen frontier with
  | zero => exact within_zero.symm
  | succ d ih =>
      unfold search
      dsimp only
      split
      next nothing =>
        -- Nothing is new, so no edge leaves what is chosen.
        refine ⟨fun mem => ⟨z, mem, 0, Nat.zero_le _, .stay⟩,
          starts_of_within fun x y mem leads => ?_⟩
        have there := settled.step mem leads
        rwa [nothing, Finset.union_empty] at there
      next =>
        rw [ih settled.round, within_succ]
        constructor
        · rintro ⟨x, mem, n, short, walk⟩
          rcases Finset.mem_union.mp mem with old | new
          · cases walk with
            | stay => exact .inl old
            | go first rest => exact .inr ⟨_, ⟨x, old, first⟩, _, by omega, rest⟩
          · obtain ⟨⟨y, front, leads⟩, -⟩ := mem_found.mp new
            exact .inr ⟨x, ⟨y, settled.among front, leads⟩, n, short, walk⟩
        · rintro (mem | ⟨y, ⟨x, mem, leads⟩, n, short, walk⟩)
          · exact ⟨z, Finset.mem_union_left _ mem, 0, Nat.zero_le _, .stay⟩
          · exact ⟨y, settled.step mem leads, n, short, walk⟩

/-- A search that begins with everything it has chosen. -/
theorem mem_search_self (seeds : Finset α) : z ∈ search next d seeds seeds ↔
    Within (fun x y => y ∈ next x) (· ∈ seeds) d z :=
  mem_search (settled_start seeds)

end Rounds
