import Mathlib.Data.List.Basic
import Mathlib.Tactic.Common

/-!
Requests that share a state, interleaved statement by statement.

A request stands before one of its statements, with the values it has read so far. A schedule
names, turn by turn, the request that runs its next statement; nothing is assumed of it.
-/
namespace Process

/-- The shared state and the requests in progress. -/
structure Scene (W R : Type) where
  shared : W
  requests : List R

namespace Scene

variable {W R : Type} (advance : W → R → W × R)

/-- The request at `i` runs its next statement. -/
def turn (scene : Scene W R) (i : Nat) : Scene W R :=
  match scene.requests[i]? with
  | none => scene
  | some r =>
      let moved := advance scene.shared r
      ⟨moved.1, scene.requests.set i moved.2⟩

def play : List Nat → Scene W R → Scene W R
  | [], scene => scene
  | i :: rest, scene => play rest (scene.turn advance i)

/-- `C` holds of the shared state and a request wherever a schedule lets it move. -/
def Meets (C : W → R → Prop) : List Nat → Scene W R → Prop
  | [], _ => True
  | i :: rest, scene =>
      (∀ r ∈ scene.requests[i]?, C scene.shared r) ∧ Meets C rest (scene.turn advance i)

instance Meets.decide {C : W → R → Prop} [∀ w r, Decidable (C w r)] :
    ∀ (schedule : List Nat) (scene : Scene W R), Decidable (Meets advance C schedule scene)
  | [], _ => .isTrue trivial
  | i :: rest, scene =>
      have := Meets.decide (C := C) rest (scene.turn advance i)
      inferInstanceAs (Decidable (_ ∧ _))

variable {advance}

theorem turn_of_some {scene : Scene W R} {i : Nat} {r : R}
    (found : scene.requests[i]? = some r) :
    scene.turn advance i =
      ⟨(advance scene.shared r).1, scene.requests.set i (advance scene.shared r).2⟩ := by
  simp only [turn, found]

theorem Meets.cons {C : W → R → Prop} {scene : Scene W R} {i : Nat} {rest : List Nat} {r : R}
    (found : scene.requests[i]? = some r) (here : C scene.shared r)
    (later : Meets advance C rest (scene.turn advance i)) : Meets advance C (i :: rest) scene := by
  refine ⟨fun r' at_i => ?_, later⟩
  rw [← Option.some.inj (found.symm.trans at_i)]
  exact here

theorem turn_of_none {scene : Scene W R} {i : Nat} (missing : scene.requests[i]? = none) :
    scene.turn advance i = scene := by
  simp only [turn, missing]

/-- Whoever stands at `j` after the turn of the request at `i`. -/
theorem of_turn {scene : Scene W R} {i j : Nat} {r r' : R}
    (found : scene.requests[i]? = some r)
    (at_j : (scene.turn advance i).requests[j]? = some r') :
    (j = i ∧ r' = (advance scene.shared r).2) ∨ (j ≠ i ∧ scene.requests[j]? = some r') := by
  rw [turn_of_some found] at at_j
  by_cases same : j = i
  · subst same
    obtain ⟨lt, -⟩ := List.getElem?_eq_some_iff.mp found
    rw [List.getElem?_set_self lt] at at_j
    exact .inl ⟨rfl, (Option.some.inj at_j).symm⟩
  · rw [List.getElem?_set_ne (Ne.symm same)] at at_j
    exact .inr ⟨same, at_j⟩

theorem length_turn (scene : Scene W R) (i : Nat) :
    (scene.turn advance i).requests.length = scene.requests.length := by
  cases found : scene.requests[i]? with
  | none => rw [turn_of_none found]
  | some r =>
      rw [turn_of_some found]
      exact List.length_set

/-- No request appears and none is lost. -/
theorem length_play (schedule : List Nat) (scene : Scene W R) :
    (play advance schedule scene).requests.length = scene.requests.length := by
  induction schedule generalizing scene with
  | nil => rfl
  | cons i rest ih => exact (ih _).trans (length_turn scene i)

/-- The run lemma: what every turn keeps that meets the condition holds of the whole run. -/
theorem play_keeps {C : W → R → Prop} {P : Scene W R → Prop}
    (keeps : ∀ scene i r, P scene → scene.requests[i]? = some r → C scene.shared r →
      P (scene.turn advance i))
    {schedule : List Nat} {scene : Scene W R} (meets : Meets advance C schedule scene)
    (held : P scene) : P (play advance schedule scene) := by
  induction schedule generalizing scene with
  | nil => exact held
  | cons i rest ih =>
      obtain ⟨here, later⟩ := meets
      refine ih later ?_
      cases found : scene.requests[i]? with
      | none => rw [turn_of_none found]; exact held
      | some r => exact keeps scene i r held found (here r found)

/-- A predicate on the shared state and one on each request beside it. A turn keeps its own
request's predicate, and disturbs that of no other. -/
theorem play_each {C : W → R → Prop} {G : W → Prop} {L : W → R → Prop}
    (own : ∀ w r, G w → L w r → C w r → G (advance w r).1 ∧ L (advance w r).1 (advance w r).2)
    (others : ∀ w r r', L w r → L w r' → L (advance w r).1 r')
    {schedule : List Nat} {scene : Scene W R} (meets : Meets advance C schedule scene)
    (held : G scene.shared) (each : ∀ r ∈ scene.requests, L scene.shared r) :
    G (play advance schedule scene).shared ∧
      ∀ r ∈ (play advance schedule scene).requests, L (play advance schedule scene).shared r := by
  refine play_keeps (P := fun scene => G scene.shared ∧ ∀ r ∈ scene.requests, L scene.shared r)
    ?_ meets ⟨held, each⟩
  intro scene i r ⟨held, each⟩ found condition
  have here := each r (List.mem_of_getElem? found)
  obtain ⟨held', here'⟩ := own scene.shared r held here condition
  rw [turn_of_some found]
  refine ⟨held', fun r' mem => ?_⟩
  rcases List.mem_or_eq_of_mem_set mem with old | rfl
  · exact others scene.shared r r' here (each r' old)
  · exact here'

end Scene
end Process
