import Mathlib.Data.List.Basic
import Mathlib.Tactic.Common

/-!
Searching a text with a backtracking matcher. A pattern offers its matches in the order in which
the matcher tries them, and the first one counts.
-/
namespace KuWarden

inductive Regex
  | one (accepts : Char → Bool)
  | empty
  | seq (p q : Regex)
  /-- `p|q`, which tries `p` first. -/
  | alt (p q : Regex)
  /-- `p*`, as often as it goes. -/
  | many (p : Regex)
  | group (n : Nat) (p : Regex)
  /-- An assertion about what was read, backwards, and what is left. -/
  | look (test : List Char → List Char → Bool)

namespace Regex

/-- A place in a text, and what the groups have captured on the way to it. -/
structure Spot where
  before : List Char
  rest : List Char
  groups : List (Nat × List Char) := []

def Spot.since (t s : Spot) : List Char :=
  (t.before.take (s.rest.length - t.rest.length)).reverse

/-- A repetition goes on while it gets further, and then stops, earlier and earlier. -/
def again (step : Spot → List Spot) : Nat → Spot → List Spot
  | 0, s => [s]
  | fuel + 1, s =>
      ((step s).filter fun t => t.rest.length < s.rest.length).flatMap (again step fuel) ++ [s]

def ends : Regex → Spot → List Spot
  | .one accepts, s =>
      match s.rest with
      | [] => []
      | c :: cs => if accepts c then [{ s with before := c :: s.before, rest := cs }] else []
  | .empty, s => [s]
  | .seq p q, s => (ends p s).flatMap (ends q)
  | .alt p q, s => ends p s ++ ends q s
  | .many p, s => again (ends p) s.rest.length s
  | .group n p, s => (ends p s).map fun t => { t with groups := (n, t.since s) :: t.groups }
  | .look test, s => if test s.before s.rest then [s] else []

/-- `p+`. -/
def plus (p : Regex) : Regex := .seq p (.many p)

/-- `p?`. -/
def opt (p : Regex) : Regex := .alt p .empty

def literal (text : String) : Regex := text.toList.foldr (fun c p => .seq (.one (· = c)) p) .empty

def seqs : List Regex → Regex
  | [] => .empty
  | [p] => p
  | p :: ps => .seq p (seqs ps)

def alts : List Regex → Regex
  | [] => .look fun _ _ => false
  | [p] => p
  | p :: ps => .alt p (alts ps)

/-- `re.match`, from a place on. -/
def first (p : Regex) (before rest : List Char) : Option Spot :=
  (p.ends { before, rest }).head?

def searchFrom (p : Regex) : List Char → List Char → Bool
  | before, [] => (p.first before []).isSome
  | before, c :: cs => (p.first before (c :: cs)).isSome || searchFrom p (c :: before) cs

/-- Whether `p.search(text)` finds anything. -/
def search (p : Regex) (text : String) : Bool := p.searchFrom [] text.toList

/-- The matches one after the other, the first `skip` characters left out. A match is taken to
read something. -/
def scan (p : Regex) : Nat → List Char → List Char → List Spot
  | _, _, [] => []
  | skip + 1, before, c :: cs => scan p skip (c :: before) cs
  | 0, before, c :: cs =>
      match p.first before (c :: cs) with
      | none => scan p 0 (c :: before) cs
      | some t => t :: scan p (cs.length - t.rest.length) (c :: before) cs

/-- `p.findall(text)`. -/
def findall (p : Regex) (text : List Char) : List Spot := p.scan 0 [] text

/-- What group `n` of a match captured last. -/
def Spot.group (t : Spot) (n : Nat) : Option (List Char) := t.groups.lookup n

end Regex
end KuWarden
