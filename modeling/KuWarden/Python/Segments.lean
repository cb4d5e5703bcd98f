import Mathlib.Data.List.DropRight
import Mathlib.Data.List.Infix
import KuWarden.Python.Text

/-!
Texts that are joined of segments, and what is found in them.
-/
namespace KuWarden.Text

/-- What follows the last place at which `sep` occurs, if it does. -/
def afterLast? (sep : List Char) : List Char → Option (List Char)
  | [] => none
  | c :: cs =>
      match afterLast? sep cs with
      | some tail => some tail
      | none => if sep <+: c :: cs then some ((c :: cs).drop sep.length) else none

/-- The tail of `text.rpartition(sep)`. -/
def afterLast (sep text : List Char) : List Char := (afterLast? sep text).getD text

/-- `text.rstrip(c)`, for a single character. -/
def rstripChar (c : Char) (text : List Char) : List Char := text.rdropWhile (· = c)

/-- `text.removesuffix(suffix)`. -/
def removesuffix (suffix text : List Char) : List Char :=
  if suffix <:+ text then text.take (text.length - suffix.length) else text

/-! ## Occurrences -/

theorem occurs_iff {needle s : String} :
    occurs needle s = true ↔ needle.toList <:+: s.toList := by
  rw [occurs, List.any_eq_true, List.infix_iff_prefix_suffix]
  constructor
  · rintro ⟨tail, mem, here⟩
    exact ⟨tail, List.isPrefixOf_iff_prefix.mp here, (List.mem_tails _ _).mp mem⟩
  · rintro ⟨tail, here, suffix⟩
    exact ⟨tail, (List.mem_tails _ _).mpr suffix, List.isPrefixOf_iff_prefix.mpr here⟩

variable {sep c : Char} {needle xs ys : List Char}

theorem prefix_append_cons (free : sep ∉ needle) (here : needle <+: xs ++ sep :: ys) :
    needle <+: xs := by
  have whole : xs ++ [sep] <+: xs ++ sep :: ys := ⟨ys, by simp⟩
  rcases List.prefix_or_prefix_of_prefix here whole with within | within
  · rcases List.prefix_concat_iff.mp within with same | within
    · exact absurd (by rw [same]; simp) free
    · exact within
  · exact absurd (within.subset (by simp)) free

/-- What holds no separator lies on one side of it. -/
theorem infix_append_cons (free : sep ∉ needle) :
    needle <:+: xs ++ sep :: ys ↔ needle <:+: xs ∨ needle <:+: ys := by
  constructor
  · intro here
    induction xs with
    | nil =>
        rcases List.infix_cons_iff.mp here with first | rest
        · exact .inl (prefix_append_cons free first).isInfix
        · exact .inr rest
    | cons x xs ih =>
        rcases List.infix_cons_iff.mp here with first | rest
        · exact .inl (prefix_append_cons free first).isInfix
        · exact (ih rest).imp_left List.infix_cons
  · rintro (left | right)
    · exact List.infix_append_of_infix_left left
    · exact List.infix_append_of_infix_right (List.infix_cons right)

/-- A text without separators occurs in what is joined if it occurs in a piece. -/
theorem occurs_join {needle sep : String} (single : sep.toList = [c]) (free : c ∉ needle.toList) :
    ∀ {pieces : List String}, pieces ≠ [] →
      (occurs needle (join sep pieces) = true ↔ ∃ piece ∈ pieces, occurs needle piece = true)
  | [], there => absurd rfl there
  | [piece], _ => by simp [join]
  | piece :: next :: rest, _ => by
      have later := occurs_join single free (List.cons_ne_nil next rest)
      have text : (join sep (piece :: next :: rest)).toList =
          piece.toList ++ c :: (join sep (next :: rest)).toList := by
        simp [join, single]
      rw [occurs_iff, text, infix_append_cons free, ← occurs_iff, ← occurs_iff, later]
      simp

/-- The pieces are what the separators end. -/
theorem splitChars_closed (sep : Char) (cs : List Char) :
    (splitChars sep cs).flatMap (fun piece => piece ++ [sep]) = cs ++ [sep] := by
  induction cs with
  | nil => rfl
  | cons c cs ih =>
      rw [splitChars]
      split
      next same =>
        subst same
        rw [List.flatMap_cons, ih]
        rfl
      · cases found : splitChars sep cs with
        | nil =>
            rw [found] at ih
            exact absurd ih.symm (by simp)
        | cons piece rest =>
            rw [found, List.flatMap_cons] at ih
            rw [List.flatMap_cons, List.cons_append, List.cons_append, ih]
            rfl

/-- A text without separators occurs in what they split if it occurs in a piece. -/
theorem infix_splitChars (free : sep ∉ needle) (here : needle <:+: xs) :
    ∃ piece ∈ splitChars sep xs, needle <:+: piece := by
  have closed : needle <:+: (splitChars sep xs).flatMap fun piece => piece ++ [sep] := by
    rw [splitChars_closed]
    exact List.infix_append_of_infix_left here
  have there : splitChars sep xs ≠ [] := by
    intro empty
    have whole := splitChars_closed sep xs
    rw [empty] at whole
    exact absurd whole.symm (by simp)
  revert closed there
  generalize splitChars sep xs = pieces
  intro closed there
  induction pieces with
  | nil => exact absurd rfl there
  | cons piece rest ih =>
      rw [List.flatMap_cons, List.append_assoc, List.singleton_append,
        infix_append_cons free] at closed
      by_cases last : rest = []
      · refine ⟨piece, List.mem_cons_self, closed.elim id fun empty => ?_⟩
        rw [last] at empty
        rw [List.infix_nil.mp empty]
        exact List.nil_infix
      · rcases closed with first | later
        · exact ⟨piece, List.mem_cons_self, first⟩
        · obtain ⟨other, mem, within⟩ := ih later last
          exact ⟨other, List.mem_cons_of_mem piece mem, within⟩

/-! ## Partitions -/

theorem afterLast?_none {sep text : List Char} (nowhere : ¬ sep <:+: text) :
    afterLast? sep text = none := by
  induction text with
  | nil => rfl
  | cons c cs ih =>
      rw [afterLast?, ih fun rest => nowhere (List.infix_cons rest)]
      exact if_neg fun first => nowhere first.isInfix

/-- The last place is where `sep` stands, if it does not occur after its first character. -/
theorem afterLast_append {s front tail : List Char} (last : ¬ c :: s <:+: s ++ tail) :
    afterLast (c :: s) (front ++ c :: (s ++ tail)) = tail := by
  suffices found : afterLast? (c :: s) (front ++ c :: (s ++ tail)) = some tail by
    rw [afterLast, found]
    rfl
  induction front with
  | nil =>
      rw [List.nil_append, afterLast?, afterLast?_none last]
      dsimp only
      rw [if_pos ⟨tail, by simp⟩]
      simp
  | cons d front ih =>
      rw [List.cons_append, afterLast?, ih]

/-- Two separators in a row leave an empty piece. -/
theorem nil_mem_splitChars : [] ∈ (splitChars sep (xs ++ sep :: sep :: ys)).tail := by
  induction xs with
  | nil => simp [splitChars]
  | cons x xs ih =>
      rw [List.cons_append, splitChars]
      split
      · exact List.mem_of_mem_tail ih
      · cases split : splitChars sep (xs ++ sep :: sep :: ys) with
        | nil =>
            rw [split] at ih
            cases ih
        | cons piece rest =>
            rw [split] at ih
            exact ih

/-! ## Stripping -/

/-- A text whose ends are not white space is left as it is. -/
theorem strip_eq {s : String} (first : ∀ c, s.toList.head? = some c → isSpace c = false)
    (last : ∀ c, s.toList.getLast? = some c → isSpace c = false) : strip s = s := by
  have front : s.toList.dropWhile isSpace = s.toList := by
    cases text : s.toList with
    | nil => rfl
    | cons c cs => rw [List.dropWhile_cons, first c (by rw [text]; rfl), if_neg Bool.false_ne_true]
  have back : s.toList.rdropWhile isSpace = s.toList := by
    refine List.rdropWhile_eq_self_iff.mpr fun there spaced => ?_
    rw [last _ (List.getLast?_eq_some_getLast there)] at spaced
    cases spaced
  rw [strip, front]
  show String.ofList (s.toList.rdropWhile isSpace) = s
  rw [back, String.ofList_toList]

/-- A text that is left as it is does not end in white space. -/
theorem last_of_strip {s : String} (same : strip s = s) {c : Char}
    (last : s.toList.getLast? = some c) : isSpace c = false := by
  have text : s.toList = (s.toList.dropWhile isSpace).rdropWhile isSpace := by
    conv_lhs => rw [← same, strip, String.toList_ofList]
    rfl
  rw [text] at last
  have there : (s.toList.dropWhile isSpace).rdropWhile isSpace ≠ [] := by
    intro empty
    rw [empty] at last
    cases last
  rw [List.getLast?_eq_some_getLast there] at last
  cases last
  exact Bool.eq_false_iff.mpr (List.rdropWhile_last_not _ _ there)

end KuWarden.Text
