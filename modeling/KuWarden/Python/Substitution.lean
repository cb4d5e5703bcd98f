import KuWarden.Python.RegexLanguage
import KuWarden.Python.Segments

/-!
Replacing parts of a text: `str.replace` and `re.sub`.
-/
namespace KuWarden

namespace Text

variable {old new text rest u : List Char} {c : Char}

/-- `text.replace(old, new)` for a text `old` that is not empty, once `skip` characters more have
been left out. -/
def replaceFrom (old new : List Char) : Nat → List Char → List Char
  | _, [] => []
  | skip + 1, _ :: cs => replaceFrom old new skip cs
  | 0, c :: cs =>
      if old.isPrefixOf (c :: cs) then new ++ replaceFrom old new (old.length - 1) cs
      else c :: replaceFrom old new 0 cs

/-- `text.replace(old, new)`. -/
def replace (old new text : List Char) : List Char := replaceFrom old new 0 text

theorem replaceFrom_skip (u rest : List Char) :
    replaceFrom old new u.length (u ++ rest) = replace old new rest := by
  induction u with
  | nil => cases rest <;> rfl
  | cons c u ih => exact ih

theorem replace_here (some : old ≠ []) :
    replace old new (old ++ rest) = new ++ replace old new rest := by
  cases old with
  | nil => exact absurd rfl some
  | cons o os =>
      have found : (o :: os).isPrefixOf (o :: (os ++ rest)) = true :=
        List.isPrefixOf_iff_prefix.mpr (List.prefix_append (o :: os) rest)
      rw [replace, List.cons_append, replaceFrom, if_pos found]
      exact congrArg (new ++ ·) (replaceFrom_skip os rest)

theorem replace_there (elsewhere : ¬ old <+: c :: text) :
    replace old new (c :: text) = c :: replace old new text := by
  rw [replace, replaceFrom, if_neg fun found => elsewhere (List.isPrefixOf_iff_prefix.mp found)]
  rfl

/-- The induction that follows a replacement: over what it finds, and what it leaves. -/
theorem replace_induction {P : List Char → Prop} (some : old ≠ []) (nil : P [])
    (here : ∀ rest, P rest → P (old ++ rest))
    (there : ∀ c cs, ¬ old <+: c :: cs → P cs → P (c :: cs)) (text : List Char) : P text := by
  induction length : text.length using Nat.strong_induction_on generalizing text with
  | _ n ih =>
      cases text with
      | nil => exact nil
      | cons c cs =>
          by_cases found : old <+: c :: cs
          · obtain ⟨rest, same⟩ := found
            have positive := List.length_pos_of_ne_nil some
            have size := congrArg List.length same
            rw [List.length_append, length] at size
            rw [← same]
            exact here rest (ih rest.length (by omega) rest rfl)
          · refine there c cs found (ih cs.length ?_ cs rfl)
            rw [← length]
            exact Nat.lt_succ_self _

/-- What does not occur is not replaced. -/
theorem replace_absent (absent : ¬ old <:+: text) : replace old new text = text := by
  induction text with
  | nil => rfl
  | cons c cs ih =>
      rw [replace_there fun found => absent found.isInfix,
        ih fun found => absent (found.trans (List.suffix_cons c cs).isInfix)]

/-- A stretch of text without the first character of what is looked for stays as it is. -/
theorem replace_free {o : Char} {os : List Char} (free : o ∉ u) :
    replace (o :: os) new (u ++ rest) = u ++ replace (o :: os) new rest := by
  induction u with
  | nil => rfl
  | cons c u ih =>
      obtain ⟨differs, others⟩ := not_or.mp (mt List.mem_cons.mpr free)
      rw [List.cons_append, replace_there fun found => differs (List.cons_prefix_cons.mp found).1,
        ih others, List.cons_append]

theorem count_replace_le (some : old ≠ []) (fewer : new.count c ≤ old.count c)
    (text : List Char) : (replace old new text).count c ≤ text.count c := by
  induction text using replace_induction some with
  | nil => exact le_rfl
  | here rest ih =>
      rw [replace_here some, List.count_append, List.count_append]
      omega
  | there d cs elsewhere ih =>
      rw [replace_there elsewhere, List.count_cons, List.count_cons]
      omega

theorem count_replace_lt (some : old ≠ []) (fewer : new.count c < old.count c)
    (occurs : old <:+: text) : (replace old new text).count c < text.count c := by
  induction text using replace_induction some with
  | nil => exact absurd (List.infix_nil.mp occurs) some
  | here rest ih =>
      have others := count_replace_le some fewer.le rest
      rw [replace_here some, List.count_append, List.count_append]
      omega
  | there d cs elsewhere ih =>
      rw [replace_there elsewhere, List.count_cons, List.count_cons]
      have inner := ih ((List.infix_cons_iff.mp occurs).resolve_left elsewhere)
      omega

/-- White space that is stripped off holds nothing else. -/
theorem count_strip {s : String} (solid : isSpace c = false) :
    (strip s).toList.count c = s.toList.count c := by
  have front : ∀ cs : List Char, (cs.dropWhile isSpace).count c = cs.count c := by
    intro cs
    induction cs with
    | nil => rfl
    | cons d cs ih =>
        rw [List.dropWhile_cons]
        split
        next spaced =>
          have other : d ≠ c := by
            rintro rfl
            rw [solid] at spaced
            cases spaced
          rw [ih, List.count_cons_of_ne other]
        · rfl
  rw [strip, String.toList_ofList, List.count_reverse, front, List.count_reverse, front]

end Text

namespace Regex

variable {p : Regex} {repl text : List Char}

/-- What follows in `p.sub(repl, text)`, once `skip` characters more have been left out. A match
is taken to read something. -/
def subFrom (p : Regex) (repl : List Char) : Nat → List Char → List Char → List Char
  | _, _, [] => []
  | skip + 1, before, c :: cs => subFrom p repl skip (c :: before) cs
  | 0, before, c :: cs =>
      match p.first before (c :: cs) with
      | none => c :: subFrom p repl 0 (c :: before) cs
      | some t => repl ++ subFrom p repl (cs.length - t.rest.length) (c :: before) cs

/-- `p.sub(repl, text)`. -/
def sub (p : Regex) (repl text : List Char) : List Char := subFrom p repl 0 [] text

theorem first_reads {before rest : List Char} {t : Spot} (found : p.first before rest = some t) :
    ∃ w ∈ p.language, rest = w ++ t.rest :=
  reads (List.mem_of_mem_head? found)

/-- A pattern that reads such characters only. -/
def Draws (q : Char → Prop) : Regex → Prop
  | .one accepts => ∀ c, accepts c = true → q c
  | .empty | .look _ => True
  | .seq p r | .alt p r => Draws q p ∧ Draws q r
  | .many p | .group _ p => Draws q p

theorem Draws.letters {q : Char → Prop} (draws : Draws q p) :
    ∀ w ∈ p.language, ∀ c ∈ w, q c := by
  induction p with
  | one accepts =>
      rintro _ ⟨d, accepted, rfl⟩ c mem
      exact List.mem_singleton.mp mem ▸ draws d accepted
  | empty =>
      intro w word
      rw [show w = [] from word]
      exact fun _ mem => absurd mem List.not_mem_nil
  | seq p r ihp ihr =>
      intro w word c mem
      obtain ⟨u, left, v, right, rfl⟩ := mem_language_seq.mp word
      rcases List.mem_append.mp mem with h | h
      · exact ihp draws.1 u left c h
      · exact ihr draws.2 v right c h
  | alt p r ihp ihr =>
      intro w word
      rcases mem_language_alt.mp word with left | right
      · exact ihp draws.1 w left
      · exact ihr draws.2 w right
  | many p ih =>
      intro w word c mem
      obtain ⟨words, rfl, each⟩ := mem_language_many.mp word
      obtain ⟨u, listed, inner⟩ := List.mem_flatten.mp mem
      exact ih draws u (each u listed).1 c inner
  | group n p ih => exact ih draws
  | look test =>
      intro w word
      rw [show w = [] from word]
      exact fun _ mem => absurd mem List.not_mem_nil

/-- A text that lacks a character of every match is left as it is. -/
theorem sub_absent (lacks : ∀ w ∈ p.language, ∃ c ∈ w, c ∉ text) : p.sub repl text = text := by
  have from_here : ∀ before, subFrom p repl 0 before text = text := by
    induction text with
    | nil => exact fun _ => rfl
    | cons c cs ih =>
        intro before
        have nowhere : p.first before (c :: cs) = none := by
          cases found : p.first before (c :: cs) with
          | none => rfl
          | some t =>
              obtain ⟨w, word, read⟩ := first_reads found
              obtain ⟨d, mem, absent⟩ := lacks w word
              exact absurd (read ▸ List.mem_append_left _ mem) absent
        rw [subFrom, nowhere]
        refine congrArg (c :: ·) (ih (fun w word => ?_) _)
        obtain ⟨d, mem, absent⟩ := lacks w word
        exact ⟨d, mem, fun later => absent (List.mem_cons_of_mem c later)⟩
  exact from_here []

/-- Characters that neither a match nor its replacement holds are kept, in their order. -/
theorem sub_filter {q : Char → Bool} (something : ∀ w ∈ p.language, w ≠ [])
    (read : ∀ w ∈ p.language, ∀ c ∈ w, q c = false) (put : ∀ c ∈ repl, q c = false) :
    (p.sub repl text).filter q = text.filter q := by
  have from_here : ∀ skip before,
      (subFrom p repl skip before text).filter q = (text.drop skip).filter q := by
    induction text with
    | nil => intro skip before; cases skip <;> rfl
    | cons c cs ih =>
        intro skip before
        cases skip with
        | succ skip => exact ih skip _
        | zero =>
            rw [subFrom, List.drop_zero]
            cases found : p.first before (c :: cs) with
            | none =>
                dsimp only
                rw [List.filter_cons, ih, List.drop_zero, List.filter_cons]
            | some t =>
                obtain ⟨w, word, split⟩ := first_reads found
                cases w with
                | nil => exact absurd rfl (something [] word)
                | cons d w =>
                    rw [List.cons_append] at split
                    obtain ⟨rfl, rfl⟩ := List.cons.inj split
                    have none : ∀ part : List Char, (∀ c ∈ part, q c = false) →
                        part.filter q = [] := fun part absent =>
                      List.filter_eq_nil_iff.mpr fun c mem => by simp [absent c mem]
                    dsimp only
                    rw [List.filter_append, none repl put, ih, List.nil_append, List.length_append,
                      Nat.add_sub_cancel, List.drop_left, ← List.cons_append, List.filter_append,
                      none _ (read _ word), List.nil_append]
  exact (from_here 0 []).trans (by rw [List.drop_zero])

end Regex
end KuWarden
