import KuWarden.Python.Regex
import KuWarden.Python.Text
import Mathlib.Computability.Language

/-!
The texts a pattern reads, and that the matcher finds each of them and no other.
-/
namespace KuWarden.Regex

open Computability

variable {p q : Regex} {s t : Spot} {w rest : List Char}

/-- What the matches of a pattern may read; an assertion reads nothing. -/
def language : Regex → Language Char
  | .one accepts => {w | ∃ c, accepts c = true ∧ w = [c]}
  | .empty => 1
  | .seq p q => p.language * q.language
  | .alt p q => p.language + q.language
  | .many p => p.language∗
  | .group _ p => p.language
  | .look _ => 1

/-- A pattern without assertions. -/
def Plain : Regex → Prop
  | .one _ | .empty => True
  | .seq p q | .alt p q => p.Plain ∧ q.Plain
  | .many p | .group _ p => p.Plain
  | .look _ => False

theorem mem_language_one {accepts : Char → Bool} :
    w ∈ (Regex.one accepts).language ↔ ∃ c, accepts c = true ∧ w = [c] := Iff.rfl

theorem mem_language_seq :
    w ∈ (Regex.seq p q).language ↔ ∃ u ∈ p.language, ∃ v ∈ q.language, u ++ v = w :=
  Language.mem_mul

theorem mem_language_alt :
    w ∈ (Regex.alt p q).language ↔ w ∈ p.language ∨ w ∈ q.language := Iff.rfl

theorem mem_language_many : w ∈ (Regex.many p).language ↔
    ∃ words : List (List Char), w = words.flatten ∧ ∀ word ∈ words, word ∈ p.language ∧ word ≠ [] :=
  Language.mem_kstar_iff_exists_nonempty

/-! ## What a match has read -/

theorem again_reads {step : Spot → List Spot} {words : Language Char}
    (each : ∀ s t, t ∈ step s → ∃ w ∈ words, s.rest = w ++ t.rest) {fuel : Nat}
    (mem : t ∈ again step fuel s) : ∃ w ∈ words∗, s.rest = w ++ t.rest := by
  induction fuel generalizing s with
  | zero =>
      rw [List.mem_singleton.mp mem]
      exact ⟨[], Language.nil_mem_kstar _, rfl⟩
  | succ fuel ih =>
      rcases List.mem_append.mp mem with further | stop
      · obtain ⟨next, found, later⟩ := List.mem_flatMap.mp further
        obtain ⟨w, word, read⟩ := each s next (List.mem_of_mem_filter found)
        obtain ⟨v, more, tail⟩ := ih later
        refine ⟨w ++ v, ?_, by rw [read, tail, List.append_assoc]⟩
        rw [← Language.one_add_self_mul_kstar_eq_kstar]
        exact .inr (Language.append_mem_mul word more)
      · rw [List.mem_singleton.mp stop]
        exact ⟨[], Language.nil_mem_kstar _, rfl⟩

theorem reads (mem : t ∈ p.ends s) : ∃ w ∈ p.language, s.rest = w ++ t.rest := by
  induction p generalizing s t with
  | one accepts =>
      rw [ends] at mem
      split at mem
      · cases mem
      next c cs found =>
        split at mem
        next accepted =>
          rw [List.mem_singleton.mp mem, found]
          exact ⟨[c], ⟨c, accepted, rfl⟩, rfl⟩
        · cases mem
  | empty =>
      rw [List.mem_singleton.mp mem]
      exact ⟨[], rfl, rfl⟩
  | seq p q ihp ihq =>
      obtain ⟨next, first, second⟩ := List.mem_flatMap.mp mem
      obtain ⟨u, left, before⟩ := ihp first
      obtain ⟨v, right, after⟩ := ihq second
      exact ⟨u ++ v, Language.append_mem_mul left right,
        by rw [before, after, List.append_assoc]⟩
  | alt p q ihp ihq =>
      rcases List.mem_append.mp mem with left | right
      · obtain ⟨w, word, read⟩ := ihp left
        exact ⟨w, .inl word, read⟩
      · obtain ⟨w, word, read⟩ := ihq right
        exact ⟨w, .inr word, read⟩
  | many p ih => exact again_reads (fun _ _ => ih) mem
  | group n p ih =>
      obtain ⟨next, found, rfl⟩ := List.mem_map.mp mem
      exact ih (t := next) found
  | look test =>
      rw [ends] at mem
      split at mem
      · rw [List.mem_singleton.mp mem]
        exact ⟨[], rfl, rfl⟩
      · cases mem

/-! ## What there is to read -/

theorem again_finds {step : Spot → List Spot} {words : Language Char}
    (each : ∀ s w rest, w ∈ words → s.rest = w ++ rest → ∃ t ∈ step s, t.rest = rest) {fuel : Nat}
    (enough : s.rest.length ≤ fuel) (word : w ∈ words∗) (read : s.rest = w ++ rest) :
    ∃ t ∈ again step fuel s, t.rest = rest := by
  induction fuel generalizing s w with
  | zero =>
      have nothing := List.length_eq_zero_iff.mp (Nat.le_zero.mp enough)
      obtain ⟨-, rfl⟩ := List.append_eq_nil_iff.mp (read.symm.trans nothing)
      exact ⟨s, List.mem_singleton.mpr rfl, nothing⟩
  | succ fuel ih =>
      obtain ⟨parts, rfl, known⟩ := Language.mem_kstar_iff_exists_nonempty.mp word
      cases parts with
      | nil => exact ⟨s, List.mem_append_right _ (List.mem_singleton.mpr rfl), read⟩
      | cons part parts =>
          obtain ⟨member, something⟩ := known part List.mem_cons_self
          rw [List.flatten_cons, List.append_assoc] at read
          obtain ⟨next, found, left⟩ := each s part _ member read
          have shorter : next.rest.length < s.rest.length := by
            have positive := List.length_pos_of_ne_nil something
            rw [left, read, @List.length_append _ part]
            omega
          have more : parts.flatten ∈ words∗ :=
            Language.join_mem_kstar fun word mem => (known word (List.mem_cons_of_mem _ mem)).1
          obtain ⟨t, mem, stops⟩ := ih (by omega) more left
          refine ⟨t, List.mem_append_left _ (List.mem_flatMap.mpr ⟨next, ?_, mem⟩), stops⟩
          exact List.mem_filter.mpr ⟨found, decide_eq_true shorter⟩

theorem finds (plain : p.Plain) (word : w ∈ p.language) (read : s.rest = w ++ rest) :
    ∃ t ∈ p.ends s, t.rest = rest := by
  induction p generalizing s w rest with
  | one accepts =>
      obtain ⟨c, accepted, rfl⟩ := word
      refine ⟨{ s with before := c :: s.before, rest := rest }, ?_, rfl⟩
      rw [ends, read, List.cons_append, List.nil_append]
      dsimp only
      rw [if_pos accepted]
      exact List.mem_singleton.mpr rfl
  | empty =>
      cases (Language.mem_one w).mp word
      exact ⟨s, List.mem_singleton.mpr rfl, read⟩
  | seq p q ihp ihq =>
      obtain ⟨u, left, v, right, rfl⟩ := Language.mem_mul.mp word
      rw [List.append_assoc] at read
      obtain ⟨next, first, middle⟩ := ihp plain.1 left read
      obtain ⟨t, second, stops⟩ := ihq plain.2 right middle
      exact ⟨t, List.mem_flatMap.mpr ⟨next, first, second⟩, stops⟩
  | alt p q ihp ihq =>
      rcases word with left | right
      · obtain ⟨t, mem, stops⟩ := ihp plain.1 left read
        exact ⟨t, List.mem_append_left _ mem, stops⟩
      · obtain ⟨t, mem, stops⟩ := ihq plain.2 right read
        exact ⟨t, List.mem_append_right _ mem, stops⟩
  | many p ih =>
      exact again_finds (fun s w rest word read => ih plain word read) le_rfl word read
  | group n p ih =>
      obtain ⟨t, mem, stops⟩ := ih plain word read
      exact ⟨_, List.mem_map_of_mem mem, stops⟩
  | look test => exact plain.elim

theorem first_isSome {before : List Char} :
    (p.first before rest).isSome = true ↔ ∃ t, t ∈ p.ends { before, rest } := by
  rw [first, List.isSome_head?, ← List.isEmpty_eq_false_iff_exists_mem]
  cases p.ends { before, rest } <;> simp

/-! ## Sequences and runs -/

theorem mem_language_run {accepts : Char → Bool} :
    w ∈ (Regex.many (.one accepts)).language ↔ ∀ c ∈ w, accepts c = true := by
  rw [mem_language_many]
  constructor
  · rintro ⟨words, rfl, known⟩ c mem
    obtain ⟨word, listed, here⟩ := List.mem_flatten.mp mem
    obtain ⟨d, accepted, rfl⟩ := (known word listed).1
    rwa [List.mem_singleton.mp here]
  · intro accepted
    refine ⟨w.map fun c => [c], ?_, fun word mem => ?_⟩
    · exact (List.flatMap_singleton' w).symm.trans (List.flatMap_def ..)
    obtain ⟨c, here, rfl⟩ := List.mem_map.mp mem
    exact ⟨⟨c, accepted c here, rfl⟩, List.cons_ne_nil c []⟩

theorem ends_seqs_cons (p : Regex) (ps : List Regex) (s : Spot) :
    (seqs (p :: ps)).ends s = (p.ends s).flatMap (seqs ps).ends := by
  cases ps with
  | nil => exact (List.flatMap_singleton' _).symm
  | cons q qs => rfl

theorem ends_seqs_append (ps qs : List Regex) (s : Spot) :
    (seqs (ps ++ qs)).ends s = ((seqs ps).ends s).flatMap (seqs qs).ends := by
  induction ps generalizing s with
  | nil => exact (List.flatMap_singleton ..).symm
  | cons p ps ih =>
      rw [List.cons_append, ends_seqs_cons, ends_seqs_cons, List.flatMap_assoc]
      exact List.flatMap_congr fun t _ => ih t

theorem language_seqs (ps : List Regex) : (seqs ps).language = (ps.map language).prod := by
  induction ps with
  | nil => rfl
  | cons p ps ih =>
      rw [List.map_cons, List.prod_cons, ← ih]
      cases ps with
      | nil => exact (mul_one p.language).symm
      | cons q qs => rfl

theorem plain_seqs {ps : List Regex} (plain : ∀ p ∈ ps, p.Plain) : (seqs ps).Plain := by
  induction ps with
  | nil => trivial
  | cons p ps ih =>
      have later := ih fun q mem => plain q (List.mem_cons_of_mem p mem)
      cases ps with
      | nil => exact plain p List.mem_cons_self
      | cons q qs => exact ⟨plain p List.mem_cons_self, later⟩

end KuWarden.Regex
