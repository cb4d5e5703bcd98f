import Mathlib.Data.List.Basic
import Mathlib.Tactic.Common

/-!
What the Unicode database says of characters, as far as the engine asks it.
-/
namespace KuWarden.Text

/-- `str.isalnum` and `str.upper`, of a single character. -/
structure Letters where
  isalnum : Char → Bool
  upper : Char → List Char
  ascii : ∀ c, c.toNat < 128 → isalnum c = c.isAlphanum ∧ upper c = [c.toUpper]
  /-- Nothing is written in capitals with an underscore. -/
  unmarked : ∀ c, isalnum c = true → '_' ∉ upper c

namespace Letters

theorem isAlphanum_small {c : Char} (alnum : c.isAlphanum = true) : c.toNat < 128 := by
  delta Char.isAlphanum Char.isAlpha Char.isUpper Char.isLower Char.isDigit at alnum
  simp only [Bool.or_eq_true, Bool.and_eq_true, decide_eq_true_eq, UInt32.le_iff_toNat_le] at alnum
  show c.val.toNat < 128
  grind

/-- The database without what is not ASCII. -/
def basic : Letters where
  isalnum := Char.isAlphanum
  upper c := [c.toUpper]
  ascii _ _ := ⟨rfl, rfl⟩
  unmarked c alnum mem := by
    have all : ∀ n < 128, (Char.ofNat n).isAlphanum = true → '_' ≠ (Char.ofNat n).toUpper := by
      decide +kernel
    have same : '_' = c.toUpper := List.mem_singleton.mp mem
    rw [← Char.ofNat_toNat c] at same
    exact all c.toNat (isAlphanum_small alnum) (by rwa [Char.ofNat_toNat]) same

variable (letters : Letters)

/-- The texts between the characters that are neither letters nor digits. -/
def words (text : List Char) : List (List Char) := text.splitOnP fun c => !letters.isalnum c

def capitals (word : List Char) : List Char := word.flatMap letters.upper

/-- A text in capitals, with an underscore for what is neither a letter nor a digit. -/
def marked (text : List Char) : List Char :=
  text.flatMap fun c => if letters.isalnum c then letters.upper c else ['_']

theorem words_cons (c : Char) (rest : List Char) : letters.words (c :: rest) =
    if letters.isalnum c then (letters.words rest).modifyHead (c :: ·) else
      [] :: letters.words rest := by
  rw [words, List.splitOnP_cons_eq_if_modifyHead]
  cases letters.isalnum c <;> rfl

theorem isalnum_of_mem_words {text word : List Char} (mem : word ∈ letters.words text) {c : Char}
    (among : c ∈ word) : letters.isalnum c = true := by
  induction text generalizing word with
  | nil =>
      obtain rfl : word = [] := by simpa [words] using mem
      cases among
  | cons d rest ih =>
      rw [words_cons] at mem
      cases alnum : letters.isalnum d with
      | false =>
          rw [alnum, if_neg Bool.false_ne_true] at mem
          rcases List.mem_cons.mp mem with rfl | mem
          · cases among
          · exact ih mem among
      | true =>
          rw [alnum, if_pos rfl] at mem
          cases split : letters.words rest with
          | nil => simp [split] at mem
          | cons first others =>
              rw [split] at mem ih
              rcases List.mem_cons.mp mem with rfl | mem
              · rcases List.mem_cons.mp among with rfl | among
                · exact alnum
                · exact ih List.mem_cons_self among
              · exact ih (List.mem_cons_of_mem _ mem) among

theorem words_ne_nil (text : List Char) : letters.words text ≠ [] := List.splitOnP_ne_nil _ _

/-- The words of a text, in capitals, stand between the underscores. -/
theorem marked_eq (text : List Char) : letters.marked text =
    ['_'].intercalate ((letters.words text).map letters.capitals) := by
  induction text with
  | nil => rfl
  | cons c rest ih =>
      have there := letters.words_ne_nil rest
      rw [marked, List.flatMap_cons, ← marked, ih, words_cons]
      cases split : letters.words rest with
      | nil => exact absurd split there
      | cons first others =>
          cases alnum : letters.isalnum c with
          | false => simp [capitals]
          | true => cases others <;> simp [capitals]

/-- Two texts are marked alike if and only if their words are, in capitals, the same. -/
theorem marked_inj {text text' : List Char} : letters.marked text = letters.marked text' ↔
    (letters.words text).map letters.capitals = (letters.words text').map letters.capitals := by
  have split : ∀ text, (letters.marked text).splitOn '_' =
      (letters.words text).map letters.capitals := by
    intro text
    rw [marked_eq, List.splitOn_intercalate]
    · intro word mem marks
      obtain ⟨word, among, rfl⟩ := List.mem_map.mp mem
      obtain ⟨c, here, marks⟩ := List.mem_flatMap.mp marks
      exact letters.unmarked c (letters.isalnum_of_mem_words among here) marks
    · simpa using letters.words_ne_nil text
  constructor
  · intro same
    rw [← split, same, split]
  · intro same
    rw [marked_eq, marked_eq, same]

end Letters
end KuWarden.Text
