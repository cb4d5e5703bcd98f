import KuWarden.Python.Regex
import KuWarden.Python.Text

/-!
Regular expressions as they are written: `re.escape`, and `re.compile` for texts of literals,
escapes, dots, `[^c]`, groups that capture nothing, `*`, `?`, `^` and `$`.

A text of any other kind is not read here.
-/
namespace KuWarden.Regex

/-- The characters before which `re.escape` puts a backslash. -/
def escapedChars : List Char := "()[]\x7b\x7d?*+-|^$\\.&~# \t\n\r\x0b\x0c".toList

/-- `re.escape` of one character. -/
def escape (c : Char) : List Char := if c ∈ escapedChars then ['\\', c] else [c]

/-- The characters that stand for themselves only after a backslash. -/
def specials : List Char := ".\\[\x7b()*+?^$|".toList

def repeaters : List Char := "*+?\x7b".toList

/-- Something other than a repetition follows. -/
def unrepeated (text : List Char) : Bool :=
  match text with
  | [] => true
  | c :: _ => c ∉ repeaters

/-- There is nothing to repeat in a place. -/
def repeatable : Regex → Bool
  | .look _ => false
  | _ => true

/-- `^`. -/
def start : Regex := .look fun before _ => before = []

/-- `$`, which also holds before a final line feed. -/
def stop : Regex := .look fun _ rest => rest = [] ∨ rest = ['\n']

/-- `.`. -/
def dot : Regex := .one (· ≠ '\n')

/-- Read the rest of a text, the expressions of each open group being known, the last one
first. -/
def parse : List Char → List (List Regex) → Option Regex
  | [], [items] => some (seqs items.reverse)
  | '\\' :: c :: text, items :: outer =>
      if c.isAlphanum then none else parse text ((.one (· = c) :: items) :: outer)
  | '(' :: '?' :: ':' :: text, groups => parse text ([] :: groups)
  | ')' :: text, items :: items' :: outer =>
      parse text ((seqs items.reverse :: items') :: outer)
  | '[' :: '^' :: c :: ']' :: text, items :: outer =>
      if c = '\\' ∨ c = '[' ∨ c = ']' then none
      else parse text ((.one (· ≠ c) :: items) :: outer)
  | '.' :: text, items :: outer => parse text ((dot :: items) :: outer)
  | '*' :: text, (p :: items) :: outer =>
      if repeatable p ∧ unrepeated text then parse text ((.many p :: items) :: outer) else none
  | '?' :: text, (p :: items) :: outer =>
      if repeatable p ∧ unrepeated text then parse text ((opt p :: items) :: outer) else none
  | '^' :: text, items :: outer => parse text ((start :: items) :: outer)
  | '$' :: text, items :: outer => parse text ((stop :: items) :: outer)
  | c :: text, items :: outer =>
      if c ∈ specials then none else parse text ((.one (· = c) :: items) :: outer)
  | _, _ => none

/-- `re.compile`. -/
def compile (text : List Char) : Option Regex := parse text [[]]

variable {text : List Char} {items : List Regex} {outer : List (List Regex)}

section Steps

variable {p : Regex}

theorem parse_start : parse ('^' :: text) (items :: outer) = parse text ((start :: items) :: outer) :=
  rfl

theorem parse_stop : parse ('$' :: text) (items :: outer) = parse text ((stop :: items) :: outer) :=
  rfl

theorem parse_dot : parse ('.' :: text) (items :: outer) = parse text ((dot :: items) :: outer) :=
  rfl

theorem parse_open {groups : List (List Regex)} :
    parse ('(' :: '?' :: ':' :: text) groups = parse text ([] :: groups) :=
  rfl

theorem parse_close {inner : List Regex} : parse (')' :: text) (inner :: items :: outer) =
    parse text ((seqs inner.reverse :: items) :: outer) :=
  rfl

theorem parse_except {c : Char} (plain : ¬ (c = '\\' ∨ c = '[' ∨ c = ']')) :
    parse ('[' :: '^' :: c :: ']' :: text) (items :: outer) =
      parse text ((.one (· ≠ c) :: items) :: outer) :=
  if_neg plain

theorem parse_many (one : repeatable p) (once : unrepeated text) :
    parse ('*' :: text) ((p :: items) :: outer) = parse text ((.many p :: items) :: outer) :=
  if_pos ⟨one, once⟩

theorem parse_opt (one : repeatable p) (once : unrepeated text) :
    parse ('?' :: text) ((p :: items) :: outer) = parse text ((opt p :: items) :: outer) :=
  if_pos ⟨one, once⟩

end Steps

theorem escaped_of_special : ∀ c ∈ specials, c ∈ escapedChars := by decide

theorem parse_plain {c : Char} (plain : c ∉ specials) :
    parse (c :: text) (items :: outer) = parse text ((.one (· = c) :: items) :: outer) := by
  have differs : ∀ special ∈ specials, c ≠ special := fun special mem same => plain (same ▸ mem)
  rw [parse, if_neg plain]
  all_goals
    intros
    exact absurd ‹c = _› (differs _ (by decide))

/-- An escaped character is read as itself. -/
theorem parse_escape (c : Char) :
    parse (escape c ++ text) (items :: outer) = parse text ((.one (· = c) :: items) :: outer) := by
  have plain : ∀ c ∈ escapedChars, c.isAlphanum = false := by decide
  rw [escape]
  split
  next escaped =>
    rw [List.cons_append, List.cons_append, List.nil_append, parse, if_neg (by simp [plain c escaped])]
  next other => exact parse_plain fun special => other (escaped_of_special c special)

/-- What was escaped repeats nothing. -/
theorem unrepeated_escape (c : Char) : unrepeated (escape c ++ text) = true := by
  have repeats : ∀ c ∈ repeaters, c ∈ escapedChars := by decide
  rw [escape]
  split
  · exact decide_eq_true (by decide : '\\' ∉ repeaters)
  next other => exact decide_eq_true fun mem => other (repeats c mem)

end KuWarden.Regex
