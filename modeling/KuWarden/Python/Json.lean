import KuWarden.Python.Text
import Mathlib.Data.List.Sort
import Mathlib.Data.String.Basic

/-!
`json.dumps` of what `json.loads` builds, without blanks and in ASCII.

No text is printed for two values, and where the keys are sorted, two documents are printed alike
exactly when they are the same but for the order of their keys.
-/
namespace KuWarden

/-- What a number's text begins with, and what may follow. -/
def numberHead (c : Char) : Bool := c.isDigit || c = '-' || c = 'I' || c = 'N'

def numberChar (c : Char) : Bool := c.isDigit || "-+.eNaInfity".toList.contains c

/-- A float, by the text that `float.__repr__` prints for it, `NaN` and the infinities included.
It is never the text of an integer. -/
structure FloatText where
  text : List Char
  opens : ∃ c ∈ text.head?, numberHead c = true
  made : ∀ c ∈ text, numberChar c = true
  marked : ∃ c ∈ text, c ≠ '-' ∧ c.isDigit = false

inductive Json
  | null
  | bool (b : Bool)
  | int (n : Int)
  | float (x : FloatText)
  | str (s : String)
  | list (items : List Json)
  | dict (entries : List (String × Json))

namespace Json

/-- The characters that a backslash and a letter stand for. -/
def short : List (Char × Char) := [
  ('"', '"'), ('\\', '\\'), ('\n', 'n'), ('\r', 'r'), ('\t', 't'), ('\x08', 'b'), ('\x0c', 'f')]

/-- `'\\u{0:04x}'.format(n)`. -/
def unicode (n : Nat) : List Char := '\\' :: 'u' :: Text.hex 4 n

/-- One character of a string; outside the first plane it is written as a surrogate pair. -/
def escape (c : Char) : List Char :=
  match short.lookup c with
  | some letter => ['\\', letter]
  | none =>
      let n := c.toNat
      if 0x20 ≤ n ∧ n ≤ 0x7e then [c]
      else if n < 0x10000 then unicode n
      else unicode (0xd800 + (n - 0x10000) / 0x400) ++ unicode (0xdc00 + (n - 0x10000) % 0x400)

def quoted (s : String) : List Char := '"' :: s.toList.flatMap escape ++ ['"']

/-- What follows the opening bracket of a list. -/
def items : Bool → List (List Char) → List Char
  | _, [] => [']']
  | first, text :: rest => (if first then [] else [',']) ++ text ++ items false rest

/-- What follows the opening brace of a dictionary. -/
def members : Bool → List (String × List Char) → List Char
  | _, [] => ['\x7d']
  | first, (key, text) :: rest =>
      (if first then [] else [',']) ++ quoted key ++ ':' :: text ++ members false rest

/-- `sorted(entries)`, for keys that are distinct. -/
def byKey {α : Type} (entries : List (String × α)) : List (String × α) :=
  entries.insertionSort fun e f => e.1 ≤ f.1

mutual

/-- `json.dumps(…, sort_keys=…, separators=(",", ":"))`. -/
def dumps (sortKeys : Bool) : Json → List Char
  | .null => "null".toList
  | .bool b => if b then "true".toList else "false".toList
  | .int n => (Text.ofInt n).toList
  | .float x => x.text
  | .str s => quoted s
  | .list xs => '[' :: items true (texts sortKeys xs)
  | .dict es =>
      let texts := entryTexts sortKeys es
      '\x7b' :: members true (if sortKeys then byKey texts else texts)

def texts (sortKeys : Bool) : List Json → List (List Char)
  | [] => []
  | x :: xs => dumps sortKeys x :: texts sortKeys xs

def entryTexts (sortKeys : Bool) : List (String × Json) → List (String × List Char)
  | [] => []
  | e :: es => entryText sortKeys e :: entryTexts sortKeys es

def entryText (sortKeys : Bool) : String × Json → String × List Char
  | (key, v) => (key, dumps sortKeys v)

end

variable {b first : Bool} {j j' : Json} {xs ys : List Json} {es fs : List (String × Json)}
  {r r' : List Char}

theorem texts_eq (xs : List Json) : texts b xs = xs.map (dumps b) := by
  induction xs with
  | nil => rfl
  | cons x xs ih => rw [texts, ih, List.map_cons]

theorem entryTexts_eq (es : List (String × Json)) :
    entryTexts b es = es.map (Prod.map id (dumps b)) := by
  induction es with
  | nil => rfl
  | cons e es ih =>
      obtain ⟨key, v⟩ := e
      rw [entryTexts, ih, entryText, List.map_cons]
      rfl

/-- The induction over a value and all that it holds. -/
theorem induction {P : Json → Prop} (null : P .null) (bool : ∀ b, P (.bool b))
    (int : ∀ n, P (.int n)) (float : ∀ x, P (.float x)) (str : ∀ s, P (.str s))
    (list : ∀ xs, (∀ x ∈ xs, P x) → P (.list xs))
    (dict : ∀ es, (∀ e ∈ es, P e.2) → P (.dict es)) (j : Json) : P j :=
  @Json.rec P (fun xs => ∀ x ∈ xs, P x) (fun es => ∀ e ∈ es, P e.2) (fun e => P e.2) null bool int
    float str list dict (fun _ mem => absurd mem List.not_mem_nil)
    (fun _ _ here others => List.forall_mem_cons.mpr ⟨here, others⟩)
    (fun _ mem => absurd mem List.not_mem_nil)
    (fun _ _ here others => List.forall_mem_cons.mpr ⟨here, others⟩) (fun _ _ here => here) j

/-! ## Strings -/

section
variable {c d : Char} {u v : List Char} {m n : Nat}

theorem mem_of_short {letter : Char} (listed : short.lookup c = some letter) :
    (c, letter) ∈ short := by
  obtain ⟨before, after, split, -⟩ := List.lookup_eq_some_iff.mp listed
  rw [split]
  exact List.mem_append_right _ List.mem_cons_self

/-- A character stands for itself, or what stands for it begins with a backslash. -/
theorem escape_cases (c : Char) :
    (escape c = [c] ∧ c ≠ '\\' ∧ c ≠ '"') ∨
    (∃ letter, (c, letter) ∈ short ∧ escape c = ['\\', letter]) ∨
    (c.toNat < 0x10000 ∧ escape c = unicode c.toNat) ∨
    (0x10000 ≤ c.toNat ∧ escape c = unicode (0xd800 + (c.toNat - 0x10000) / 0x400) ++
      unicode (0xdc00 + (c.toNat - 0x10000) % 0x400)) := by
  rw [escape]
  cases listed : short.lookup c with
  | some letter => exact .inr (.inl ⟨letter, mem_of_short listed, rfl⟩)
  | none =>
      dsimp only
      split
      · refine .inl ⟨rfl, ?_, ?_⟩ <;>
          (rintro rfl; cases listed)
      · split
        next first => exact .inr (.inr (.inl ⟨first, rfl⟩))
        next beyond => exact .inr (.inr (.inr ⟨Nat.le_of_not_lt beyond, rfl⟩))

theorem unicode_inj (small : m < 0x10000) (small' : n < 0x10000)
    (same : unicode m ++ u = unicode n ++ v) : m = n ∧ u = v := by
  have rest := (List.cons.inj (List.cons.inj same).2).2
  obtain ⟨digits, rest⟩ := List.append_inj rest
    ((Text.length_hex 4 m).trans (Text.length_hex 4 n).symm)
  exact ⟨Text.hex_inj small small' digits, rest⟩

/-- No surrogate is a character. -/
theorem not_surrogate (c : Char) : c.toNat < 0xd800 ∨ 0xdfff < c.toNat ∧ c.toNat < 0x110000 :=
  c.valid

theorem short_ne_unicode {letter : Char} (listed : (c, letter) ∈ short)
    (same : ['\\', letter] ++ u = unicode n ++ v) : False := by
  have others : ∀ p ∈ short, p.2 ≠ 'u' := by decide
  exact others _ listed (List.cons.inj (List.cons.inj same).2).1

theorem escape_plain (slash : c ≠ '\\') (same : c :: u = escape d ++ v) : c = d ∧ u = v := by
  rcases escape_cases d with ⟨text, -⟩ | ⟨letter, -, text⟩ | ⟨-, text⟩ | ⟨-, text⟩
  · rw [text] at same
    exact List.cons.inj same
  all_goals
    rw [text] at same
    exact absurd (List.cons.inj same).1 slash

theorem escape_short {letter : Char} (listed : (c, letter) ∈ short)
    (same : ['\\', letter] ++ u = escape d ++ v) : c = d ∧ u = v := by
  rcases escape_cases d with ⟨text, slash, -⟩ | ⟨letter', listed', text⟩ | ⟨-, text⟩ | ⟨-, text⟩
  · rw [text] at same
    exact absurd (List.cons.inj same).1.symm slash
  · have apart : ∀ p ∈ short, ∀ q ∈ short, p.2 = q.2 → p.1 = q.1 := by decide
    rw [text] at same
    obtain ⟨letters, rest⟩ := List.cons.inj (List.cons.inj same).2
    exact ⟨apart _ listed _ listed' letters, rest⟩
  · rw [text] at same
    exact (short_ne_unicode listed same).elim
  · rw [text, List.append_assoc] at same
    exact (short_ne_unicode listed same).elim

/-- What stands for a character is not the beginning of what stands for another. -/
theorem escape_inj (same : escape c ++ u = escape d ++ v) : c = d ∧ u = v := by
  have back := same.symm
  rcases escape_cases c with ⟨text, slash, -⟩ | ⟨letter, listed, text⟩ | ⟨first, text⟩ |
    ⟨beyond, text⟩
  · rw [text] at same
    exact escape_plain slash same
  · rw [text] at same
    exact escape_short listed same
  all_goals
    rcases escape_cases d with ⟨text', slash', -⟩ | ⟨letter', listed', text'⟩ | ⟨first', text'⟩ |
      ⟨beyond', text'⟩
    · rw [text'] at back
      exact (escape_plain slash' back).imp Eq.symm Eq.symm
    · rw [text'] at back
      exact (escape_short listed' back).imp Eq.symm Eq.symm
  -- Both are in the first plane, or both beyond it: the first of a pair is a surrogate.
  · rw [text, text'] at same
    obtain ⟨number, rest⟩ := unicode_inj first first' same
    exact ⟨Char.toNat_inj.mp number, rest⟩
  · have valid := not_surrogate c
    have valid' := not_surrogate d
    rw [text, text', List.append_assoc] at same
    obtain ⟨number, -⟩ := unicode_inj first (by omega) same
    omega
  · have valid := not_surrogate c
    have valid' := not_surrogate d
    rw [text, text', List.append_assoc] at same
    obtain ⟨number, -⟩ := unicode_inj (by omega) first' same
    omega
  · have valid := not_surrogate c
    have valid' := not_surrogate d
    rw [text, text', List.append_assoc, List.append_assoc] at same
    obtain ⟨upper, same⟩ := unicode_inj (by omega) (by omega) same
    obtain ⟨lower, rest⟩ := unicode_inj (by omega) (by omega) same
    exact ⟨Char.toNat_inj.mp (by omega), rest⟩

/-- Nothing that stands for a character begins with a quotation mark. -/
theorem escape_ne_quote : escape c ++ u ≠ '"' :: v := by
  intro same
  rcases escape_cases c with ⟨text, -, quote⟩ | ⟨letter, -, text⟩ | ⟨-, text⟩ | ⟨-, text⟩
  · rw [text] at same
    exact quote (List.cons.inj same).1
  all_goals
    rw [text] at same
    exact absurd (List.cons.inj same).1 (by decide)

theorem escaped_inj {cs ds : List Char}
    (same : cs.flatMap escape ++ '"' :: u = ds.flatMap escape ++ '"' :: v) : cs = ds ∧ u = v := by
  induction cs generalizing ds with
  | nil =>
      cases ds with
      | nil => exact ⟨rfl, (List.cons.inj same).2⟩
      | cons d ds =>
          rw [List.flatMap_cons, List.append_assoc] at same
          exact absurd same.symm escape_ne_quote
  | cons c cs ih =>
      cases ds with
      | nil =>
          rw [List.flatMap_cons, List.append_assoc] at same
          exact absurd same escape_ne_quote
      | cons d ds =>
          rw [List.flatMap_cons, List.flatMap_cons, List.append_assoc, List.append_assoc] at same
          obtain ⟨rfl, later⟩ := escape_inj same
          obtain ⟨rfl, rest⟩ := ih later
          exact ⟨rfl, rest⟩

theorem quoted_inj {s t : String} (same : quoted s ++ u = quoted t ++ v) : s = t ∧ u = v := by
  rw [quoted, quoted, List.append_assoc, List.append_assoc] at same
  obtain ⟨chars, rest⟩ := escaped_inj (List.cons.inj same).2
  exact ⟨String.toList_inj.mp chars, rest⟩

end

/-! ## Values -/

inductive Kind
  | null | truth | falsity | number | text | list | dict
  deriving DecidableEq

def kind : Json → Kind
  | .null => .null
  | .bool true => .truth
  | .bool false => .falsity
  | .int _ | .float _ => .number
  | .str _ => .text
  | .list _ => .list
  | .dict _ => .dict

/-- What a value is that is printed with this character first. -/
def kindOf (c : Char) : Option Kind :=
  if c = 'n' then some .null
  else if c = 't' then some .truth
  else if c = 'f' then some .falsity
  else if numberHead c then some .number
  else if c = '"' then some .text
  else if c = '[' then some .list
  else if c = '\x7b' then some .dict
  else none

/-- What may follow a value in a document. -/
def stops : List Char := ",]\x7d".toList

/-- What follows a value. -/
def Closes (r : List Char) : Prop := ∀ c ∈ r.head?, c ∈ stops

theorem kindOf_number {c : Char} (opens : numberHead c = true) : kindOf c = some .number := by
  have other : ∀ d, numberHead d = false → c ≠ d := by
    rintro d none rfl
    rw [opens] at none
    cases none
  rw [kindOf, if_neg (other 'n' (by decide)), if_neg (other 't' (by decide)),
    if_neg (other 'f' (by decide)), if_pos opens]

theorem int_head (n : Int) : ∃ c ∈ (Text.ofInt n).toList.head?, numberHead c = true := by
  cases text : (Text.ofInt n).toList with
  | nil =>
      cases n with
      | ofNat n =>
          have digits : (Text.ofNat n).toList = [] := text
          rw [Text.toList_ofNat] at digits
          exact absurd digits Nat.toDigits_ne_nil
      | negSucc n =>
          rw [Text.toList_ofInt_negSucc] at text
          cases text
  | cons c rest =>
      refine ⟨c, rfl, ?_⟩
      rcases Text.mem_ofInt (text ▸ List.mem_cons_self) with rfl | digit
      · rfl
      · rw [numberHead, digit]
        rfl

theorem dumps_head (b : Bool) (j : Json) :
    ∃ c ∈ (dumps b j).head?, kindOf c = some j.kind := by
  cases j with
  | null => exact ⟨'n', rfl, by decide⟩
  | bool v =>
      cases v with
      | true => exact ⟨'t', rfl, by decide⟩
      | false => exact ⟨'f', rfl, by decide⟩
  | int n =>
      obtain ⟨c, first, opens⟩ := int_head n
      exact ⟨c, first, kindOf_number opens⟩
  | float x =>
      obtain ⟨c, first, opens⟩ := x.opens
      exact ⟨c, first, kindOf_number opens⟩
  | str s => exact ⟨'"', rfl, rfl⟩
  | list xs => exact ⟨'[', rfl, rfl⟩
  | dict es => exact ⟨'\x7b', rfl, rfl⟩

/-- Texts that begin alike are of values of one kind. -/
theorem kind_eq (same : dumps b j ++ r = dumps b j' ++ r') : j.kind = j'.kind := by
  obtain ⟨c, first, kind⟩ := dumps_head b j
  obtain ⟨c', first', kind'⟩ := dumps_head b j'
  have heads := congrArg List.head? same
  rw [List.head?_append, List.head?_append, first, first'] at heads
  cases heads
  exact Option.some.inj (kind.symm.trans kind')

/-! ### Numbers -/

/-- Where two texts go on alike, numbers end at the same place. -/
theorem number_inj {u v : List Char} (number : ∀ c ∈ u, numberChar c = true)
    (number' : ∀ c ∈ v, numberChar c = true) (closes : Closes r) (closes' : Closes r')
    (same : u ++ r = v ++ r') : u = v ∧ r = r' := by
  have other : ∀ c ∈ stops, numberChar c = false := by decide
  have ends : ∀ {as rest tail : List Char}, (∀ c ∈ as, numberChar c = true) → Closes rest →
      rest = as ++ tail → as = [] := by
    intro as rest tail number closes split
    cases as with
    | nil => rfl
    | cons c as =>
        have stop := closes c (by rw [split]; rfl)
        exact absurd ((number c List.mem_cons_self).symm.trans (other c stop)) (by decide)
  rcases List.append_eq_append_iff.mp same with ⟨as, grown, rest⟩ | ⟨as, grown, rest⟩
  · have none := ends (fun c mem => number' c (grown ▸ List.mem_append_right _ mem)) closes rest
    rw [none, List.append_nil] at grown
    rw [none, List.nil_append] at rest
    exact ⟨grown.symm, rest⟩
  · have none := ends (fun c mem => number c (grown ▸ List.mem_append_right _ mem)) closes' rest
    rw [none, List.append_nil] at grown
    rw [none, List.nil_append] at rest
    exact ⟨grown, rest.symm⟩

theorem int_chars {n : Int} {c : Char} (mem : c ∈ (Text.ofInt n).toList) : numberChar c = true := by
  rcases Text.mem_ofInt mem with rfl | digit
  · decide
  · rw [numberChar, digit, Bool.true_or]

theorem int_ne_float {n : Int} {x : FloatText} : (Text.ofInt n).toList ≠ x.text := by
  intro same
  obtain ⟨c, mem, minus, none⟩ := x.marked
  rcases Text.mem_ofInt (same ▸ mem) with is | digit
  · exact minus is
  · rw [digit] at none
    cases none

theorem floatText_inj {x y : FloatText} (same : x.text = y.text) : x = y := by
  cases x
  cases y
  cases same
  rfl

/-! ### Everything -/

/-- Wherever its text stands in a document, it is read as this value. -/
def Unique (j : Json) : Prop :=
  ∀ (j' : Json) (r r' : List Char), Closes r → Closes r' →
    dumps false j ++ r = dumps false j' ++ r' → j = j' ∧ r = r'

theorem closes_items (texts : List (List Char)) : Closes (items false texts ++ r) := by
  intro c head
  cases texts with
  | nil =>
      cases head
      decide
  | cons text rest =>
      cases head
      decide

theorem closes_members (texts : List (String × List Char)) :
    Closes (members false texts ++ r) := by
  intro c head
  cases texts with
  | nil =>
      cases head
      decide
  | cons text rest =>
      cases head
      decide

/-- No value begins like the end of a list. -/
theorem bracket_ne (text : List Char) : ']' :: r ≠ dumps b j ++ text := by
  intro same
  obtain ⟨c, first, kind⟩ := dumps_head b j
  have heads := congrArg List.head? same
  rw [List.head?_append, first] at heads
  cases heads
  cases kind

theorem items_inj (each : ∀ x ∈ xs, Unique x)
    (same : items first (xs.map (dumps false)) ++ r = items first (ys.map (dumps false)) ++ r') :
    xs = ys ∧ r = r' := by
  induction xs generalizing first ys with
  | nil =>
      cases ys with
      | nil => exact ⟨rfl, (List.cons.inj same).2⟩
      | cons y ys =>
          cases first with
          | true =>
              rw [List.map_cons, items, if_pos rfl, List.nil_append, List.append_assoc] at same
              exact absurd same (bracket_ne _)
          | false => cases (List.cons.inj same).1
  | cons x xs ih =>
      cases ys with
      | nil =>
          cases first with
          | true =>
              rw [List.map_cons, items, if_pos rfl, List.nil_append, List.append_assoc] at same
              exact absurd same.symm (bracket_ne _)
          | false => cases (List.cons.inj same).1
      | cons y ys =>
          have here : dumps false x ++ (items false (xs.map (dumps false)) ++ r) =
              dumps false y ++ (items false (ys.map (dumps false)) ++ r') := by
            rw [List.map_cons, List.map_cons, items, items, List.append_assoc, List.append_assoc,
              List.append_assoc, List.append_assoc] at same
            exact List.append_cancel_left same
          obtain ⟨rfl, later⟩ := each x List.mem_cons_self y _ _ (closes_items _) (closes_items _)
            here
          obtain ⟨rfl, rest⟩ := ih (fun z mem => each z (List.mem_cons_of_mem x mem)) later
          exact ⟨rfl, rest⟩

theorem members_inj (each : ∀ e ∈ es, Unique e.2)
    (same : members first (es.map (Prod.map id (dumps false))) ++ r =
      members first (fs.map (Prod.map id (dumps false))) ++ r') : es = fs ∧ r = r' := by
  induction es generalizing first fs with
  | nil =>
      cases fs with
      | nil => exact ⟨rfl, (List.cons.inj same).2⟩
      | cons f fs => cases first <;> cases (List.cons.inj same).1
  | cons e es ih =>
      cases fs with
      | nil => cases first <;> cases (List.cons.inj same).1
      | cons f fs =>
          obtain ⟨key, v⟩ := e
          obtain ⟨key', v'⟩ := f
          have here : quoted key ++ ':' :: (dumps false v ++
                (members false (es.map (Prod.map id (dumps false))) ++ r)) =
              quoted key' ++ ':' :: (dumps false v' ++
                (members false (fs.map (Prod.map id (dumps false))) ++ r')) := by
            simp only [List.map_cons, Prod.map, id, members, List.append_assoc,
              List.cons_append] at same
            exact List.append_cancel_left same
          obtain ⟨rfl, value⟩ := quoted_inj here
          obtain ⟨rfl, later⟩ := each _ List.mem_cons_self v' _ _ (closes_members _)
            (closes_members _) (List.cons.inj value).2
          obtain ⟨rfl, rest⟩ := ih (fun e mem => each e (List.mem_cons_of_mem _ mem)) later
          exact ⟨rfl, rest⟩

/-- A number is read as this number. -/
theorem unique_number (number : j.kind = .number)
    (chars : ∀ c ∈ dumps false j, numberChar c = true)
    (others : ∀ j', j'.kind = .number → dumps false j = dumps false j' → j = j') : Unique j := by
  intro j' r r' closes closes' same
  have kind := (kind_eq same).symm.trans number
  have chars' : ∀ c ∈ dumps false j', numberChar c = true := by
    cases j' with
    | int n => exact fun c => int_chars
    | float x => exact x.made
    | bool v => cases v <;> cases kind
    | _ => cases kind
  obtain ⟨text, rest⟩ := number_inj chars chars' closes closes' same
  exact ⟨others j' kind text, rest⟩

theorem unique (j : Json) : Unique j := by
  induction j using Json.induction with
  | null =>
      intro j' r r' _ _ same
      have kind := kind_eq same
      cases j' with
      | null => exact ⟨rfl, List.append_cancel_left same⟩
      | bool v => cases v <;> cases kind
      | _ => cases kind
  | bool v =>
      intro j' r r' _ _ same
      have kind := kind_eq same
      cases j' with
      | bool v' =>
          have values : v = v' := by cases v <;> cases v' <;> first | rfl | cases kind
          subst values
          exact ⟨rfl, List.append_cancel_left same⟩
      | _ => cases v <;> cases kind
  | int n =>
      refine unique_number rfl (fun c => int_chars) fun j' kind same => ?_
      cases j' with
      | int n' => exact congrArg Json.int (Text.ofInt_inj same)
      | float x => exact absurd same int_ne_float
      | bool v => cases v <;> cases kind
      | _ => cases kind
  | float x =>
      refine unique_number rfl x.made fun j' kind same => ?_
      cases j' with
      | int n => exact absurd same.symm int_ne_float
      | float y => exact congrArg Json.float (floatText_inj same)
      | bool v => cases v <;> cases kind
      | _ => cases kind
  | str s =>
      intro j' r r' _ _ same
      have kind := kind_eq same
      cases j' with
      | str s' =>
          obtain ⟨rfl, rest⟩ := quoted_inj same
          exact ⟨rfl, rest⟩
      | bool v => cases v <;> cases kind
      | _ => cases kind
  | list xs each =>
      intro j' r r' _ _ same
      have kind := kind_eq same
      cases j' with
      | list ys =>
          rw [dumps, dumps, texts_eq, texts_eq] at same
          obtain ⟨rfl, rest⟩ := items_inj each (List.cons.inj same).2
          exact ⟨rfl, rest⟩
      | bool v => cases v <;> cases kind
      | _ => cases kind
  | dict es each =>
      intro j' r r' _ _ same
      have kind := kind_eq same
      cases j' with
      | dict fs =>
          rw [dumps, dumps, entryTexts_eq, entryTexts_eq] at same
          obtain ⟨rfl, rest⟩ := members_inj each (List.cons.inj same).2
          exact ⟨rfl, rest⟩
      | bool v => cases v <;> cases kind
      | _ => cases kind

/-- No text is printed for two values. -/
theorem dumps_inj (same : dumps false j = dumps false j') : j = j' :=
  (unique j j' [] [] (fun _ mem => nomatch mem) (fun _ mem => nomatch mem) (by rw [same])).1

/-! ## Sorted keys -/

mutual

/-- The same value, each dictionary in the order of its keys. -/
def sorted : Json → Json
  | .list xs => .list (sortedItems xs)
  | .dict es => .dict (byKey (sortedEntries es))
  | j => j

def sortedItems : List Json → List Json
  | [] => []
  | x :: xs => sorted x :: sortedItems xs

def sortedEntries : List (String × Json) → List (String × Json)
  | [] => []
  | e :: es => sortedEntry e :: sortedEntries es

def sortedEntry : String × Json → String × Json
  | (key, v) => (key, sorted v)

end

theorem sorted_list (xs : List Json) : sorted (.list xs) = .list (xs.map sorted) := by
  rw [sorted]
  congr 1
  induction xs with
  | nil => rfl
  | cons x xs ih => rw [sortedItems, ih, List.map_cons]

theorem sorted_dict (es : List (String × Json)) :
    sorted (.dict es) = .dict (byKey (es.map (Prod.map id sorted))) := by
  rw [sorted]
  congr 2
  induction es with
  | nil => rfl
  | cons e es ih =>
      obtain ⟨key, v⟩ := e
      rw [sortedEntries, ih, sortedEntry, List.map_cons]
      rfl

theorem map_byKey {α β : Type} (f : α → β) (entries : List (String × α)) :
    (byKey entries).map (Prod.map id f) = byKey (entries.map (Prod.map id f)) :=
  List.map_insertionSort _ _ _ _ fun _ _ _ _ => Iff.rfl

theorem dumps_sorted (j : Json) : dumps true j = dumps false (sorted j) := by
  induction j using Json.induction with
  | null | bool _ | int _ | float _ | str _ => rfl
  | list xs each =>
      rw [sorted_list, dumps, dumps, texts_eq, texts_eq, List.map_map]
      exact congrArg (fun texts => '[' :: items true texts) (List.map_congr_left each)
  | dict es each =>
      rw [sorted_dict, dumps, dumps, entryTexts_eq, entryTexts_eq, if_pos rfl, if_neg (by decide),
        map_byKey, List.map_map]
      refine congrArg (fun texts => '\x7b' :: members true (byKey texts)) ?_
      exact List.map_congr_left fun e mem => Prod.ext rfl (each e mem)

/-- Two values that are the same but for the order of the keys in their dictionaries. -/
inductive Same : Json → Json → Prop
  | null : Same .null .null
  | bool (b : Bool) : Same (.bool b) (.bool b)
  | int (n : Int) : Same (.int n) (.int n)
  | float (x : FloatText) : Same (.float x) (.float x)
  | str (s : String) : Same (.str s) (.str s)
  | list {xs ys : List Json} : xs.length = ys.length →
      (∀ (i : Nat) (x y : Json), xs[i]? = some x → ys[i]? = some y → Same x y) →
      Same (.list xs) (.list ys)
  /-- They have the same keys, and the same under each. -/
  | dict {es fs : List (String × Json)} : (∀ key, key ∈ es.map Prod.fst ↔ key ∈ fs.map Prod.fst) →
      (∀ key v v', (key, v) ∈ es → (key, v') ∈ fs → Same v v') → Same (.dict es) (.dict fs)

/-- Every dictionary has a key once. -/
inductive Keyed : Json → Prop
  | null : Keyed .null
  | bool (b : Bool) : Keyed (.bool b)
  | int (n : Int) : Keyed (.int n)
  | float (x : FloatText) : Keyed (.float x)
  | str (s : String) : Keyed (.str s)
  | list {xs : List Json} : (∀ x ∈ xs, Keyed x) → Keyed (.list xs)
  | dict {es : List (String × Json)} : (es.map Prod.fst).Nodup → (∀ e ∈ es, Keyed e.2) →
      Keyed (.dict es)

/-- Entries with distinct keys are sorted alike when they are the same entries. -/
theorem byKey_eq_iff {α : Type} {es fs : List (String × α)} (once : (es.map Prod.fst).Nodup) :
    byKey es = byKey fs ↔ es.Perm fs := by
  have perm : ∀ es : List (String × α), (byKey es).Perm es := List.perm_insertionSort _
  constructor
  · intro same
    exact (perm es).symm.trans (same ▸ perm fs)
  · intro entries
    have ordered : ∀ es : List (String × α), (byKey es).Pairwise fun e f => e.1 ≤ f.1 := by
      intro es
      have total : Std.Total fun e f : String × α => e.1 ≤ f.1 := ⟨fun e f => le_total e.1 f.1⟩
      have trans : IsTrans (String × α) fun e f => e.1 ≤ f.1 := ⟨fun _ _ _ => le_trans⟩
      exact List.pairwise_insertionSort _ es
    refine List.Perm.eq_of_pairwise ?_ (ordered es) (ordered fs)
      ((perm es).trans (entries.trans (perm fs).symm))
    intro e f mem mem' below above
    exact List.inj_on_of_nodup_map once ((perm es).mem_iff.mp mem)
      (entries.mem_iff.mpr ((perm fs).mem_iff.mp mem')) (le_antisymm below above)

/-- Under distinct keys, what is stored under a key is what an entry says. -/
theorem value_eq {α : Type} {es : List (String × α)} {key : String} {v v' : α}
    (once : (es.map Prod.fst).Nodup) (mem : (key, v) ∈ es) (mem' : (key, v') ∈ es) : v = v' :=
  (Prod.ext_iff.mp (List.inj_on_of_nodup_map once mem mem' rfl)).2

theorem map_fst {α β : Type} (f : α → β) (es : List (String × α)) :
    (es.map (Prod.map id f)).map Prod.fst = es.map Prod.fst := by
  rw [List.map_map]
  rfl

theorem sorted_dict_iff (once : (es.map Prod.fst).Nodup) (once' : (fs.map Prod.fst).Nodup)
    (each : ∀ e ∈ es, ∀ f ∈ fs, sorted e.2 = sorted f.2 ↔ Same e.2 f.2) :
    sorted (.dict es) = sorted (.dict fs) ↔ Same (.dict es) (.dict fs) := by
  rw [sorted_dict, sorted_dict, Json.dict.injEq, byKey_eq_iff ((map_fst sorted es).symm ▸ once)]
  constructor
  · intro perm
    have keys : ∀ key, _ ↔ _ := fun key => (perm.map Prod.fst).mem_iff (a := key)
    refine .dict (fun key => ?_) fun key v v' mem mem' => (each _ mem _ mem').mp ?_
    · rw [← map_fst sorted es, ← map_fst sorted fs]
      exact keys key
    · have there := perm.mem_iff.mp (List.mem_map_of_mem mem)
      exact value_eq ((map_fst sorted fs).symm ▸ once') there (List.mem_map_of_mem mem')
  · intro same
    cases same with
    | dict keys values =>
        refine (List.perm_ext_iff_of_nodup (.of_map Prod.fst ((map_fst sorted es).symm ▸ once))
          (.of_map Prod.fst ((map_fst sorted fs).symm ▸ once'))).mpr fun entry => ?_
        constructor
        · intro mem
          obtain ⟨⟨key, v⟩, here, rfl⟩ := List.mem_map.mp mem
          obtain ⟨⟨_, v'⟩, there, rfl⟩ := List.mem_map.mp
            ((keys key).mp (List.mem_map_of_mem here))
          refine List.mem_map.mpr ⟨_, there, Prod.ext rfl ?_⟩
          exact ((each _ here _ there).mpr (values _ _ _ here there)).symm
        · intro mem
          obtain ⟨⟨key, v⟩, there, rfl⟩ := List.mem_map.mp mem
          obtain ⟨⟨_, v'⟩, here, rfl⟩ := List.mem_map.mp
            ((keys key).mpr (List.mem_map_of_mem there))
          refine List.mem_map.mpr ⟨_, here, Prod.ext rfl ?_⟩
          exact (each _ here _ there).mpr (values _ _ _ here there)

theorem sorted_list_iff (each : ∀ x ∈ xs, ∀ y ∈ ys, sorted x = sorted y ↔ Same x y) :
    sorted (.list xs) = sorted (.list ys) ↔ Same (.list xs) (.list ys) := by
  rw [sorted_list, sorted_list, Json.list.injEq]
  constructor
  · intro same
    have length := congrArg List.length same
    rw [List.length_map, List.length_map] at length
    refine .list length fun i x y at_x at_y => ?_
    refine (each _ (List.mem_of_getElem? at_x) _ (List.mem_of_getElem? at_y)).mp ?_
    have here := congrArg (fun texts => texts[i]?) same
    rw [List.getElem?_map, List.getElem?_map, at_x, at_y] at here
    exact Option.some.inj here
  · intro same
    cases same with
    | list length pairs =>
        refine List.ext_getElem? fun i => ?_
        rw [List.getElem?_map, List.getElem?_map]
        by_cases inside : i < xs.length
        · have at_x := List.getElem?_eq_getElem inside
          have at_y := List.getElem?_eq_getElem (length ▸ inside)
          rw [at_x, at_y]
          exact congrArg some ((each _ (List.getElem_mem _) _ (List.getElem_mem _)).mpr
            (pairs i _ _ at_x at_y))
        · rw [List.getElem?_eq_none (Nat.le_of_not_lt inside),
            List.getElem?_eq_none (length ▸ Nat.le_of_not_lt inside)]

theorem kind_sorted (j : Json) : (sorted j).kind = j.kind := by
  cases j with
  | list xs => rw [sorted_list]; rfl
  | dict es => rw [sorted_dict]; rfl
  | _ => rfl

theorem Same.kind_eq (same : Same j j') : j.kind = j'.kind := by
  cases same <;> rfl

theorem sorted_apart (apart : j.kind ≠ j'.kind) : sorted j = sorted j' ↔ Same j j' := by
  constructor
  · intro same
    have kinds := congrArg kind same
    rw [kind_sorted, kind_sorted] at kinds
    exact absurd kinds apart
  · intro same
    exact absurd same.kind_eq apart

theorem sorted_eq_iff (keyed : Keyed j) (keyed' : Keyed j') :
    sorted j = sorted j' ↔ Same j j' := by
  induction j using Json.induction generalizing j' with
  | null | bool _ | int _ | float _ | str _ =>
      constructor
      · intro same
        cases j' with
        | list ys =>
            rw [sorted_list] at same
            cases same
        | dict fs =>
            rw [sorted_dict] at same
            cases same
        | _ => cases same <;> constructor
      · intro same
        cases same
        rfl
  | list xs each =>
      cases keyed with
      | list inner =>
          cases keyed' with
          | list inner' =>
              exact sorted_list_iff fun x mem y mem' => each x mem (inner x mem) (inner' y mem')
          | bool b => exact sorted_apart (by cases b <;> exact fun kinds => nomatch kinds)
          | _ => exact sorted_apart fun kinds => nomatch kinds
  | dict es each =>
      cases keyed with
      | dict once inner =>
          cases keyed' with
          | dict once' inner' =>
              exact sorted_dict_iff once once' fun e mem f mem' =>
                each e mem (inner e mem) (inner' f mem')
          | bool b => exact sorted_apart (by cases b <;> exact fun kinds => nomatch kinds)
          | _ => exact sorted_apart fun kinds => nomatch kinds

/-- With sorted keys, two documents are printed alike exactly when they are the same. -/
theorem dumps_sorted_eq_iff (keyed : Keyed j) (keyed' : Keyed j') :
    dumps true j = dumps true j' ↔ Same j j' := by
  rw [dumps_sorted, dumps_sorted, ← sorted_eq_iff keyed keyed']
  exact ⟨dumps_inj, congrArg (dumps false)⟩

end Json
end KuWarden
