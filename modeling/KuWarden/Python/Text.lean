import KuWarden.Python.Unicode
import Mathlib.Algebra.Group.Nat.Defs

/-!
The string operations the engine uses, on `String` through its list of characters.
-/
namespace KuWarden.Text

/-- The characters of a list are gone through, not all that there are. -/
instance decideEach {p : Char → Prop} [DecidablePred p] (cs : List Char) :
    Decidable (∀ c ∈ cs, p c) :=
  List.decidableBAll p cs

def take (n : Nat) (s : String) : String := String.ofList (s.toList.take n)

/-- `s[-n:]`. -/
def takeEnd (n : Nat) (s : String) : String :=
  String.ofList (s.toList.drop (s.length - n))

def join (sep : String) : List String → String
  | [] => ""
  | [s] => s
  | s :: rest => s ++ sep ++ join sep rest

/-- The characters `str.strip` and `str.split` treat as white space. -/
def isSpace (c : Char) : Bool :=
  let n := c.toNat
  (9 ≤ n && n ≤ 13) || (28 ≤ n && n ≤ 32) || n == 0x85 || n == 0xa0 || n == 0x1680 ||
    (0x2000 ≤ n && n ≤ 0x200a) || n == 0x2028 || n == 0x2029 || n == 0x202f ||
    n == 0x205f || n == 0x3000

def strip (s : String) : String :=
  String.ofList ((s.toList.dropWhile isSpace).reverse.dropWhile isSpace).reverse

/-- The characters of `s.rstrip()`. -/
def rstrip (cs : List Char) : List Char := (cs.reverse.dropWhile isSpace).reverse

def lower (s : String) : String := String.ofList (Unicode.lowerAfter [] s.toList)

def casefold (s : String) : String := String.ofList (s.toList.flatMap Unicode.fold)

/-- `cs.split(sep)` for a single character; the pieces between the separators. -/
def splitChars (sep : Char) : List Char → List (List Char)
  | [] => [[]]
  | c :: cs =>
      if c = sep then [] :: splitChars sep cs
      else
        match splitChars sep cs with
        | [] => [[c]]
        | piece :: rest => (c :: piece) :: rest

/-- The characters at which `str.splitlines` ends a line, besides `\r\n`. -/
def isLineBreak (c : Char) : Bool :=
  let n := c.toNat
  (10 ≤ n && n ≤ 13) || (28 ≤ n && n ≤ 30) || n == 0x85 || n == 0x2028 || n == 0x2029

/-- `cs.splitlines()`: a break ends a line, so a final one opens no empty line. -/
def splitLines : List Char → List (List Char)
  | [] => []
  | '\r' :: '\n' :: cs => [] :: splitLines cs
  | c :: cs =>
      if isLineBreak c then [] :: splitLines cs
      else
        match splitLines cs with
        | [] => [[c]]
        | line :: rest => (c :: line) :: rest

/-- Whether `needle` occurs in `s`, for `needle in s`. -/
def occurs (needle s : String) : Bool :=
  s.toList.tails.any fun tail => needle.toList.isPrefixOf tail

def startsWith (needle s : String) : Bool := needle.toList.isPrefixOf s.toList

def hexDigit (n : Nat) : Char :=
  if n < 10 then Char.ofNat (48 + n) else Char.ofNat (87 + n)

/-- The last `width` hexadecimal digits of `n`. -/
def hex : Nat → Nat → List Char
  | 0, _ => []
  | width + 1, n => hex width (n / 16) ++ [hexDigit (n % 16)]

def escape (quote c : Char) : List Char :=
  let n := c.toNat
  if c = '\\' then ['\\', '\\']
  else if c = quote then ['\\', c]
  else if c = '\n' then ['\\', 'n']
  else if c = '\r' then ['\\', 'r']
  else if c = '\t' then ['\\', 't']
  else if Unicode.printable c then [c]
  else if n < 0x100 then ['\\', 'x'] ++ hex 2 n
  else if n < 0x10000 then ['\\', 'u'] ++ hex 4 n
  else ['\\', 'U'] ++ hex 8 n

/-- What `repr` puts around these: single quotes, unless one is among them and no double quote. -/
def quotes (cs : List Char) : Char := if cs.contains '\'' && !cs.contains '"' then '"' else '\''

def repr (s : String) : String :=
  let quote := quotes s.toList
  String.ofList (quote :: s.toList.flatMap (escape quote) ++ [quote])

/-- `s.splitlines()`, counted. -/
def lineCount (s : String) : Nat := (splitLines s.toList).length

def jsonEscape (c : Char) : List Char :=
  let n := c.toNat
  if c = '"' ∨ c = '\\' then ['\\', c]
  else if c = '\n' then ['\\', 'n']
  else if c = '\r' then ['\\', 'r']
  else if c = '\t' then ['\\', 't']
  else if n = 8 then ['\\', 'b']
  else if n = 12 then ['\\', 'f']
  else if 32 ≤ n ∧ n < 127 then [c]
  else if n < 0x10000 then ['\\', 'u'] ++ hex 4 n
  else ['\\', 'u'] ++ hex 4 (0xd800 + (n - 0x10000) / 1024) ++
    ['\\', 'u'] ++ hex 4 (0xdc00 + (n - 0x10000) % 1024)

/-- `json.dumps(s)`. -/
def json (s : String) : String := String.ofList ('"' :: s.toList.flatMap jsonEscape ++ ['"'])

/-- `f"{n}"`, of a number that is not too long to be written out. -/
def ofInt (n : Int) : String := toString n

/-- `sys.get_int_max_str_digits()`. -/
def maxStrDigits : Nat := 4300

/-- Whether a number can be written out. -/
def writable (n : Int) : Bool := (Nat.toDigits 10 n.natAbs).length ≤ maxStrDigits

def ofNat (n : Nat) : String := toString n

/-- What follows the last `c` of a text is as much of it as what precedes. -/
theorem append_cons_inj {α : Type} {c : α} {xs xs' ys ys' : List α} (last : c ∉ ys)
    (last' : c ∉ ys') (same : xs ++ c :: ys = xs' ++ c :: ys') : xs = xs' ∧ ys = ys' := by
  have closer : ∀ {xs ys xs' ys' : List α}, c ∉ ys →
      ∀ as, xs' = xs ++ as → c :: ys = as ++ c :: ys' → xs = xs' ∧ ys = ys' := by
    intro xs ys xs' ys' last as grown rest
    cases as with
    | nil => exact ⟨by simp [grown], (List.cons.inj rest).2⟩
    | cons x as =>
        have mem : c ∈ ys := by simp [(List.cons.inj rest).2]
        exact absurd mem last
  rcases List.append_eq_append_iff.mp same with ⟨as, grown, rest⟩ | ⟨as, grown, rest⟩
  · exact closer last as grown rest
  · obtain ⟨eq, eq'⟩ := closer last' as grown rest
    exact ⟨eq.symm, eq'.symm⟩

theorem toList_ofNat (n : Nat) : (ofNat n).toList = Nat.toDigits 10 n := Nat.toList_repr

theorem isDigit_ofNat {n : Nat} {c : Char} (mem : c ∈ (ofNat n).toList) : c.isDigit = true := by
  rw [toList_ofNat] at mem
  exact Nat.isDigit_of_mem_toDigits (by decide) (by decide) mem

theorem ofNat_inj {m n : Nat} (same : (ofNat m).toList = (ofNat n).toList) : m = n := by
  rw [toList_ofNat, toList_ofNat] at same
  rw [← Nat.ofDigitChars_ten_toDigits (n := m), same, Nat.ofDigitChars_ten_toDigits]

theorem toList_ofInt_negSucc (n : Nat) :
    (ofInt (.negSucc n)).toList = '-' :: (ofNat (n + 1)).toList :=
  String.toList_append ..

theorem mem_ofInt {n : Int} {c : Char} (mem : c ∈ (ofInt n).toList) :
    c = '-' ∨ c.isDigit = true := by
  cases n with
  | ofNat n => exact .inr (isDigit_ofNat mem)
  | negSucc n =>
      rw [toList_ofInt_negSucc] at mem
      rcases List.mem_cons.mp mem with rfl | mem
      · exact .inl rfl
      · exact .inr (isDigit_ofNat mem)

theorem ofNat_ne_minus {n : Nat} {cs : List Char} : (ofNat n).toList ≠ '-' :: cs := by
  intro same
  have mem : '-' ∈ (ofNat n).toList := by rw [same]; exact List.mem_cons_self
  exact absurd (isDigit_ofNat mem) (by decide)

theorem ofInt_inj {m n : Int} (same : (ofInt m).toList = (ofInt n).toList) : m = n := by
  cases m with
  | ofNat m =>
      cases n with
      | ofNat n => exact congrArg Int.ofNat (ofNat_inj same)
      | negSucc n =>
          rw [toList_ofInt_negSucc] at same
          exact absurd same ofNat_ne_minus
  | negSucc m =>
      cases n with
      | ofNat n =>
          rw [toList_ofInt_negSucc] at same
          exact absurd same.symm ofNat_ne_minus
      | negSucc n =>
          rw [toList_ofInt_negSucc, toList_ofInt_negSucc] at same
          have numbers : m + 1 = n + 1 := ofNat_inj (List.cons.inj same).2
          rw [Nat.succ.inj numbers]

/-! ## Digits -/

theorem length_hex (width n : Nat) : (hex width n).length = width := by
  induction width generalizing n with
  | zero => rfl
  | succ width ih => simp [hex, ih]

theorem mem_hex {width n : Nat} {c : Char} (mem : c ∈ hex width n) :
    ∃ k < 16, c = hexDigit k := by
  induction width generalizing n with
  | zero => cases mem
  | succ width ih =>
      rcases List.mem_append.mp mem with mem | mem
      · exact ih mem
      · exact ⟨n % 16, Nat.mod_lt _ (by decide), List.mem_singleton.mp mem⟩

theorem hexDigit_inj {m n : Nat} (small : m < 16) (small' : n < 16)
    (same : hexDigit m = hexDigit n) : m = n := by
  have all : ∀ i j : Fin 16, hexDigit i.val = hexDigit j.val → i = j := by decide
  exact congrArg Fin.val (all ⟨m, small⟩ ⟨n, small'⟩ same)

theorem hex_inj {width m n : Nat} (small : m < 16 ^ width) (small' : n < 16 ^ width)
    (same : hex width m = hex width n) : m = n := by
  induction width generalizing m n with
  | zero => omega
  | succ width ih =>
      obtain ⟨front, last⟩ := List.append_inj' same rfl
      have digit := hexDigit_inj (Nat.mod_lt m (by decide)) (Nat.mod_lt n (by decide))
        (List.cons.inj last).1
      have rest : m / 16 = n / 16 :=
        ih (by rw [Nat.pow_succ] at small; omega) (by rw [Nat.pow_succ] at small'; omega) front
      omega

/-! ## Printable texts -/

/-- `s.isprintable()`. -/
def isprintable (s : String) : Bool := s.toList.all Unicode.printable

theorem isprintable_append {s t : String} :
    isprintable (s ++ t) = true ↔ isprintable s = true ∧ isprintable t = true := by
  simp [isprintable, String.toList_append]

theorem printable_hexDigit {n : Nat} (small : n < 16) : Unicode.printable (hexDigit n) = true := by
  revert n
  decide

theorem printable_hex {width n : Nat} {c : Char} (mem : c ∈ hex width n) :
    Unicode.printable c = true := by
  obtain ⟨k, small, rfl⟩ := mem_hex mem
  exact printable_hexDigit small

theorem printable_escape {quote c d : Char} (quoted : Unicode.printable quote = true)
    (mem : d ∈ escape quote c) : Unicode.printable d = true := by
  have pair : ∀ {a b : Char}, Unicode.printable a = true → Unicode.printable b = true →
      d ∈ [a, b] → Unicode.printable d = true := by
    intro a b first second mem
    rcases List.mem_pair.mp mem with rfl | rfl
    · exact first
    · exact second
  have coded : ∀ {a : Char} {width n : Nat}, Unicode.printable a = true →
      d ∈ ['\\', a] ++ hex width n → Unicode.printable d = true := by
    intro a width n letter mem
    rcases List.mem_append.mp mem with mem | mem
    · exact pair (by decide) letter mem
    · exact printable_hex mem
  unfold escape at mem
  dsimp only at mem
  split_ifs at mem with _ same _ _ _ as_it_is
  · exact pair (by decide) (by decide) mem
  · exact pair (by decide) (same ▸ quoted) mem
  · exact pair (by decide) (by decide) mem
  · exact pair (by decide) (by decide) mem
  · exact pair (by decide) (by decide) mem
  · exact List.mem_singleton.mp mem ▸ as_it_is
  all_goals exact coded (by decide) mem

/-- What is quoted is printable, whatever it is. -/
theorem isprintable_repr (s : String) : isprintable (repr s) = true := by
  have quoted : Unicode.printable (quotes s.toList) = true := by
    unfold quotes
    split <;> decide
  refine List.all_eq_true.mpr fun c mem => ?_
  rw [repr, String.toList_ofList] at mem
  rcases List.mem_append.mp mem with mem | last
  · rcases List.mem_cons.mp mem with rfl | mem
    · exact quoted
    · obtain ⟨d, -, mem⟩ := List.mem_flatMap.mp mem
      exact printable_escape quoted mem
  · exact List.mem_singleton.mp last ▸ quoted

theorem isprintable_ofInt (n : Int) : isprintable (ofInt n) = true := by
  refine List.all_eq_true.mpr fun c mem => ?_
  rcases mem_ofInt mem with rfl | digit
  · decide
  · exact Unicode.printable_of_isDigit digit

/-! ## Splitting what was joined -/

theorem splitChars_free {sep : Char} {piece : List Char} (free : sep ∉ piece) :
    splitChars sep piece = [piece] := by
  induction piece with
  | nil => rfl
  | cons c cs ih =>
      have other : c ≠ sep := fun same => free (same ▸ List.mem_cons_self)
      have rest := ih fun mem => free (List.mem_cons_of_mem c mem)
      simp [splitChars, other, rest]

theorem splitChars_append {sep : Char} {piece rest : List Char} (free : sep ∉ piece) :
    splitChars sep (piece ++ sep :: rest) = piece :: splitChars sep rest := by
  induction piece with
  | nil => simp [splitChars]
  | cons c cs ih =>
      have other : c ≠ sep := fun same => free (same ▸ List.mem_cons_self)
      have rest := ih fun mem => free (List.mem_cons_of_mem c mem)
      simp [splitChars, other, rest]

theorem splitChars_join {sep : String} {c : Char} (single : sep.toList = [c]) :
    ∀ {pieces : List String}, pieces ≠ [] → (∀ piece ∈ pieces, c ∉ piece.toList) →
      splitChars c (join sep pieces).toList = pieces.map String.toList
  | [], there, _ => absurd rfl there
  | [piece], _, free => splitChars_free (free piece List.mem_cons_self)
  | piece :: next :: rest, _, free => by
      have later := splitChars_join single (List.cons_ne_nil next rest) fun other mem =>
        free other (List.mem_cons_of_mem piece mem)
      have text : (join sep (piece :: next :: rest)).toList =
          piece.toList ++ c :: (join sep (next :: rest)).toList := by
        simp [join, single]
      rw [text, splitChars_append (free piece List.mem_cons_self), later]
      rfl

/-- Only the empty list and the list of one empty text are joined to the same text. -/
theorem join_inj {sep : String} {c : Char} (single : sep.toList = [c])
    {pieces pieces' : List String} (free : ∀ piece ∈ pieces, c ∉ piece.toList)
    (free' : ∀ piece ∈ pieces', c ∉ piece.toList) (filled : pieces ≠ [""])
    (filled' : pieces' ≠ [""]) (same : join sep pieces = join sep pieces') :
    pieces = pieces' := by
  have text : Function.Injective (List.map String.toList) :=
    List.map_injective_iff.mpr fun _ _ => String.toList_inj.mp
  have none_empty : ∀ {pieces : List String}, (∀ piece ∈ pieces, c ∉ piece.toList) →
      pieces ≠ [""] → join sep pieces = "" → pieces = [] := by
    intro pieces free filled empty
    by_contra there
    have split := splitChars_join single there free
    rw [empty] at split
    exact filled (text split.symm)
  by_cases empty : pieces = []
  · rw [empty] at same ⊢
    exact (none_empty free' filled' same.symm).symm
  · by_cases empty' : pieces' = []
    · rw [empty'] at same ⊢
      exact none_empty free filled same
    · have split := splitChars_join single empty free
      rw [same, splitChars_join single empty' free'] at split
      exact text split.symm

/-! ## Last letters -/

/-- Texts that end in different letters are different. -/
theorem ne_of_getLast? {s t : String} (differ : s.toList.getLast? ≠ t.toList.getLast?) :
    s ≠ t := by
  rintro rfl
  exact differ rfl

theorem getLast?_append {s t : String} {c : Char} (last : t.toList.getLast? = some c) :
    (s ++ t).toList.getLast? = some c := by
  rw [String.toList_append, List.getLast?_append, last, Option.some_or]

end KuWarden.Text
