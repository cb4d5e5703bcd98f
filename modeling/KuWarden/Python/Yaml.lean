import KuWarden.Python.Lines
import KuWarden.Python.Value
import Mathlib.Data.List.TakeWhile

/-!
What a YAML loader makes of block mappings.

The loader is a parameter of what reads a configuration. An edit of its text by lines rests on
a few rules of block mappings; `load` reads mappings that are nested by their indentation, and
obeys them.
-/
namespace KuWarden.Yaml

open Lines

/-- A character of which neither a line nor the stream ends. -/
def inline (c : Char) : Bool :=
  (' ' ≤ c && c ≤ '~') || ('\u00a0' ≤ c && c ≤ '\ud7ff' && c != '\u2028' && c != '\u2029')

def white (c : Char) : Bool := c = ' ' || c = '\t'

def blank (line : List Char) : Bool := line.all white

def comment (line : List Char) : Bool := (line.dropWhile white).head? = some '#'

def indented (line : List Char) : Bool := line.head?.any white

/-- Words that are read as something else than a string. -/
def reserved : List (List Char) := [
  ['y'], ['n'], ['o', 'n'], ['o', 'f', 'f'], ['y', 'e', 's'], ['n', 'o'],
  ['t', 'r', 'u', 'e'], ['f', 'a', 'l', 's', 'e'], ['n', 'u', 'l', 'l']]

/-- A plain scalar that is read as a string, and is short enough for a key. -/
def word (cs : List Char) : Bool :=
  cs != [] && cs.length < 128 && cs.all (fun c => c = '_' || ('a' ≤ c && c ≤ 'z')) &&
    !reserved.contains cs

/-- What follows on a block opens no line of it: comments apart, it is not indented. -/
def resumes (back : List (List Char)) : Bool :=
  (back.find? fun line => !(blank line || comment line)).all fun line => !indented line

/-- A text at whose end a line begins. -/
def Closed (cs : List Char) : Prop := ∀ c ∈ cs.getLast?, c = '\n'

/-- The entries of a text that is a mapping, or nothing at all. -/
def entries? : Except String Value → Option Dict
  | .ok (.dict entries) => some entries
  | .ok .null => some []
  | _ => none

def indent (line : List Char) : List Char := ' ' :: ' ' :: line

def keyLine (key : List Char) : List Char := key ++ [':']

def settingLine (setting : List Char × Bool) : List Char :=
  setting.1 ++ (if setting.2 then ": true" else ": false").toList

/-- The rules of block mappings that an edit by lines depends on. -/
structure Rules (safeLoad : String → Except String Value) : Prop where
  /-- Line feeds at the end are no part of the structure. -/
  trails : ∀ {text : List Char} {entries : Dict} (m n : Nat), text.getLast? ≠ some '\n' →
    safeLoad (String.ofList (text ++ List.replicate m '\n')) = .ok (.dict entries) →
    ∃ entries', safeLoad (String.ofList (text ++ List.replicate n '\n')) = .ok (.dict entries')
  /-- Lines of a word and a truth value each. -/
  settings : ∀ {settings : List (List Char × Bool)}, settings ≠ [] →
    (∀ setting ∈ settings, word setting.1) → (settings.map Prod.fst).Nodup →
    safeLoad (String.ofList (unlines (settings.map settingLine))) =
      .ok (.dict (settings.map fun setting => (.str (String.ofList setting.1), .bool setting.2)))
  /-- A mapping that is indented under a key is its value. -/
  nests : ∀ {key : List Char} {comments lines : List (List Char)} {entries : Dict}, word key →
    (∀ line ∈ comments, comment line ∧ line.all inline) →
    (∀ line ∈ lines, (line.head?.any fun c => c = ' ' || c = '_' || ('a' ≤ c && c ≤ 'z')) ∧
      line.all inline) →
    safeLoad (String.ofList (unlines lines)) = .ok (.dict entries) →
    safeLoad (String.ofList (unlines (keyLine key :: comments ++ lines.map indent))) =
      .ok (.dict [(.str (String.ofList key), .dict entries)])
  /-- A block whose key is in no line below it is an entry of the mapping around it. -/
  joins : ∀ {front key : List Char} {lines back : List (List Char)} {inner rest doc : Dict},
    Closed front → word key → (∀ line ∈ lines ++ back, ∀ c ∈ line, Text.isLineBreak c = false) →
    safeLoad (String.ofList (unlines (keyLine key :: lines))) =
      .ok (.dict [(.str (String.ofList key), .dict inner)]) →
    (entries? (safeLoad (String.ofList front))).isSome →
    entries? (safeLoad (String.ofList (front ++ unlines back))) = some rest →
    resumes back → (back = [] ∨ rest.get? (String.ofList key) = none) →
    safeLoad (String.ofList (front ++ unlines (keyLine key :: lines ++ back))) = .ok (.dict doc) →
    doc.get? (String.ofList key) = some (.dict inner)

theorem closed_unlines (lines : List (List Char)) : Closed (unlines lines) := by
  rcases List.eq_nil_or_concat' lines with rfl | ⟨front, last, rfl⟩
  · rintro c ⟨⟩
  · intro c ends
    rw [unlines_append, show unlines [last] = last ++ ['\n'] from List.flatMap_singleton ..,
      ← List.append_assoc, List.getLast?_concat] at ends
    exact (Option.some.inj ends).symm

/-- A text is what is left of it and the line feeds that end it. -/
theorem exists_trail (cs : List Char) : ∃ kept m,
    (cs.reverse.dropWhile (· = '\n')).reverse = kept ∧ cs = kept ++ List.replicate m '\n' ∧
      kept.getLast? ≠ some '\n' := by
  have feeds : cs.reverse.takeWhile (· = '\n') =
      List.replicate (cs.reverse.takeWhile (· = '\n')).length '\n' :=
    List.eq_replicate_of_mem fun c mem => by simpa using List.mem_takeWhile_imp mem
  refine ⟨_, (cs.reverse.takeWhile (· = '\n')).length, rfl, ?_, ?_⟩
  · rw [← List.reverse_replicate, ← feeds, ← List.reverse_append, List.takeWhile_append_dropWhile,
      List.reverse_reverse]
  · rw [List.getLast?_reverse]
    intro ends
    have := List.head?_dropWhile_not (· = '\n') cs.reverse
    simp [ends] at this

/-! ## A loader of nested mappings -/

/-- A line that opens an entry, whose value is its scalar or what is indented below it. -/
structure Line where
  indent : Nat
  key : List Char
  scalar : List Char

def readLine (cs : List Char) : Option Line :=
  let body := cs.dropWhile (· = ' ')
  let key := body.takeWhile (· ≠ ':')
  match body.dropWhile (· ≠ ':') with
  | _ :: rest =>
      if word key && rest.head?.all white then
        some ⟨(cs.takeWhile (· = ' ')).length, key, rest.dropWhile white⟩
      else none
  | [] => none

structure Entry where
  indent : Nat
  key : List Char
  value : Value

def Entry.pair (entry : Entry) : Value × Value := (.str (String.ofList entry.key), entry.value)

/-- The value that entries of one indentation make; their keys have to differ. -/
def mapping : List Entry → Option Value
  | [] => some .null
  | first :: rest =>
      if (∀ entry ∈ rest, entry.indent = first.indent) ∧
          ((first :: rest).map Entry.key).Nodup then
        some (.dict ((first :: rest).map Entry.pair))
      else none

section
variable (scalar : List Char → Option Value)

/-- The entries from a line on: those below that are indented further are its value. -/
def Line.place (line : Line) (below : List Entry) : Option (List Entry) :=
  if line.scalar = [] then
    (mapping (below.takeWhile (line.indent < ·.indent))).map fun value =>
      ⟨line.indent, line.key, value⟩ :: below.dropWhile (line.indent < ·.indent)
  else (scalar line.scalar).map fun value => ⟨line.indent, line.key, value⟩ :: below

def entries : List (List Char) → Option (List Entry)
  | [] => some []
  | line :: rest =>
      if blank line || comment line then entries rest
      else (entries rest).bind fun below => (readLine line).bind fun l => l.place scalar below

def load (yaml : String) : Except String Value :=
  match (entries scalar (Text.splitLines yaml.toList)).bind mapping with
  | some value => .ok value
  | none => .error "not a block mapping"

end

variable {scalar : List Char → Option Value}

theorem load_eq_ok {cs : List Char} {value : Value} :
    load scalar (String.ofList cs) = .ok value ↔
      ∃ es, entries scalar (Text.splitLines cs) = some es ∧ mapping es = some value := by
  rw [load, String.toList_ofList]
  cases read : (entries scalar (Text.splitLines cs)).bind mapping with
  | none =>
      refine ⟨fun same => (by cases same), fun ⟨es, found, made⟩ => ?_⟩
      rw [found, Option.bind_some, made] at read
      cases read
  | some value' =>
      obtain ⟨es, found, made⟩ := Option.bind_eq_some_iff.mp read
      constructor
      · intro same
        cases same
        exact ⟨es, found, made⟩
      · rintro ⟨es', found', made'⟩
        cases found.symm.trans found'
        cases made.symm.trans made'
        rfl

theorem mapping_eq_dict {es : List Entry} {d : Dict} (made : mapping es = some (.dict d)) :
    d = es.map Entry.pair ∧ (es.map Entry.key).Nodup := by
  cases es with
  | nil => cases made
  | cons first rest =>
      dsimp only [mapping] at made
      split_ifs at made with whole
      cases made
      exact ⟨rfl, whole.2⟩

theorem get?_pair {es : List Entry} (distinct : (es.map Entry.key).Nodup) {entry : Entry}
    (mem : entry ∈ es) :
    Dict.get? (es.map Entry.pair) (String.ofList entry.key) = some entry.value := by
  induction es with
  | nil => cases mem
  | cons first rest ih =>
      obtain ⟨fresh, distinct⟩ := List.nodup_cons.mp distinct
      rcases List.mem_cons.mp mem with rfl | mem
      · simp [Dict.get?, Entry.pair, Value.isStr]
      · have other : first.key ≠ entry.key := fun same =>
          fresh (same ▸ List.mem_map_of_mem mem)
        have later := ih distinct mem
        simpa [Dict.get?, Entry.pair, Value.isStr, String.ofList_inj, other] using later

/-! ### Lines one after another -/

/-- The first of the entries from a line on is the one that the line opens. -/
theorem Line.head_place {line : Line} {below es : List Entry}
    (placed : line.place scalar below = some es) : ∀ e ∈ es.head?, e.indent = line.indent := by
  unfold place at placed
  split_ifs at placed
  all_goals
    obtain ⟨value, -, rfl⟩ := Option.map_eq_some_iff.mp placed
    rintro e ⟨⟩
    rfl

/-- Entries that are not indented close those above them. -/
theorem Line.place_append {line : Line} {es below : List Entry}
    (level : ∀ e ∈ below.head?, e.indent = 0) :
    line.place scalar (es ++ below) = (line.place scalar es).map (· ++ below) := by
  have stops : below.takeWhile (line.indent < ·.indent) = [] ∧
      below.dropWhile (line.indent < ·.indent) = below := by
    cases below with
    | nil => exact ⟨rfl, rfl⟩
    | cons first rest =>
        have outermost : ¬ line.indent < first.indent := by
          rw [level first rfl]
          exact Nat.not_lt_zero _
        exact ⟨List.takeWhile_cons_of_neg (by simpa using outermost),
          List.dropWhile_cons_of_neg (by simpa using outermost)⟩
  have taken : (es ++ below).takeWhile (line.indent < ·.indent) =
      es.takeWhile (line.indent < ·.indent) := by
    rw [List.takeWhile_append]
    split_ifs with all
    · rw [stops.1, List.append_nil, (List.takeWhile_prefix _).eq_of_length all]
    · rfl
  have dropped : (es ++ below).dropWhile (line.indent < ·.indent) =
      es.dropWhile (line.indent < ·.indent) ++ below := by
    rw [List.dropWhile_append]
    split_ifs with all
    · rw [stops.2, List.isEmpty_iff.mp all]
      rfl
    · rfl
  unfold place
  rw [taken, dropped]
  split_ifs
  · simp [Option.map_map, Function.comp_def]
  · simp [Option.map_map, Function.comp_def]

theorem entries_append {front back : List (List Char)} {es below : List Entry}
    (above : entries scalar front = some es) (read : entries scalar back = some below)
    (level : ∀ e ∈ below.head?, e.indent = 0) :
    entries scalar (front ++ back) = some (es ++ below) := by
  induction front generalizing es with
  | nil =>
      cases above
      exact read
  | cons line rest ih =>
      rw [entries] at above
      rw [List.cons_append, entries]
      split_ifs at above ⊢
      · exact ih above
      · obtain ⟨es', above, placed⟩ := Option.bind_eq_some_iff.mp above
        obtain ⟨l, opened, placed⟩ := Option.bind_eq_some_iff.mp placed
        rw [ih above, Option.bind_some, opened, Option.bind_some, Line.place_append level, placed]
        rfl

theorem entries_of_append {front back : List (List Char)} {es : List Entry}
    (read : entries scalar (front ++ back) = some es) :
    ∃ below, entries scalar back = some below := by
  induction front generalizing es with
  | nil => exact ⟨es, read⟩
  | cons line rest ih =>
      rw [List.cons_append, entries] at read
      split_ifs at read
      · exact ih read
      · obtain ⟨es', read, -⟩ := Option.bind_eq_some_iff.mp read
        exact ih read

theorem entries_concat_nil (lines : List (List Char)) :
    entries scalar (lines ++ [[]]) = entries scalar lines := by
  induction lines with
  | nil => rfl
  | cons line rest ih => rw [List.cons_append, entries, entries, ih]

theorem entries_trail (cs : List Char) (n : Nat) :
    entries scalar (Text.splitLines (cs ++ List.replicate n '\n')) =
      entries scalar (Text.splitLines cs) := by
  induction n with
  | zero => rw [List.replicate_zero, List.append_nil]
  | succ n ih =>
      rw [List.replicate_succ', ← List.append_assoc]
      rcases Lines.splitLines_concat (cs ++ List.replicate n '\n') with same | more
      · rw [same, ih]
      · rw [more, entries_concat_nil, ih]

theorem indent_of_not_indented {line : List Char} {l : Line} (opened : readLine line = some l)
    (outer : indented line = false) : l.indent = 0 := by
  have unspaced : line.takeWhile (· = ' ') = [] := by
    cases line with
    | nil => rfl
    | cons c cs =>
        refine List.takeWhile_cons_of_neg fun space => ?_
        simp only [decide_eq_true_eq] at space
        subst space
        cases outer
  unfold readLine at opened
  dsimp only at opened
  split at opened
  · split_ifs at opened
    cases opened
    rw [unspaced]
    rfl
  · cases opened

theorem level_of_resumes {back : List (List Char)} {below : List Entry}
    (read : entries scalar back = some below) (resumed : resumes back) :
    ∀ e ∈ below.head?, e.indent = 0 := by
  induction back with
  | nil =>
      cases read
      rintro e ⟨⟩
  | cons line rest ih =>
      rw [entries] at read
      split_ifs at read with skipped
      · refine ih read ?_
        unfold resumes at resumed ⊢
        rwa [List.find?_cons_of_neg (by simp [skipped])] at resumed
      · have outer : indented line = false := by
          unfold resumes at resumed
          rw [List.find?_cons_of_pos (by simp [skipped])] at resumed
          simpa using resumed
        obtain ⟨es', -, placed⟩ := Option.bind_eq_some_iff.mp read
        obtain ⟨l, opened, placed⟩ := Option.bind_eq_some_iff.mp placed
        intro e first
        rw [Line.head_place placed e first, indent_of_not_indented opened outer]

/-! ### Lines that are indented -/

def Line.shift (line : Line) : Line := { line with indent := line.indent + 2 }

def Entry.shift (entry : Entry) : Entry := { entry with indent := entry.indent + 2 }

theorem readLine_indent (line : List Char) :
    readLine (indent line) = (readLine line).map Line.shift := by
  have body : (indent line).dropWhile (· = ' ') = line.dropWhile (· = ' ') := rfl
  have width : ((indent line).takeWhile (· = ' ')).length =
      (line.takeWhile (· = ' ')).length + 2 := rfl
  unfold readLine
  rw [body, width]
  dsimp only
  split
  · split_ifs <;> rfl
  · rfl

theorem mapping_shift (es : List Entry) : mapping (es.map Entry.shift) = mapping es := by
  cases es with
  | nil => rfl
  | cons first rest =>
      have same : (∀ entry ∈ rest.map Entry.shift, entry.indent = first.shift.indent) ↔
          ∀ entry ∈ rest, entry.indent = first.indent := by
        simp [Entry.shift]
      have keys : (first.shift :: rest.map Entry.shift).map Entry.key =
          (first :: rest).map Entry.key := by
        simp [Entry.shift]
      have pairs : (first.shift :: rest.map Entry.shift).map Entry.pair =
          (first :: rest).map Entry.pair := by
        simp [Entry.shift, Entry.pair]
      rw [List.map_cons, mapping.eq_2, mapping.eq_2, keys, pairs]
      simp only [same]

theorem Line.place_shift (line : Line) (below : List Entry) :
    line.shift.place scalar (below.map Entry.shift) =
      (line.place scalar below).map (List.map Entry.shift) := by
  have deeper : (fun e : Entry => decide (line.shift.indent < e.indent)) ∘ Entry.shift =
      fun e => decide (line.indent < e.indent) := by
    funext e
    simp [Line.shift, Entry.shift]
  unfold place
  rw [List.takeWhile_map, List.dropWhile_map, deeper, mapping_shift]
  split_ifs with bare bare' bare'
  · simp [Option.map_map, Function.comp_def, Entry.shift, Line.shift]
  · exact absurd bare bare'
  · exact absurd bare' bare
  · simp [Option.map_map, Function.comp_def, Entry.shift, Line.shift]

theorem entries_indent (lines : List (List Char)) :
    entries scalar (lines.map indent) = (entries scalar lines).map (List.map Entry.shift) := by
  induction lines with
  | nil => rfl
  | cons line rest ih =>
      have skipped : (blank (indent line) || comment (indent line)) =
          (blank line || comment line) := rfl
      rw [List.map_cons, entries, entries, skipped, ih, readLine_indent]
      split_ifs
      · rfl
      · cases entries scalar rest with
        | none => rfl
        | some below =>
            cases readLine line with
            | none => rfl
            | some l => exact l.place_shift below

/-! ### The rules -/

theorem word_plain {key : List Char} (plain : word key = true) :
    ∀ c ∈ key, c = '_' ∨ ('a' ≤ c ∧ c ≤ 'z') := by
  simp only [word, Bool.and_eq_true, List.all_eq_true, Bool.or_eq_true, decide_eq_true_eq] at plain
  exact plain.1.2

theorem whole_of_inline {line : List Char} (plain : line.all inline) :
    ∀ c ∈ line, Text.isLineBreak c = false := by
  intro c mem
  have visible : (32 ≤ c.toNat ∧ c.toNat ≤ 126) ∨
      (160 ≤ c.toNat ∧ c.toNat ≠ 0x2028 ∧ c.toNat ≠ 0x2029) := by
    have visible := List.all_eq_true.mp plain c mem
    simp only [inline, Bool.or_eq_true, Bool.and_eq_true, decide_eq_true_eq, bne_iff_ne] at visible
    rcases visible with ⟨low, high⟩ | ⟨⟨⟨low, -⟩, line⟩, paragraph⟩
    · exact .inl ⟨low, high⟩
    · exact .inr ⟨low, fun same => line (Char.toNat_inj.mp same),
        fun same => paragraph (Char.toNat_inj.mp same)⟩
  simp only [Text.isLineBreak, Bool.or_eq_false_iff, Bool.and_eq_false_imp, decide_eq_true_eq,
    decide_eq_false_iff_not, beq_eq_false_iff_ne]
  omega

theorem inline_of_word {key : List Char} (plain : word key = true) : key.all inline := by
  refine List.all_eq_true.mpr fun c mem => ?_
  rcases word_plain plain c mem with rfl | ⟨low, high⟩
  · rfl
  · have visible : ' ' ≤ c ∧ c ≤ '~' :=
      ⟨Char.le_trans (by decide) low, Char.le_trans high (by decide)⟩
    simp [inline, visible]

theorem inline_settingLine {key : List Char} (value : Bool) (plain : word key = true) :
    (settingLine (key, value)).all inline := by
  rw [settingLine, List.all_append, inline_of_word plain]
  cases value <;> simp <;> decide

theorem word_apart {key : List Char} (plain : word key = true) {c : Char} (mem : c ∈ key) :
    c ≠ ' ' ∧ c ≠ ':' ∧ c ≠ '#' ∧ white c = false := by
  have letter : c.toNat = 95 ∨ (97 ≤ c.toNat ∧ c.toNat ≤ 122) := by
    rcases word_plain plain c mem with rfl | ⟨low, high⟩
    · exact .inl rfl
    · exact .inr ⟨low, high⟩
  have other : ∀ x : Char, x.toNat < 95 → c ≠ x := by
    rintro x below rfl
    omega
  refine ⟨other _ (by decide), other _ (by decide), other _ (by decide), ?_⟩
  simp [white, other ' ' (by decide), other '\t' (by decide)]

theorem word_cons {key : List Char} (plain : word key = true) :
    ∃ c cs, key = c :: cs ∧ c ≠ ' ' ∧ c ≠ '#' ∧ white c = false := by
  cases key with
  | nil => cases plain
  | cons c cs =>
      obtain ⟨unspaced, -, open_, dark⟩ := word_apart plain List.mem_cons_self
      exact ⟨c, cs, rfl, unspaced, open_, dark⟩

theorem readLine_word {key rest : List Char} (plain : word key = true)
    (apart : rest.head?.all white) :
    readLine (key ++ ':' :: rest) = some ⟨0, key, rest.dropWhile white⟩ := by
  have uncut : ∀ c ∈ key, decide (c ≠ ':') = true := fun c mem =>
    decide_eq_true (word_apart plain mem).2.1
  obtain ⟨c, cs, rfl, unspaced, -, -⟩ := word_cons plain
  have body : (c :: cs ++ ':' :: rest).dropWhile (· = ' ') = c :: cs ++ ':' :: rest :=
    List.dropWhile_cons_of_neg (by simpa using unspaced)
  have width : (c :: cs ++ ':' :: rest).takeWhile (· = ' ') = [] :=
    List.takeWhile_cons_of_neg (by simpa using unspaced)
  have named : (c :: cs ++ ':' :: rest).takeWhile (· ≠ ':') = c :: cs := by
    rw [List.takeWhile_append_of_pos uncut, List.takeWhile_cons_of_neg (by simp), List.append_nil]
  have after : (c :: cs ++ ':' :: rest).dropWhile (· ≠ ':') = ':' :: rest := by
    rw [List.dropWhile_append_of_pos uncut, List.dropWhile_cons_of_neg (by simp)]
  unfold readLine
  rw [body, width]
  dsimp only
  rw [named, after]
  dsimp only
  rw [plain, apart]
  rfl

theorem entries_word {key rest : List Char} (plain : word key = true)
    (apart : rest.head?.all white) (lines : List (List Char)) :
    entries scalar ((key ++ ':' :: rest) :: lines) =
      (entries scalar lines).bind (Line.place scalar ⟨0, key, rest.dropWhile white⟩) := by
  have opened := readLine_word plain apart
  obtain ⟨c, cs, rfl, -, open_, dark⟩ := word_cons plain
  have there : (blank (c :: cs ++ ':' :: rest) || comment (c :: cs ++ ':' :: rest)) = false := by
    simp [blank, comment, dark, open_]
  rw [entries, there, if_neg Bool.false_ne_true, opened]
  rfl

/-- A key that has no scalar, above lines that are all indented. -/
theorem entries_nest {key : List Char} {comments lines : List (List Char)} {es : List Entry}
    {inner : Value} (plain : word key = true) (skipped : ∀ line ∈ comments, comment line)
    (read : entries scalar lines = some es) (made : mapping es = some inner) :
    entries scalar (keyLine key :: comments ++ lines.map indent) = some [⟨0, key, inner⟩] := by
  have below : entries scalar (comments ++ lines.map indent) = some (es.map Entry.shift) := by
    induction comments with
    | nil => rw [List.nil_append, entries_indent, read, Option.map_some]
    | cons line rest ih =>
        have first : comment line = true := skipped line List.mem_cons_self
        rw [List.cons_append, entries, if_pos (by rw [first, Bool.or_true])]
        exact ih fun line mem => skipped line (List.mem_cons_of_mem _ mem)
  have deeper : ∀ e ∈ es.map Entry.shift, decide (0 < e.indent) = true := by
    intro e mem
    obtain ⟨e', -, rfl⟩ := List.mem_map.mp mem
    exact decide_eq_true (Nat.succ_pos _)
  rw [List.cons_append, keyLine, entries_word plain rfl, below, Option.bind_some]
  show Line.place scalar ⟨0, key, []⟩ _ = _
  rw [Line.place, if_pos rfl]
  dsimp only
  rw [List.takeWhile_eq_self_iff.mpr deeper, List.dropWhile_eq_nil_iff.mpr deeper,
    mapping_shift, made]
  rfl

/-- A line of a word and a truth value. -/
theorem entries_setting (yes : scalar "true".toList = some (.bool true))
    (no : scalar "false".toList = some (.bool false)) {settings : List (List Char × Bool)}
    (plain : ∀ setting ∈ settings, word setting.1) :
    entries scalar (settings.map settingLine) =
      some (settings.map fun setting => ⟨0, setting.1, .bool setting.2⟩) := by
  induction settings with
  | nil => rfl
  | cons setting rest ih =>
      obtain ⟨key, value⟩ := setting
      have named : word key = true := plain _ List.mem_cons_self
      have later := ih fun setting mem => plain setting (List.mem_cons_of_mem _ mem)
      obtain ⟨rest', line, apart, there, read⟩ : ∃ rest', settingLine (key, value) =
          key ++ ':' :: rest' ∧ rest'.head?.all white ∧ rest'.dropWhile white ≠ [] ∧
            scalar (rest'.dropWhile white) = some (.bool value) := by
        cases value with
        | true => exact ⟨" true".toList, by simp [settingLine], rfl, by decide, yes⟩
        | false => exact ⟨" false".toList, by simp [settingLine], rfl, by decide, no⟩
      rw [List.map_cons, line, entries_word named apart, later, Option.bind_some, Line.place,
        if_neg there, read]
      rfl

theorem mapping_settings {settings : List (List Char × Bool)} (nonempty : settings ≠ [])
    (distinct : (settings.map Prod.fst).Nodup) :
    mapping (settings.map fun setting => ⟨0, setting.1, .bool setting.2⟩) =
      some (.dict (settings.map fun setting =>
        (.str (String.ofList setting.1), .bool setting.2))) := by
  obtain ⟨first, rest, rfl⟩ := List.exists_cons_of_ne_nil nonempty
  rw [List.map_cons, mapping.eq_2, if_pos]
  · simp [Entry.pair, Function.comp_def]
  · refine ⟨fun entry mem => ?_, by simpa [Function.comp_def] using distinct⟩
    obtain ⟨setting, -, rfl⟩ := List.mem_map.mp mem
    rfl

theorem entries?_load {cs : List Char} {d : Dict}
    (read : entries? (load scalar (String.ofList cs)) = some d) :
    ∃ es, entries scalar (Text.splitLines cs) = some es := by
  unfold entries? at read
  split at read
  · next same => exact (load_eq_ok.mp same).imp fun _ found => found.1
  · next same => exact (load_eq_ok.mp same).imp fun _ found => found.1
  · cases read

/-- A block that stands below what is read of the lines above it, and closed by those below. -/
theorem get?_joined {key : List Char} {above below es : List Entry} {inner doc : Dict}
    (alone : mapping es = some (.dict [(.str (String.ofList key), .dict inner)]))
    (whole : mapping (above ++ (es ++ below)) = some (.dict doc)) :
    doc.get? (String.ofList key) = some (.dict inner) := by
  obtain ⟨single, -⟩ := mapping_eq_dict alone
  obtain ⟨rfl, distinct⟩ := mapping_eq_dict whole
  obtain ⟨e, rfl, same⟩ := List.map_eq_singleton_iff.mp single.symm
  obtain ⟨named, value⟩ := Prod.mk.inj same
  have found := get?_pair distinct
    (List.mem_append_right above (List.mem_append_left below List.mem_cons_self))
  rwa [value, Value.str.inj named] at found

theorem whole_keyLine {key : List Char} (plain : word key = true) :
    ∀ c ∈ keyLine key, Text.isLineBreak c = false := by
  refine whole_of_inline ?_
  rw [keyLine, List.all_append, inline_of_word plain]
  rfl

theorem load_nests {key : List Char} {comments lines : List (List Char)} {d : Dict}
    (plain : word key = true) (skipped : ∀ line ∈ comments, comment line ∧ line.all inline)
    (shape : ∀ line ∈ lines, (line.head?.any fun c => c = ' ' || c = '_' || ('a' ≤ c && c ≤ 'z')) ∧
      line.all inline)
    (read : load scalar (String.ofList (unlines lines)) = .ok (.dict d)) :
    load scalar (String.ofList (unlines (keyLine key :: comments ++ lines.map indent))) =
      .ok (.dict [(.str (String.ofList key), .dict d)]) := by
  have whole : ∀ line ∈ keyLine key :: comments ++ lines.map indent,
      ∀ c ∈ line, Text.isLineBreak c = false := by
    intro line mem
    rcases List.mem_append.mp mem with mem | mem
    · rcases List.mem_cons.mp mem with rfl | mem
      · exact whole_keyLine plain
      · exact whole_of_inline (skipped line mem).2
    · obtain ⟨line, among, rfl⟩ := List.mem_map.mp mem
      exact whole_of_inline (shape line among).2
  obtain ⟨es, found, made⟩ := load_eq_ok.mp read
  rw [splitLines_unlines fun line mem => whole_of_inline (shape line mem).2] at found
  refine load_eq_ok.mpr ⟨[⟨0, key, .dict d⟩], ?_, rfl⟩
  rw [splitLines_unlines whole,
    entries_nest plain (fun line mem => (skipped line mem).1) found made]

/-- What is read of a block below a key begins at the margin. -/
theorem head_block {key : List Char} {lines : List (List Char)} {es : List Entry}
    (plain : word key = true) (opened : entries scalar (keyLine key :: lines) = some es) :
    ∀ e ∈ es.head?, e.indent = 0 := by
  rw [keyLine, entries_word plain rfl] at opened
  obtain ⟨es', -, placed⟩ := Option.bind_eq_some_iff.mp opened
  cases es with
  | nil => exact fun _ absurd => by cases absurd
  | cons e es => exact Line.head_place placed

theorem load_joins {front key : List Char} {lines back : List (List Char)}
    {inner rest doc : Dict} (ends : Closed front) (plain : word key = true)
    (whole : ∀ line ∈ lines ++ back, ∀ c ∈ line, Text.isLineBreak c = false)
    (section_ : load scalar (String.ofList (unlines (keyLine key :: lines))) =
      .ok (.dict [(.str (String.ofList key), .dict inner)]))
    (above : (entries? (load scalar (String.ofList front))).isSome)
    (joined : entries? (load scalar (String.ofList (front ++ unlines back))) = some rest)
    (resumed : resumes back)
    (read : load scalar (String.ofList (front ++ unlines (keyLine key :: lines ++ back))) =
      .ok (.dict doc)) : doc.get? (String.ofList key) = some (.dict inner) := by
  have lines_whole : ∀ line ∈ keyLine key :: lines, ∀ c ∈ line, Text.isLineBreak c = false := by
    intro line mem
    rcases List.mem_cons.mp mem with rfl | mem
    · exact whole_keyLine plain
    · exact whole line (List.mem_append_left back mem)
  have back_whole := fun line mem => whole line (List.mem_append_right lines mem)
  obtain ⟨d, above⟩ := Option.isSome_iff_exists.mp above
  obtain ⟨above, found⟩ := entries?_load above
  obtain ⟨es, opened, alone⟩ := load_eq_ok.mp section_
  obtain ⟨all, together⟩ := entries?_load joined
  rw [splitLines_of_closed ends, splitLines_unlines back_whole] at together
  obtain ⟨below, after⟩ := entries_of_append together
  have level := level_of_resumes after resumed
  rw [splitLines_unlines lines_whole] at opened
  have first : ∀ e ∈ (es ++ below).head?, e.indent = 0 := by
    have block := head_block plain opened
    cases es with
    | nil => cases alone
    | cons e es => exact block
  obtain ⟨all', parsed, made⟩ := load_eq_ok.mp read
  rw [splitLines_of_closed ends, splitLines_unlines fun line mem => ?_,
    entries_append found (entries_append opened after level) first] at parsed
  · cases parsed
    exact get?_joined alone made
  · rcases List.mem_append.mp mem with mem | mem
    · exact lines_whole line mem
    · exact back_whole line mem

theorem load_rules (yes : scalar "true".toList = some (.bool true))
    (no : scalar "false".toList = some (.bool false)) : Rules (load scalar) where
  trails := by
    intro text d m n _ read
    obtain ⟨es, found, made⟩ := load_eq_ok.mp read
    rw [entries_trail] at found
    exact ⟨d, load_eq_ok.mpr ⟨es, by rw [entries_trail, found], made⟩⟩
  settings := by
    intro settings nonempty plain distinct
    have whole : ∀ line ∈ settings.map settingLine, ∀ c ∈ line, Text.isLineBreak c = false := by
      intro line mem c inside
      obtain ⟨⟨key, value⟩, among, rfl⟩ := List.mem_map.mp mem
      exact whole_of_inline (inline_settingLine value (plain _ among)) c inside
    refine load_eq_ok.mpr ⟨_, ?_, mapping_settings nonempty distinct⟩
    rw [splitLines_unlines whole, entries_setting yes no plain]
  nests plain skipped shape read := load_nests plain skipped shape read
  joins ends plain whole section_ above joined resumed _ read :=
    load_joins ends plain whole section_ above joined resumed read

end KuWarden.Yaml
