import KuWarden.Python.Substitution

/-!
Azure DevOps Boards: work-item texts are rich text, and are read as plain ones.

Tags become spaces, then the entities are decoded one after another, then white space is tidied.
The ampersand is decoded before the entities that begin with one.
-/
namespace KuWarden.AzureBoards

open Text

def tag : Regex := .seq (.one (· = '<')) (.seq (.plus (.one (· ≠ '>'))) (.one (· = '>')))

def blank (c : Char) : Bool := c = ' ' ∨ c = '\t'

/-- `[ \t]{2,}`. -/
def blanks : Regex := .seq (.one blank) (.plus (.one blank))

def whitespace : Regex := .seq (.many (.one blank)) (.seq (.one (· = '\n')) (.many (.one blank)))

def decoded (text : List Char) : List Char :=
  let text := replace "&nbsp;".toList [' '] text
  let text := replace "&amp;".toList ['&'] text
  let text := replace "&lt;".toList ['<'] text
  let text := replace "&gt;".toList ['>'] text
  replace "&quot;".toList ['"'] text

/-- What `_plain` does to white space. -/
def tidied (text : List Char) : String :=
  strip (String.ofList (whitespace.sub ['\n'] (blanks.sub [' '] text)))

/-- `_plain`. -/
def plain (html : Option String) : String :=
  match html with
  | none => ""
  | some html => if html = "" then "" else tidied (decoded (tag.sub [' '] html.toList))

/-! ## Encoding a text -/

def entities : List (Char × List Char) := [
  ('&', "&amp;".toList), ('<', "&lt;".toList), ('>', "&gt;".toList), ('"', "&quot;".toList)]

def entity (c : Char) : List Char := (entities.lookup c).getD [c]

def encode (chars text : List Char) : List Char :=
  text.flatMap fun c => if c ∈ chars then entity c else [c]

/-- A plain text as HTML. -/
def html (text : String) : String := String.ofList (encode (entities.map Prod.fst) text.toList)

variable {chars text rest u : List Char} {c : Char}

theorem encode_cons (c : Char) (text : List Char) :
    encode chars (c :: text) = (if c ∈ chars then entity c else [c]) ++ encode chars text :=
  List.flatMap_cons ..

theorem encode_free (free : ∀ c ∈ u, c ∉ chars) :
    encode chars (u ++ rest) = u ++ encode chars rest := by
  induction u with
  | nil => rfl
  | cons c u ih =>
      obtain ⟨here, others⟩ := List.forall_mem_cons.mp free
      rw [List.cons_append, encode_cons, if_neg here, ih others]
      rfl

theorem encode_nil (text : List Char) : encode [] text = text := by
  have plain : encode [] (text ++ []) = text ++ encode [] [] := encode_free (by simp)
  rwa [List.append_nil, show encode [] [] = [] from rfl, List.append_nil] at plain

/-- Every entity begins with an ampersand, and holds no other. -/
theorem entity_cases (known : c ∈ entities.map Prod.fst) :
    ∃ name, entity c = '&' :: name ∧ '&' ∉ name := by
  have each : ∀ c ∈ entities.map Prod.fst,
      (entity c).head? = some '&' ∧ '&' ∉ (entity c).tail := by decide
  obtain ⟨first, others⟩ := each c known
  exact ⟨(entity c).tail, (List.cons_head?_tail first).symm, others⟩

/-- A text without an ampersand is found at the head of an encoded one only if it stood there. -/
theorem prefix_encode (known : ∀ c ∈ chars, c ∈ entities.map Prod.fst) (free : '&' ∉ u)
    (found : u <+: encode chars text) : u <+: text := by
  induction u generalizing text with
  | nil => exact List.nil_prefix
  | cons o u ih =>
      obtain ⟨differs, others⟩ := not_or.mp (mt List.mem_cons.mpr free)
      cases text with
      | nil => cases List.prefix_nil.mp found
      | cons c text =>
          rw [encode_cons] at found
          split at found
          next listed =>
            obtain ⟨name, same, -⟩ := entity_cases (known c listed)
            rw [same, List.cons_append, List.cons_prefix_cons] at found
            exact absurd found.1.symm differs
          next plain =>
            obtain ⟨rfl, later⟩ := List.cons_prefix_cons.mp found
            exact List.cons_prefix_cons.mpr ⟨rfl, ih others later⟩

/-! ## Decoding it -/

/-- What an entity does not begin with, and what does not begin with it, is not found at it. -/
theorem replace_past {os new : List Char} (known : c ∈ entities.map Prod.fst)
    (longer : ¬ '&' :: os <+: entity c) (shorter : ¬ entity c <+: '&' :: os) :
    replace ('&' :: os) new (entity c ++ rest) = entity c ++ replace ('&' :: os) new rest := by
  have elsewhere : ¬ '&' :: os <+: entity c ++ rest := by
    intro found
    rcases List.prefix_or_prefix_of_prefix found (List.prefix_append (entity c) rest) with h | h
    · exact longer h
    · exact shorter h
  obtain ⟨name, same, free⟩ := entity_cases known
  rw [same, List.cons_append] at elsewhere ⊢
  rw [replace_there elsewhere, replace_free free, List.cons_append]

/-- An entity of another kind is passed over. -/
theorem replace_entity {d : Char} {new : List Char} (known : c ∈ entities.map Prod.fst)
    (known' : d ∈ entities.map Prod.fst) (other : c ≠ d) :
    replace (entity d) new (entity c ++ rest) = entity c ++ replace (entity d) new rest := by
  have apart : ∀ c ∈ entities.map Prod.fst, ∀ d ∈ entities.map Prod.fst, c ≠ d →
      ¬ entity d <+: entity c ∧ ¬ entity c <+: entity d := by decide
  obtain ⟨longer, shorter⟩ := apart c known d known' other
  obtain ⟨name, same, -⟩ := entity_cases known'
  rw [same] at longer shorter ⊢
  exact replace_past known longer shorter

/-- A name that is not among the encoded ones is not found where every ampersand is encoded. -/
theorem replace_foreign {os new : List Char} (known : ∀ c ∈ chars, c ∈ entities.map Prod.fst)
    (ampersands : '&' ∈ chars)
    (foreign : ∀ c ∈ chars, ¬ '&' :: os <+: entity c ∧ ¬ entity c <+: '&' :: os) :
    replace ('&' :: os) new (encode chars text) = encode chars text := by
  induction text with
  | nil => rfl
  | cons c text ih =>
      rw [encode_cons]
      split
      next listed =>
        rw [replace_past (known c listed) (foreign c listed).1 (foreign c listed).2, ih]
      next plain =>
        have differs : '&' ∉ [c] := by
          rw [List.mem_singleton]
          exact fun same => plain (same ▸ ampersands)
        rw [replace_free differs, ih]

theorem replace_ampersands (known : ∀ c ∈ chars, c ∈ entities.map Prod.fst) (none : '&' ∉ chars) :
    replace (entity '&') ['&'] (encode ('&' :: chars) text) = encode chars text := by
  induction text with
  | nil => rfl
  | cons c text ih =>
      rw [encode_cons, encode_cons]
      by_cases ampersand : c = '&'
      · rw [ampersand, if_pos List.mem_cons_self, if_neg none, replace_here (by decide), ih]
      · by_cases listed : c ∈ chars
        · rw [if_pos (List.mem_cons_of_mem _ listed), if_pos listed,
            replace_entity (known c listed) (by decide) ampersand, ih]
        · rw [if_neg (by simp [ampersand, listed]), if_neg listed]
          have differs : '&' ∉ [c] := by
            rw [List.mem_singleton]
            exact Ne.symm ampersand
          exact (replace_free differs).trans (congrArg ([c] ++ ·) ih)

/-- Decoding the entities of one other character: those that were encoded, and those that the
text held itself. -/
theorem replace_encoded {d : Char} (known : ∀ c ∈ d :: chars, c ∈ entities.map Prod.fst)
    (none : '&' ∉ d :: chars) (other : d ∉ chars) :
    replace (entity d) [d] (encode (d :: chars) text) =
      encode chars (replace (entity d) [d] text) := by
  have apart : ∀ c ∈ entities.map Prod.fst, ∀ d ∈ entities.map Prod.fst, d ≠ '&' →
      d ∉ entity c := by decide
  have listed := known d List.mem_cons_self
  have some : entity d ≠ [] := by
    obtain ⟨name, same, -⟩ := entity_cases listed
    rw [same]
    exact List.cons_ne_nil _ _
  induction text using replace_induction some with
  | nil => rfl
  | here rest ih =>
      have free : ∀ c ∈ entity d, c ∉ d :: chars := by
        intro c mem inner
        exact apart d listed c (known c inner) (fun same => none (same ▸ inner)) mem
      rw [encode_free free, replace_here some, ih, replace_here some,
        encode_free (u := [d]) (by simpa using other)]
  | there c cs elsewhere ih =>
      rw [replace_there elsewhere, encode_cons, encode_cons]
      by_cases same : c = d
      · rw [same, if_pos List.mem_cons_self, if_neg other, replace_here some, ih]
      · by_cases inner : c ∈ chars
        · rw [if_pos (List.mem_cons_of_mem _ inner), if_pos inner,
            replace_entity (known c (List.mem_cons_of_mem _ inner)) listed same, ih]
        · rw [if_neg (by simp [same, inner]), if_neg inner, ← ih]
          refine replace_there fun found => elsewhere ?_
          obtain ⟨name, begins, free⟩ := entity_cases listed
          rw [begins] at found ⊢
          obtain ⟨rfl, later⟩ := List.cons_prefix_cons.mp found
          exact List.cons_prefix_cons.mpr ⟨rfl, prefix_encode known free later⟩

/-! ## What is read back -/

theorem plain_some (text : String) :
    plain (some text) = tidied (decoded (tag.sub [' '] text.toList)) := by
  rw [plain]
  split
  next empty =>
    rw [empty]
    decide
  · rfl

/-- Encoding leaves no character behind that begins a tag. -/
theorem sub_tag_encoded (text : List Char) :
    tag.sub [' '] (encode (entities.map Prod.fst) text) = encode (entities.map Prod.fst) text := by
  refine Regex.sub_absent fun w word => ⟨'<', ?_, ?_⟩
  · obtain ⟨u, ⟨c, opens, rfl⟩, v, -, rfl⟩ := Regex.mem_language_seq.mp word
    exact List.mem_append_left v (List.mem_singleton.mpr (of_decide_eq_true opens).symm)
  · intro mem
    obtain ⟨c, -, inner⟩ := List.mem_flatMap.mp mem
    split at inner
    next listed =>
      have none : ∀ c ∈ entities.map Prod.fst, '<' ∉ entity c := by decide
      exact none c listed inner
    next other => exact other (List.mem_singleton.mp inner ▸ by decide)

theorem decoded_encoded (text : List Char) :
    decoded (encode (entities.map Prod.fst) text) =
      replace (entity '"') ['"'] (replace (entity '>') ['>'] (replace (entity '<') ['<'] text)) := by
  have spaces : replace "&nbsp;".toList [' '] (encode (entities.map Prod.fst) text) =
      encode (entities.map Prod.fst) text :=
    replace_foreign (fun _ mem => mem) (by decide) (by decide)
  have ampersands : replace (entity '&') ['&'] (encode ['&', '<', '>', '"'] text) =
      encode ['<', '>', '"'] text := replace_ampersands (by decide) (by decide)
  have opened : replace (entity '<') ['<'] (encode ['<', '>', '"'] text) =
      encode ['>', '"'] (replace (entity '<') ['<'] text) :=
    replace_encoded (by decide) (by decide) (by decide)
  have closed (text : List Char) : replace (entity '>') ['>'] (encode ['>', '"'] text) =
      encode ['"'] (replace (entity '>') ['>'] text) :=
    replace_encoded (by decide) (by decide) (by decide)
  have quoted (text : List Char) : replace (entity '"') ['"'] (encode ['"'] text) =
      encode [] (replace (entity '"') ['"'] text) :=
    replace_encoded (by decide) (by decide) (by decide)
  rw [decoded, spaces]
  change replace (entity '"') _ (replace (entity '>') _ (replace (entity '<') _
    (replace (entity '&') _ (encode ['&', '<', '>', '"'] text)))) = _
  rw [ampersands, opened, closed, quoted, encode_nil]

/-- Tidying white space moves no other character. -/
theorem count_tidied (text : List Char) : (tidied text).toList.count '&' = text.count '&' := by
  have kept : ∀ (p : Regex) (repl text : List Char), (∀ w ∈ p.language, w ≠ []) →
      p.Draws (· ≠ '&') → '&' ∉ repl → (p.sub repl text).count '&' = text.count '&' := by
    intro p repl text something draws put
    have same : (p.sub repl text).filter (· == '&') = text.filter (· == '&') :=
      Regex.sub_filter something
        (fun w word c mem => beq_false_of_ne (draws.letters w word c mem))
        fun c mem => beq_false_of_ne fun same => put (same ▸ mem)
    rw [List.count_eq_length_filter, List.count_eq_length_filter, same]
  have several : ∀ w ∈ blanks.language, w ≠ [] := by
    rintro w word rfl
    obtain ⟨u, ⟨c, -, rfl⟩, v, -, none⟩ := Regex.mem_language_seq.mp word
    cases none
  have lines : ∀ w ∈ whitespace.language, w ≠ [] := by
    rintro w word rfl
    obtain ⟨u, -, v, later, none⟩ := Regex.mem_language_seq.mp word
    obtain ⟨x, ⟨c, -, rfl⟩, y, -, rfl⟩ := Regex.mem_language_seq.mp later
    cases (List.append_eq_nil_iff.mp none).2
  have blank_other : ∀ c, blank c = true → c ≠ '&' := by
    rintro c spaced rfl
    cases spaced
  rw [tidied, count_strip (by decide), String.toList_ofList,
    kept whitespace _ _ lines ⟨blank_other, ?_, blank_other⟩ (by decide),
    kept blanks _ _ several ⟨blank_other, blank_other, blank_other⟩ (by decide)]
  rintro c breaks rfl
  cases breaks

/-- Decoding an entity that the text holds takes an ampersand away. -/
theorem count_replaced {d : Char} (known : d ∈ entities.map Prod.fst) (other : d ≠ '&')
    (text : List Char) :
    (replace (entity d) [d] text).count '&' ≤ text.count '&' ∧
      (entity d <:+: text → (replace (entity d) [d] text).count '&' < text.count '&') := by
  obtain ⟨name, same, free⟩ := entity_cases known
  have fewer : [d].count '&' < (entity d).count '&' := by
    rw [same, List.count_cons_self, List.count_singleton, if_neg (by simpa using other)]
    exact Nat.succ_pos _
  have some : entity d ≠ [] := same ▸ List.cons_ne_nil _ _
  exact ⟨count_replace_le some fewer.le text, count_replace_lt some fewer⟩

/-- A text written as HTML is read back, its white space tidied, exactly when it does not itself
hold an entity that is decoded after the ampersand. -/
theorem plain_html_iff (text : String) :
    plain (some (html text)) = tidied text.toList ↔
      ∀ name ∈ ["&lt;", "&gt;", "&quot;"], occurs name text = false := by
  rw [plain_some, html, String.toList_ofList, sub_tag_encoded, decoded_encoded]
  have absent : (∀ name ∈ ["&lt;", "&gt;", "&quot;"], occurs name text = false) ↔
      ∀ d ∈ ['<', '>', '"'], ¬ entity d <:+: text.toList := by
    simp only [List.forall_mem_cons, ← Bool.not_eq_true, occurs_iff, List.not_mem_nil,
      false_imp_iff, implies_true, and_true]
    exact Iff.rfl
  rw [absent]
  have less := count_replaced (d := '<') (by decide) (by decide)
  have greater := count_replaced (d := '>') (by decide) (by decide)
  have quote := count_replaced (d := '"') (by decide) (by decide)
  have opened := less text.toList
  have closed := greater (replace (entity '<') ['<'] text.toList)
  have quoted := quote (replace (entity '>') ['>'] (replace (entity '<') ['<'] text.toList))
  constructor
  · intro back
    have same := congrArg (fun s : String => s.toList.count '&') back
    simp only [count_tidied] at same
    have first : ¬ entity '<' <:+: text.toList := fun held => by
      have := opened.2 held
      omega
    rw [replace_absent first] at closed quoted same
    have second : ¬ entity '>' <:+: text.toList := fun held => by
      have := closed.2 held
      omega
    rw [replace_absent second] at quoted same
    have third : ¬ entity '"' <:+: text.toList := fun held => by
      have := quoted.2 held
      omega
    simpa only [List.forall_mem_cons, List.not_mem_nil, false_imp_iff, implies_true, and_true]
      using ⟨first, second, third⟩
  · intro none
    rw [replace_absent (none '<' (by decide)), replace_absent (none '>' (by decide)),
      replace_absent (none '"' (by decide))]

end KuWarden.AzureBoards
