import KuWarden.Python.Text

/-!
Lines of bytes, and lines of the text that is read of them.

A line of bytes ends at a line feed. `str.splitlines` ends a line at other characters too, so
what is read of a file has at least as many lines as the file.
-/
namespace KuWarden.Lines

/-- The lines of a file, each with the line feed that ends it. -/
def ofBytes : List UInt8 → List (List UInt8)
  | [] => []
  | b :: bs =>
      if b = 10 then [b] :: ofBytes bs
      else
        match ofBytes bs with
        | [] => [[b]]
        | line :: rest => (b :: line) :: rest

/-! ## Decoding with `errors="replace"` -/

/-- A character of which some bytes are still to come, the next of them within bounds. -/
structure Pending where
  code : Nat
  left : Nat
  low : Nat
  high : Nat
  continues : 0x80 ≤ low := by decide

/-- With one byte more. -/
def Pending.next (p : Pending) (b : UInt8) : Pending where
  code := p.code * 64 + b.toNat % 64
  left := p.left - 1
  low := 0x80
  high := 0xbf

/-- What a first byte amounts to: a character, or the beginning of one. -/
def start (b : UInt8) : Char ⊕ Pending :=
  let n := b.toNat
  if n < 0x80 then .inl (Char.ofNat n)
  else if 0xc2 ≤ n ∧ n ≤ 0xdf then .inr { code := n % 32, left := 1, low := 0x80, high := 0xbf }
  else if n = 0xe0 then .inr { code := 0, left := 2, low := 0xa0, high := 0xbf }
  else if n = 0xed then .inr { code := 13, left := 2, low := 0x80, high := 0x9f }
  else if 0xe1 ≤ n ∧ n ≤ 0xef then .inr { code := n % 16, left := 2, low := 0x80, high := 0xbf }
  else if n = 0xf0 then .inr { code := 0, left := 3, low := 0x90, high := 0xbf }
  else if n = 0xf4 then .inr { code := 4, left := 3, low := 0x80, high := 0x8f }
  else if 0xf1 ≤ n ∧ n ≤ 0xf3 then .inr { code := n % 8, left := 3, low := 0x80, high := 0xbf }
  else .inl (Char.ofNat 0xfffd)

/-- The characters of bytes, of which `pending` has begun; one that breaks off is replaced, and
the byte that broke it off is read anew. -/
def decodeFrom : Option Pending → List UInt8 → List Char
  | none, [] => []
  | some _, [] => [Char.ofNat 0xfffd]
  | none, b :: bs =>
      match start b with
      | .inl c => c :: decodeFrom none bs
      | .inr pending => decodeFrom (some pending) bs
  | some p, b :: bs =>
      if p.low ≤ b.toNat ∧ b.toNat ≤ p.high then
        if p.left ≤ 1 then Char.ofNat (p.code * 64 + b.toNat % 64) :: decodeFrom none bs
        else decodeFrom (some (p.next b)) bs
      else
        Char.ofNat 0xfffd ::
          match start b with
          | .inl c => c :: decodeFrom none bs
          | .inr pending => decodeFrom (some pending) bs

/-- Universal newlines: `\r\n` and `\r` read as `\n`. -/
def newlines : List Char → List Char
  | [] => []
  | '\r' :: '\n' :: cs => '\n' :: newlines cs
  | c :: cs => (if c = '\r' then '\n' else c) :: newlines cs

/-- `path.read_text(encoding="utf-8", errors="replace")`. -/
def readText (bytes : List UInt8) : List Char := newlines (decodeFrom none bytes)

/-- How many lines `read_text(…).splitlines()` has. -/
def read (bytes : List UInt8) : Nat := (Text.splitLines (readText bytes)).length

theorem lineCount_read_text (bytes : List UInt8) :
    Text.lineCount (String.ofList (readText bytes)) = read bytes := by
  rw [Text.lineCount, String.toList_ofList, read]

/-! ## The lines of what is read -/

theorem length_ofBytes_cons {b : UInt8} {bs : List UInt8} (other : b ≠ 10) :
    (ofBytes (b :: bs)).length = max 1 (ofBytes bs).length := by
  rw [ofBytes, if_neg other]
  cases ofBytes bs with
  | nil => rfl
  | cons line rest => simp

theorem length_ofBytes_feed (bs : List UInt8) :
    (ofBytes (10 :: bs)).length = (ofBytes bs).length + 1 := rfl

/-- The lines of text that `read_text` has made. -/
def count (cs : List Char) : Nat := (Text.splitLines (newlines cs)).length

theorem splitLines_cons_le {c : Char} (cs : List Char) (other : c ≠ '\r') :
    max 1 (Text.splitLines cs).length ≤ (Text.splitLines (c :: cs)).length := by
  rw [Text.splitLines.eq_3 _ _ (by rintro rest rfl; exact absurd rfl other)]
  split
  · rw [List.length_cons]
    omega
  · split
    next none_left => simp [none_left]
    next line rest some_left => simp [some_left]

theorem count_feed (cs : List Char) : count ('\n' :: cs) = count cs + 1 := by
  simp [count, newlines, Text.splitLines, Text.isLineBreak]

theorem count_cons_le (c : Char) (cs : List Char) : max 1 (count cs) ≤ count (c :: cs) := by
  by_cases feed : ∃ rest, c = '\r' ∧ cs = '\n' :: rest
  · obtain ⟨rest, rfl, rfl⟩ := feed
    have same : count ('\r' :: '\n' :: rest) = count ('\n' :: rest) := by
      rw [count_feed]
      exact count_feed rest
    rw [same, count_feed]
    omega
  · have apart : newlines (c :: cs) = (if c = '\r' then '\n' else c) :: newlines cs :=
      newlines.eq_3 c cs fun rest first second => feed ⟨rest, first, second⟩
    rw [count, count, apart]
    refine splitLines_cons_le _ ?_
    split
    · decide
    · assumption

/-- What a byte that is read anew is decoded to, with what follows. -/
def fresh (b : UInt8) (bs : List UInt8) : List Char :=
  match start b with
  | .inl c => c :: decodeFrom none bs
  | .inr pending => decodeFrom (some pending) bs

theorem start_feed : start 10 = .inl '\n' := rfl

theorem fresh_lines {b : UInt8} {bs : List UInt8}
    (whole : (ofBytes bs).length ≤ count (decodeFrom none bs))
    (begun : ∀ p, max 1 (ofBytes bs).length ≤ count (decodeFrom (some p) bs)) :
    max 1 (ofBytes (b :: bs)).length ≤ count (fresh b bs) := by
  by_cases feed : b = 10
  · subst feed
    rw [length_ofBytes_feed, fresh, start_feed, count_feed]
    omega
  · rw [length_ofBytes_cons feed, fresh]
    split
    next c _ =>
      have := count_cons_le c (decodeFrom none bs)
      omega
    next p _ =>
      have := begun p
      omega

/-- By induction on the bytes, with or without a character begun; one that is begun comes to a
character at least. -/
theorem decodeFrom_lines (bs : List UInt8) :
    (ofBytes bs).length ≤ count (decodeFrom none bs) ∧
      ∀ p, max 1 (ofBytes bs).length ≤ count (decodeFrom (some p) bs) := by
  induction bs with
  | nil =>
      have replaced : max 1 (ofBytes []).length ≤ count [Char.ofNat 0xfffd] := by decide
      exact ⟨Nat.zero_le _, fun _ => replaced⟩
  | cons b bs ih =>
      obtain ⟨whole, begun⟩ := ih
      have anew : max 1 (ofBytes (b :: bs)).length ≤ count (fresh b bs) :=
        fresh_lines whole begun
      refine ⟨Nat.le_trans (Nat.le_max_right _ _) anew, fun p => ?_⟩
      rw [decodeFrom]
      split
      next within =>
        have other : b ≠ 10 := by
          rintro rfl
          have continues := p.continues
          have low : p.low ≤ 10 := within.1
          omega
        rw [length_ofBytes_cons other]
        split
        · have := count_cons_le (Char.ofNat (p.code * 64 + b.toNat % 64)) (decodeFrom none bs)
          omega
        · have := begun (p.next b)
          omega
      next =>
        have := count_cons_le (Char.ofNat 0xfffd) (fresh b bs)
        exact Nat.le_trans anew (Nat.le_trans (Nat.le_max_right _ _) this)

/-- What is read of a file has at least as many lines as the file. -/
theorem length_ofBytes_le (bytes : List UInt8) : (ofBytes bytes).length ≤ read bytes :=
  (decodeFrom_lines bytes).1

theorem flatten_ofBytes (bytes : List UInt8) : (ofBytes bytes).flatten = bytes := by
  induction bytes with
  | nil => rfl
  | cons b bs ih =>
      rw [ofBytes]
      split
      · simp [ih]
      · split
        next none_left => simpa [none_left] using ih
        next line rest some_left =>
          rw [some_left] at ih
          simpa using ih

theorem ofBytes_inj {bytes bytes' : List UInt8} (same : ofBytes bytes = ofBytes bytes') :
    bytes = bytes' := by
  rw [← flatten_ofBytes bytes, same, flatten_ofBytes]

theorem read_eq_zero {bytes : List UInt8} : read bytes = 0 ↔ bytes = [] := by
  constructor
  · intro none_read
    have none_there : (ofBytes bytes).length = 0 :=
      Nat.le_zero.mp (none_read ▸ length_ofBytes_le bytes)
    exact ofBytes_inj (List.eq_nil_of_length_eq_zero none_there)
  · rintro rfl
    rfl

/-! ## Lines that were written -/

theorem splitLines_append {line : List Char} (whole : ∀ c ∈ line, Text.isLineBreak c = false)
    (rest : List Char) :
    Text.splitLines (line ++ '\n' :: rest) = line :: Text.splitLines rest := by
  induction line with
  | nil => rfl
  | cons c cs ih =>
      have plain : Text.isLineBreak c = false := whole c List.mem_cons_self
      have other : c ≠ '\r' := by
        rintro rfl
        cases plain
      rw [List.cons_append, Text.splitLines.eq_3 _ _ (fun _ same _ => absurd same other),
        ih fun c' mem => whole c' (List.mem_cons_of_mem c mem)]
      simp [plain]

theorem splitLines_flatMap {α : Type} {row : α → List Char} {rows : List α}
    (whole : ∀ x ∈ rows, ∀ c ∈ row x, Text.isLineBreak c = false) :
    Text.splitLines (rows.flatMap fun x => row x ++ ['\n']) = rows.map row := by
  induction rows with
  | nil => rfl
  | cons x rest ih =>
      have first := splitLines_append (whole x List.mem_cons_self)
        (rest.flatMap fun y => row y ++ ['\n'])
      have later := ih fun y mem => whole y (List.mem_cons_of_mem x mem)
      simp only [List.flatMap_cons, List.append_assoc, List.singleton_append, first, later,
        List.map_cons]

def unlines (lines : List (List Char)) : List Char := lines.flatMap fun line => line ++ ['\n']

theorem splitLines_unlines {lines : List (List Char)}
    (whole : ∀ line ∈ lines, ∀ c ∈ line, Text.isLineBreak c = false) :
    Text.splitLines (unlines lines) = lines := by
  rw [unlines, splitLines_flatMap whole, List.map_id']

theorem unlines_append (lines lines' : List (List Char)) :
    unlines (lines ++ lines') = unlines lines ++ unlines lines' := List.flatMap_append

theorem whole_of_mem_splitLines {cs line : List Char} (mem : line ∈ Text.splitLines cs) :
    ∀ c ∈ line, Text.isLineBreak c = false := by
  induction cs using Text.splitLines.induct generalizing line with
  | case1 => cases mem
  | case2 cs ih =>
      rcases List.mem_cons.mp mem with rfl | mem
      · exact fun c mem => by cases mem
      · exact ih mem
  | case3 c cs other breaks ih =>
      rw [Text.splitLines.eq_3 _ _ other, if_pos breaks] at mem
      rcases List.mem_cons.mp mem with rfl | mem
      · exact fun c mem => by cases mem
      · exact ih mem
  | case4 c cs other plain none_left ih =>
      rw [Text.splitLines.eq_3 _ _ other, if_neg plain, none_left] at mem
      rw [List.mem_singleton.mp mem]
      simpa using plain
  | case5 c cs other plain first after some_left ih =>
      rw [Text.splitLines.eq_3 _ _ other, if_neg plain, some_left] at mem
      rw [some_left] at ih
      rcases List.mem_cons.mp mem with rfl | mem
      · intro c' inside
        rcases List.mem_cons.mp inside with rfl | inside
        · simpa using plain
        · exact ih List.mem_cons_self c' inside
      · exact ih (List.mem_cons_of_mem _ mem)

theorem splitLines_eq_nil {cs : List Char} (none_left : Text.splitLines cs = []) : cs = [] := by
  cases cs with
  | nil => rfl
  | cons c cs =>
      unfold Text.splitLines at none_left
      split at none_left
      · assumption
      · cases none_left
      · split at none_left
        · cases none_left
        · split at none_left <;> cases none_left

/-- What follows a line feed begins a line. -/
theorem splitLines_of_closed {front : List Char} (closed : ∀ c ∈ front.getLast?, c = '\n')
    (rest : List Char) :
    Text.splitLines (front ++ rest) = Text.splitLines front ++ Text.splitLines rest := by
  have tail : ∀ {c : Char} {cs : List Char}, (∀ x ∈ (c :: cs).getLast?, x = '\n') →
      ∀ x ∈ cs.getLast?, x = '\n' := by
    intro c cs closed x last
    refine closed x ?_
    cases cs with
    | nil => cases last
    | cons c' cs => exact last
  -- A carriage return at the end of `front` is not closed.
  have apart : ∀ {c : Char} {cs : List Char}, (∀ x ∈ (c :: cs).getLast?, x = '\n') →
      (∀ after, c = '\r' → cs = '\n' :: after → False) →
      ∀ after, c = '\r' → cs ++ rest = '\n' :: after → False := by
    intro c cs closed other after returns feeds
    cases cs with
    | nil => exact absurd (returns ▸ closed c rfl) (by decide)
    | cons x xs => exact other xs returns (congrArg (· :: xs) (List.cons.inj feeds).1)
  induction front using Text.splitLines.induct with
  | case1 => rfl
  | case2 cs ih =>
      show [] :: Text.splitLines (cs ++ rest) = _
      rw [ih (tail (tail closed))]
      rfl
  | case3 c cs other breaks ih =>
      rw [List.cons_append, Text.splitLines.eq_3 _ _ (apart closed other), if_pos breaks,
        ih (tail closed), Text.splitLines.eq_3 _ _ other, if_pos breaks]
      rfl
  | case4 c cs other plain none_left ih =>
      cases splitLines_eq_nil none_left
      exact absurd (closed c rfl) (by rintro rfl; exact plain rfl)
  | case5 c cs other plain line after some_left ih =>
      rw [List.cons_append, Text.splitLines.eq_3 _ _ (apart closed other), if_neg plain,
        ih (tail closed), Text.splitLines.eq_3 _ _ other, if_neg plain, some_left]
      rfl

/-- A line feed ends the last line, or a line that is empty. -/
theorem splitLines_concat (cs : List Char) :
    Text.splitLines (cs ++ ['\n']) = Text.splitLines cs ∨
      Text.splitLines (cs ++ ['\n']) = Text.splitLines cs ++ [[]] := by
  induction cs using Text.splitLines.induct with
  | case1 => exact .inr rfl
  | case2 cs ih =>
      show [] :: Text.splitLines (cs ++ ['\n']) = [] :: Text.splitLines cs ∨
        [] :: Text.splitLines (cs ++ ['\n']) = [] :: Text.splitLines cs ++ [[]]
      exact ih.imp (congrArg _) (congrArg _)
  | case3 c cs other breaks ih =>
      by_cases returns : c = '\r' ∧ cs = []
      · obtain ⟨rfl, rfl⟩ := returns
        exact .inl rfl
      · have apart : ∀ after, c = '\r' → cs ++ ['\n'] = '\n' :: after → False := by
          intro after same feeds
          cases cs with
          | nil => exact returns ⟨same, rfl⟩
          | cons x xs => exact other xs same (congrArg (· :: xs) (List.cons.inj feeds).1)
        rw [List.cons_append, Text.splitLines.eq_3 _ _ apart, if_pos breaks,
          Text.splitLines.eq_3 _ _ other, if_pos breaks]
        exact ih.imp (congrArg _) (congrArg _)
  | case4 c cs other plain none_left ih =>
      cases splitLines_eq_nil none_left
      have whole : ∀ x ∈ [c], Text.isLineBreak x = false := by simpa using plain
      have alone : Text.splitLines [c] = [[c]] := by
        rw [Text.splitLines.eq_3 _ _ other, if_neg plain, none_left]
      exact .inl ((splitLines_append whole []).trans alone.symm)
  | case5 c cs other plain line after some_left ih =>
      have apart : ∀ after, c = '\r' → cs ++ ['\n'] = '\n' :: after → False := by
        rintro after rfl
        exact absurd rfl plain
      rw [List.cons_append, Text.splitLines.eq_3 _ _ apart, if_neg plain,
        Text.splitLines.eq_3 _ _ other, if_neg plain, some_left]
      rcases ih with same | more
      · exact .inl (by rw [same, some_left])
      · exact .inr (by rw [more, some_left]; rfl)

end KuWarden.Lines
