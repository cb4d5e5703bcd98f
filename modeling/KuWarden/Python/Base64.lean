import Mathlib.Data.List.GetD
import Mathlib.Tactic.Common

/-!
`base64`, by its characters. Decoding drops what is not in the alphabet, as Python does unless
it is told to validate.
-/
namespace KuWarden.Base64

def alphabet : List Char :=
  "ABCDEFGHIJKLMNOPQRSTUVWXYZabcdefghijklmnopqrstuvwxyz0123456789+/".toList

def digit (n : Nat) : Char := alphabet.getD n '='

/-- What a character of the alphabet stands for. -/
def sextet (c : Char) : Option Nat :=
  let n := alphabet.idxOf c
  if n < 64 then some n else none

/-- `b64encode(bytes).decode()`. -/
def b64encode : List UInt8 → List Char
  | a :: b :: c :: rest =>
      digit (a.toNat / 4) :: digit (a.toNat % 4 * 16 + b.toNat / 16) ::
        digit (b.toNat % 16 * 4 + c.toNat / 64) :: digit (c.toNat % 64) :: b64encode rest
  | [a, b] => [digit (a.toNat / 4), digit (a.toNat % 4 * 16 + b.toNat / 16),
      digit (b.toNat % 16 * 4), '=']
  | [a] => [digit (a.toNat / 4), digit (a.toNat % 4 * 16), '=', '=']
  | [] => []

/-- `quad` characters of a group were read, `left` is what they leave for the next byte, and
`pads` paddings followed them. -/
def decodeFrom (quad left pads : Nat) : List Char → Option (List UInt8)
  | [] => if quad = 0 then some [] else none
  | c :: cs =>
      if c = '=' then
        if quad < 2 then decodeFrom quad left pads cs
        else if 4 ≤ quad + (pads + 1) then some []
        else decodeFrom quad left (pads + 1) cs
      else
        match sextet c with
        | none => decodeFrom quad left pads cs
        | some v =>
            match quad with
            | 0 => decodeFrom 1 v 0 cs
            | 1 => (decodeFrom 2 (v % 16) 0 cs).map (UInt8.ofNat (left * 4 + v / 16) :: ·)
            | 2 => (decodeFrom 3 (v % 4) 0 cs).map (UInt8.ofNat (left * 16 + v / 4) :: ·)
            | _ => (decodeFrom 0 0 0 cs).map (UInt8.ofNat (left * 64 + v) :: ·)

/-- `b64decode(text)`, or `none` where it raises. -/
def b64decode (text : List Char) : Option (List UInt8) := decodeFrom 0 0 0 text

/-- `urlsafe_b64encode(bytes).decode()`. -/
def urlsafeB64encode (bytes : List UInt8) : List Char :=
  (b64encode bytes).map fun c => if c = '+' then '-' else if c = '/' then '_' else c

/-- `urlsafe_b64decode(text)`, or `none` where it raises. -/
def urlsafeB64decode (text : List Char) : Option (List UInt8) :=
  if text.any fun c => 128 ≤ c.toNat then none
  else b64decode (text.map fun c => if c = '-' then '+' else if c = '_' then '/' else c)

theorem alphabet_spec : alphabet.Nodup ∧ alphabet.length = 64 ∧ '=' ∉ alphabet := by
  unfold alphabet
  rw [String.toList_ofList]
  decide +kernel

theorem digit_spec {n : Nat} (small : n < 64) : sextet (digit n) = some n ∧ digit n ≠ '=' := by
  obtain ⟨nodup, length, apart⟩ := alphabet_spec
  have within : n < alphabet.length := length ▸ small
  have is : digit n = alphabet[n] := alphabet.getD_eq_getElem _ within
  constructor
  · rw [is, sextet, nodup.idxOf_getElem n within]
    exact if_pos small
  · rintro same
    exact apart (same ▸ is ▸ List.getElem_mem within)

section
variable {n left pads : Nat} {cs : List Char}

/-- What is not a padding is a digit, or dropped. -/
theorem decodeFrom_digit (quad : Nat) (small : n < 64) :
    decodeFrom quad left pads (digit n :: cs) =
      match quad with
      | 0 => decodeFrom 1 n 0 cs
      | 1 => (decodeFrom 2 (n % 16) 0 cs).map (UInt8.ofNat (left * 4 + n / 16) :: ·)
      | 2 => (decodeFrom 3 (n % 4) 0 cs).map (UInt8.ofNat (left * 16 + n / 4) :: ·)
      | _ => (decodeFrom 0 0 0 cs).map (UInt8.ofNat (left * 64 + n) :: ·) := by
  obtain ⟨known, plain⟩ := digit_spec small
  rw [decodeFrom, if_neg plain, known]

theorem decodeFrom_zero (small : n < 64) :
    decodeFrom 0 left pads (digit n :: cs) = decodeFrom 1 n 0 cs :=
  decodeFrom_digit 0 small

theorem decodeFrom_one (small : n < 64) : decodeFrom 1 left pads (digit n :: cs) =
    (decodeFrom 2 (n % 16) 0 cs).map (UInt8.ofNat (left * 4 + n / 16) :: ·) :=
  decodeFrom_digit 1 small

theorem decodeFrom_two (small : n < 64) : decodeFrom 2 left pads (digit n :: cs) =
    (decodeFrom 3 (n % 4) 0 cs).map (UInt8.ofNat (left * 16 + n / 4) :: ·) :=
  decodeFrom_digit 2 small

theorem decodeFrom_three (small : n < 64) : decodeFrom 3 left pads (digit n :: cs) =
    (decodeFrom 0 0 0 cs).map (UInt8.ofNat (left * 64 + n) :: ·) :=
  decodeFrom_digit 3 small

theorem decodeFrom_pad : decodeFrom 2 left 0 ['=', '='] = some [] := rfl

theorem decodeFrom_last_pad : decodeFrom 3 left 0 ['='] = some [] := rfl

end

theorem ofNat_toNat {a : UInt8} {n : Nat} (same : n = a.toNat) : UInt8.ofNat n = a := by
  rw [same, UInt8.ofNat_toNat]

/-- What was encoded is what is decoded. -/
theorem b64decode_b64encode (bytes : List UInt8) : b64decode (b64encode bytes) = some bytes := by
  unfold b64decode
  induction bytes using b64encode.induct with
  | case1 a b c rest ih =>
      have ha := a.toNat_lt
      have hb := b.toNat_lt
      have hc := c.toNat_lt
      rw [b64encode, decodeFrom_zero (by omega), decodeFrom_one (by omega),
        decodeFrom_two (by omega), decodeFrom_three (by omega), ih]
      simp only [Option.map_some, Option.some.injEq, List.cons.injEq, and_true]
      exact ⟨ofNat_toNat (by omega), ofNat_toNat (by omega), ofNat_toNat (by omega)⟩
  | case2 a b =>
      have ha := a.toNat_lt
      have hb := b.toNat_lt
      rw [b64encode, decodeFrom_zero (by omega), decodeFrom_one (by omega),
        decodeFrom_two (by omega), decodeFrom_last_pad]
      simp only [Option.map_some, Option.some.injEq, List.cons.injEq, and_true]
      exact ⟨ofNat_toNat (by omega), ofNat_toNat (by omega)⟩
  | case3 a =>
      have ha := a.toNat_lt
      rw [b64encode, decodeFrom_zero (by omega), decodeFrom_one (by omega), decodeFrom_pad]
      simp only [Option.map_some, Option.some.injEq, List.cons.injEq, and_true]
      exact ofNat_toNat (by omega)
  | case4 => rfl

theorem mem_b64encode {bytes : List UInt8} {c : Char} (mem : c ∈ b64encode bytes) :
    c ∈ '=' :: alphabet := by
  have of_digit : ∀ n, digit n ∈ '=' :: alphabet := by
    intro n
    unfold digit
    by_cases within : n < alphabet.length
    · rw [alphabet.getD_eq_getElem _ within]
      exact List.mem_cons_of_mem _ (List.getElem_mem within)
    · rw [alphabet.getD_eq_default _ (Nat.not_lt.mp within)]
      exact List.mem_cons_self
  have pad : '=' ∈ '=' :: alphabet := List.mem_cons_self
  induction bytes using b64encode.induct with
  | case1 a b c' rest ih =>
      simp only [b64encode, List.mem_cons (a := c)] at mem
      rcases mem with rfl | rfl | rfl | rfl | later
      · exact of_digit _
      · exact of_digit _
      · exact of_digit _
      · exact of_digit _
      · exact ih later
  | case2 a b =>
      simp only [b64encode, List.mem_cons (a := c), List.not_mem_nil, or_false] at mem
      rcases mem with rfl | rfl | rfl | rfl
      · exact of_digit _
      · exact of_digit _
      · exact of_digit _
      · exact pad
  | case3 a =>
      simp only [b64encode, List.mem_cons (a := c), List.not_mem_nil, or_false] at mem
      rcases mem with rfl | rfl | rfl | rfl
      · exact of_digit _
      · exact of_digit _
      · exact pad
      · exact pad
  | case4 => cases mem

theorem plain_letters : alphabet.all (fun c => c.toNat < 128 && c != '-' && c != '_') := by
  unfold alphabet
  rw [String.toList_ofList]
  decide +kernel

theorem plain_letter {c : Char} (mem : c ∈ '=' :: alphabet) :
    c.toNat < 128 ∧ c ≠ '-' ∧ c ≠ '_' := by
  rcases List.mem_cons.mp mem with rfl | letter
  · decide
  · have plain := List.all_eq_true.mp plain_letters c letter
    simpa [and_assoc] using plain

/-- The safe letters stand for two others, and for nothing else. -/
theorem urlsafe_b64decode_b64encode (bytes : List UInt8) :
    urlsafeB64decode (urlsafeB64encode bytes) = some bytes := by
  have letters : ∀ c ∈ '=' :: alphabet,
      let safe := if c = '+' then '-' else if c = '/' then '_' else c
      safe.toNat < 128 ∧ (if safe = '-' then '+' else if safe = '_' then '/' else safe) = c := by
    intro c mem
    obtain ⟨small, minus, low⟩ := plain_letter mem
    dsimp only
    by_cases plus : c = '+'
    · subst plus
      decide
    by_cases slash : c = '/'
    · subst slash
      decide
    rw [if_neg plus, if_neg slash, if_neg minus, if_neg low]
    exact ⟨small, rfl⟩
  have ascii : ¬ ((urlsafeB64encode bytes).any fun c => 128 ≤ c.toNat) = true := by
    rw [urlsafeB64encode, List.any_map, List.any_eq_true]
    rintro ⟨c, mem, large⟩
    have small := (letters c (mem_b64encode mem)).1
    simp only [Function.comp_apply, decide_eq_true_eq] at large
    omega
  have back : (urlsafeB64encode bytes).map (fun c => if c = '-' then '+' else
      if c = '_' then '/' else c) = b64encode bytes := by
    rw [urlsafeB64encode, List.map_map]
    refine (List.map_congr_left fun c mem => ?_).trans (List.map_id _)
    exact (letters c (mem_b64encode mem)).2
  rw [urlsafeB64decode, if_neg ascii, back, b64decode_b64encode]

end KuWarden.Base64
