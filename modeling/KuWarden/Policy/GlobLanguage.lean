import KuWarden.Policy.Globs
import KuWarden.Python.RegexLanguage
import KuWarden.Python.RegexSyntax

/-!
The paths a glob stands for, and that the regular expression `translate` writes for it matches
those and no other.
-/
namespace KuWarden

/-! ## The regular expression -/

namespace GlobToken

/-- What `translate` writes for a token. -/
def text : GlobToken → String
  | .directories => "(?:.*/)?"
  | .anything => ".*"
  | .segment => "[^/]*"
  | .one => "[^/]"
  | .literal c => String.ofList (Regex.escape c)

def regex : GlobToken → Regex
  | .directories => .opt (.seq (.many .dot) (.one (· = '/')))
  | .anything => .many .dot
  | .segment => .many (.one (· ≠ '/'))
  | .one => .one (· ≠ '/')
  | .literal c => .one (· = c)

end GlobToken

/-- The text that `translate` compiles. -/
def globText (pattern : List Char) : List Char :=
  '^' :: (translate pattern).flatMap (fun token => token.text.toList) ++ ['$']

/-- `translate(pattern).match(candidate)`, unless the text cannot be compiled. -/
def translatedMatch (pattern candidate : List Char) : Option Bool :=
  (Regex.compile (globText pattern)).map fun p => (p.first [] candidate).isSome

variable {token : GlobToken} {tokens : List GlobToken} {pattern cs rest w : List Char}

theorem parse_token {items : List Regex} {outer : List (List Regex)}
    (unrepeated : Regex.unrepeated rest = true) :
    Regex.parse (token.text.toList ++ rest) (items :: outer) =
      Regex.parse rest ((token.regex :: items) :: outer) := by
  cases token with
  | directories =>
      rw [GlobToken.text, String.toList_ofList]
      simp only [List.cons_append, List.nil_append]
      rw [Regex.parse_open, Regex.parse_dot, Regex.parse_many rfl rfl,
        Regex.parse_plain (by decide), Regex.parse_close, Regex.parse_opt rfl unrepeated,
        GlobToken.regex]
      rfl
  | anything =>
      rw [GlobToken.text, String.toList_ofList]
      simp only [List.cons_append, List.nil_append]
      rw [Regex.parse_dot, Regex.parse_many rfl unrepeated, GlobToken.regex]
  | segment =>
      rw [GlobToken.text, String.toList_ofList]
      simp only [List.cons_append, List.nil_append]
      rw [Regex.parse_except (by decide), Regex.parse_many rfl unrepeated, GlobToken.regex]
  | one =>
      rw [GlobToken.text, String.toList_ofList]
      simp only [List.cons_append, List.nil_append]
      rw [Regex.parse_except (by decide), GlobToken.regex]
  | literal c =>
      rw [GlobToken.text, String.toList_ofList]
      exact Regex.parse_escape c

theorem unrepeated_text (token : GlobToken) : Regex.unrepeated (token.text.toList ++ rest) = true := by
  cases token with
  | literal c =>
      rw [GlobToken.text, String.toList_ofList]
      exact Regex.unrepeated_escape c
  | _ => rw [GlobToken.text, String.toList_ofList]; rfl

theorem parse_tokens {items : List Regex} :
    Regex.parse (tokens.flatMap (fun token => token.text.toList) ++ ['$']) [items] =
      some (.seqs (items.reverse ++ tokens.map GlobToken.regex ++ [.stop])) := by
  induction tokens generalizing items with
  | nil =>
      rw [List.flatMap_nil, List.nil_append, Regex.parse_stop, Regex.parse, List.reverse_cons,
        List.map_nil, List.append_nil]
  | cons token tokens ih =>
      have follows : Regex.unrepeated (tokens.flatMap (fun token => token.text.toList) ++ ['$']) = true := by
        cases tokens with
        | nil => rfl
        | cons next tokens =>
            rw [List.flatMap_cons, List.append_assoc]
            exact unrepeated_text next
      rw [List.flatMap_cons, List.append_assoc, parse_token follows, ih, List.reverse_cons,
        List.map_cons]
      simp only [List.append_assoc, List.cons_append, List.nil_append]

theorem compile_globText (pattern : List Char) : Regex.compile (globText pattern) =
    some (.seqs ([.start] ++ (translate pattern).map GlobToken.regex ++ [.stop])) :=
  Regex.parse_start.trans parse_tokens

/-! ## The matcher and the tokens -/

theorem plain_token (token : GlobToken) : token.regex.Plain := by
  cases token with
  | directories => exact ⟨⟨trivial, trivial⟩, trivial⟩
  | _ => trivial

theorem mem_leftovers {p : Char → Bool} :
    rest ∈ leftovers p cs ↔ ∃ w, (∀ c ∈ w, p c = true) ∧ cs = w ++ rest := by
  induction cs with
  | nil =>
      simp only [leftovers, List.mem_singleton]
      constructor
      · rintro rfl
        exact ⟨[], by simp, rfl⟩
      · rintro ⟨w, -, split⟩
        exact (List.append_eq_nil_iff.mp split.symm).2
  | cons c cs ih =>
      rw [leftovers, List.mem_cons]
      constructor
      · rintro (rfl | later)
        · exact ⟨[], by simp, rfl⟩
        · split at later
          next accepted =>
            obtain ⟨w, all, rfl⟩ := ih.mp later
            exact ⟨c :: w, List.forall_mem_cons.mpr ⟨accepted, all⟩, rfl⟩
          · cases later
      · rintro ⟨w, all, split⟩
        cases w with
        | nil => exact .inl split.symm
        | cons d w =>
            obtain ⟨rfl, rfl⟩ := List.cons.inj split
            obtain ⟨accepted, others⟩ := List.forall_mem_cons.mp all
            rw [if_pos accepted]
            exact .inr (ih.mpr ⟨w, others, rfl⟩)

theorem mem_language_leftovers {accepts : Char → Bool} : rest ∈ leftovers accepts cs ↔
    ∃ w ∈ (Regex.many (.one accepts)).language, cs = w ++ rest := by
  simp only [mem_leftovers, Regex.mem_language_run]

theorem mem_language_next {accepts : Char → Bool} :
    (∃ w ∈ (Regex.one accepts).language, cs = w ++ rest) ↔
      ∃ c, accepts c = true ∧ cs = c :: rest := by
  constructor
  · rintro ⟨w, ⟨c, accepted, rfl⟩, split⟩
    exact ⟨c, accepted, split⟩
  · rintro ⟨c, accepted, split⟩
    exact ⟨[c], ⟨c, accepted, rfl⟩, split⟩

/-- A token leaves what its regular expression leaves. -/
theorem mem_rests : rest ∈ token.rests cs ↔ ∃ w ∈ token.regex.language, cs = w ++ rest := by
  cases token with
  | directories =>
      rw [GlobToken.rests, List.mem_cons, List.mem_filterMap]
      constructor
      · rintro (rfl | ⟨left, mem, found⟩)
        · exact ⟨[], .inr rfl, rfl⟩
        · obtain ⟨w, word, rfl⟩ := mem_language_leftovers.mp mem
          split at found
          next tail =>
            cases found
            exact ⟨w ++ ['/'], .inl (Language.append_mem_mul word ⟨'/', by simp, rfl⟩), by simp⟩
          · cases found
      · rintro ⟨w, word, rfl⟩
        rcases word with path | nothing
        · obtain ⟨u, word, v, ⟨c, slash, rfl⟩, rfl⟩ := Language.mem_mul.mp path
          rw [of_decide_eq_true slash, List.append_assoc]
          exact .inr ⟨'/' :: rest, mem_language_leftovers.mpr ⟨u, word, rfl⟩, rfl⟩
        · rw [(Language.mem_one w).mp nothing]
          exact .inl rfl
  | anything => exact mem_language_leftovers
  | segment => exact mem_language_leftovers
  | one =>
      rw [GlobToken.regex, mem_language_next]
      cases cs with
      | nil => simp [GlobToken.rests]
      | cons d ds => by_cases slash : d = '/' <;> simp [GlobToken.rests, slash, @eq_comm _ ds]
  | literal c =>
      rw [GlobToken.regex, mem_language_next]
      cases cs with
      | nil => simp [GlobToken.rests]
      | cons d ds => by_cases same : d = c <;> simp [GlobToken.rests, same, @eq_comm _ ds]

theorem mem_globRests : rest ∈ globRests tokens cs ↔
    ∃ w ∈ (Regex.seqs (tokens.map GlobToken.regex)).language, cs = w ++ rest := by
  induction tokens generalizing cs with
  | nil =>
      constructor
      · intro mem
        exact ⟨[], rfl, (List.mem_singleton.mp mem).symm⟩
      · rintro ⟨w, word, rfl⟩
        rw [(Language.mem_one w).mp word]
        exact List.mem_singleton.mpr rfl
  | cons token tokens ih =>
      rw [globRests, List.mem_flatMap, List.map_cons, Regex.language_seqs, List.map_cons,
        List.prod_cons, ← Regex.language_seqs]
      constructor
      · rintro ⟨next, first, later⟩
        obtain ⟨u, left, rfl⟩ := mem_rests.mp first
        obtain ⟨v, right, rfl⟩ := ih.mp later
        exact ⟨u ++ v, Language.append_mem_mul left right, (List.append_assoc ..).symm⟩
      · rintro ⟨w, word, rfl⟩
        obtain ⟨u, left, v, right, rfl⟩ := Language.mem_mul.mp word
        exact ⟨v ++ rest, mem_rests.mpr ⟨u, left, List.append_assoc ..⟩,
          ih.mpr ⟨v, right, rfl⟩⟩

theorem translatedMatch_eq (pattern candidate : List Char) :
    translatedMatch pattern candidate = some (globMatches pattern candidate) := by
  have plain : (Regex.seqs ((translate pattern).map GlobToken.regex)).Plain := by
    refine Regex.plain_seqs fun p mem => ?_
    obtain ⟨token, -, rfl⟩ := List.mem_map.mp mem
    exact plain_token token
  rw [translatedMatch, compile_globText, Option.map_some, Option.some_inj, Bool.eq_iff_iff,
    Regex.first_isSome, globMatches, List.any_eq_true]
  have from_start : ∀ t, t ∈ (Regex.seqs ([.start] ++ (translate pattern).map GlobToken.regex ++
      [.stop])).ends { before := [], rest := candidate } ↔
      ∃ u ∈ (Regex.seqs ((translate pattern).map GlobToken.regex)).ends
        { before := [], rest := candidate }, t ∈ Regex.stop.ends u := by
    intro t
    have starts : Regex.start.ends { before := [], rest := candidate } =
        [{ before := [], rest := candidate }] := rfl
    rw [Regex.ends_seqs_append, List.mem_flatMap, List.singleton_append, Regex.ends_seqs_cons,
      starts, List.flatMap_singleton]
    rfl
  have at_end : ∀ u, (∃ t, t ∈ Regex.stop.ends u) ↔ u.rest = [] ∨ u.rest = ['\n'] := by
    intro u
    rw [Regex.stop, Regex.ends]
    split
    next stops => simpa using stops
    next stops => simpa using stops
  simp only [from_start]
  constructor
  · rintro ⟨t, u, mem, last⟩
    refine ⟨u.rest, mem_globRests.mpr (Regex.reads mem), ?_⟩
    exact decide_eq_true ((at_end u).mp ⟨t, last⟩)
  · rintro ⟨left, mem, last⟩
    obtain ⟨w, word, read⟩ := mem_globRests.mp mem
    obtain ⟨u, found, rfl⟩ := Regex.finds (s := { before := [], rest := candidate }) plain word read
    obtain ⟨t, stops⟩ := (at_end u).mpr (of_decide_eq_true last)
    exact ⟨t, u, found, stops⟩

/-! ## The paths a glob stands for -/

namespace Glob

/-- Nothing, or whatever ends in a separator. -/
def directories : Language Char := {w | w = [] ∨ ∃ v, w = v ++ ['/']}

def segment : Language Char := {w | '/' ∉ w}

def one : Language Char := {w | ∃ c, c ≠ '/' ∧ w = [c]}

def literal (c : Char) : Language Char := {w | w = [c]}

/-- Read from left to right, the longest token first. -/
def language : List Char → Language Char
  | '*' :: '*' :: '/' :: rest => directories * language rest
  | '*' :: '*' :: rest => ⊤ * language rest
  | '*' :: rest => segment * language rest
  | '?' :: rest => one * language rest
  | c :: rest => literal c * language rest
  | [] => 1

end Glob

/-- Products agree on a text if their factors do on its parts. -/
theorem mem_mul_congr {a a' b b' : Language Char} {p : List Char → Prop}
    (parts : ∀ u v, p (u ++ v) → p u ∧ p v) (left : ∀ w, p w → (w ∈ a ↔ w ∈ a'))
    (right : ∀ w, p w → (w ∈ b ↔ w ∈ b')) (known : p w) : w ∈ a * b ↔ w ∈ a' * b' := by
  rw [Language.mem_mul, Language.mem_mul]
  constructor
  · rintro ⟨u, first, v, second, rfl⟩
    obtain ⟨here, there⟩ := parts u v known
    exact ⟨u, (left u here).mp first, v, (right v there).mp second, rfl⟩
  · rintro ⟨u, first, v, second, rfl⟩
    obtain ⟨here, there⟩ := parts u v known
    exact ⟨u, (left u here).mpr first, v, (right v there).mpr second, rfl⟩

/-- On one line, the tokens read what the glob stands for. -/
theorem mem_language_tokens (single : '\n' ∉ w) :
    w ∈ (Regex.seqs ((translate pattern).map GlobToken.regex)).language ↔
      w ∈ Glob.language pattern := by
  have parts : ∀ u v : List Char, '\n' ∉ u ++ v → '\n' ∉ u ∧ '\n' ∉ v := by
    intro u v none
    rwa [List.mem_append, not_or] at none
  have run : ∀ w : List Char, '\n' ∉ w → w ∈ (Regex.many Regex.dot).language := by
    intro w none
    refine Regex.mem_language_run.mpr fun c mem => decide_eq_true ?_
    rintro rfl
    exact none mem
  rw [Regex.language_seqs, List.map_map]
  induction pattern using Glob.language.induct generalizing w with
  | case1 rest ih =>
      rw [translate, Glob.language, List.map_cons, List.prod_cons]
      refine mem_mul_congr parts (fun w none => ?_) (fun _ => ih) single
      constructor
      · rintro (path | nothing)
        · obtain ⟨u, -, v, ⟨c, slash, rfl⟩, rfl⟩ := Language.mem_mul.mp path
          rw [of_decide_eq_true slash]
          exact .inr ⟨u, rfl⟩
        · exact .inl ((Language.mem_one w).mp nothing)
      · rintro (rfl | ⟨v, rfl⟩)
        · exact .inr rfl
        · exact .inl (Language.append_mem_mul (run v (parts v _ none).1) ⟨'/', rfl, rfl⟩)
  | case2 rest other ih =>
      rw [translate.eq_2 rest other, Glob.language.eq_2 rest other, List.map_cons, List.prod_cons]
      exact mem_mul_congr parts (fun w none => ⟨fun _ => trivial, fun _ => run w none⟩)
        (fun _ => ih) single
  | case3 rest path any ih =>
      rw [translate.eq_3 rest path any, Glob.language.eq_3 rest path any, List.map_cons,
        List.prod_cons]
      have segment : ∀ w, '\n' ∉ w → (w ∈ GlobToken.segment.regex.language ↔
          w ∈ Glob.segment) := by
        intro w _
        rw [GlobToken.regex, Regex.mem_language_run]
        constructor
        · intro all mem
          exact of_decide_eq_true (all '/' mem) rfl
        · intro none c mem
          exact decide_eq_true fun same => none (same ▸ mem)
      exact mem_mul_congr parts segment (fun _ => ih) single
  | case4 rest ih =>
      rw [translate, Glob.language, List.map_cons, List.prod_cons]
      have one : ∀ w, '\n' ∉ w → (w ∈ GlobToken.one.regex.language ↔ w ∈ Glob.one) := by
        intro w _
        simp only [GlobToken.regex, Regex.mem_language_one, decide_eq_true_eq]
        rfl
      exact mem_mul_congr parts one (fun _ => ih) single
  | case5 c rest path any segment one ih =>
      rw [translate.eq_5 c rest path any segment one, Glob.language.eq_5 c rest path any segment one,
        List.map_cons, List.prod_cons]
      have same : ∀ w, '\n' ∉ w → (w ∈ (GlobToken.literal c).regex.language ↔
          w ∈ Glob.literal c) := by
        intro w _
        simp only [GlobToken.regex, Regex.mem_language_one, decide_eq_true_eq, exists_eq_left]
        rfl
      exact mem_mul_congr parts same (fun _ => ih) single
  | case6 => exact Iff.rfl

/-- A path on one line is matched if its normal form is one the glob stands for. -/
theorem globMatches_iff (single : '\n' ∉ cs) :
    globMatches pattern cs = true ↔ cs ∈ Glob.language pattern := by
  rw [globMatches, List.any_eq_true, ← mem_language_tokens single]
  constructor
  · rintro ⟨left, mem, last⟩
    obtain ⟨w, word, rfl⟩ := mem_globRests.mp mem
    rcases of_decide_eq_true last with rfl | rfl
    · rwa [List.append_nil]
    · exact absurd (List.mem_append_right w List.mem_cons_self) single
  · intro word
    exact ⟨[], mem_globRests.mpr ⟨cs, word, (List.append_nil cs).symm⟩, rfl⟩

theorem normalise_single (single : '\n' ∉ cs) : '\n' ∉ normalise cs := by
  have none : '\n' ∉ cs.map fun c => if c = '\\' then '/' else c := by
    intro mem
    obtain ⟨c, known, turned⟩ := List.mem_map.mp mem
    split at turned
    · exact absurd turned (by decide)
    · exact single (turned ▸ known)
  rw [normalise]
  split
  next rest split =>
    rw [split] at none
    exact fun mem => none (List.mem_cons_of_mem _ (List.mem_cons_of_mem _ mem))
  · exact none

/-! ## One star, and two -/

theorem getLast?_tail {c d : Char} {front : List Char} (last : (c :: front).getLast? ≠ some d) :
    front.getLast? ≠ some d := by
  intro same
  rw [List.getLast?_cons, same] at last
  exact last rfl

theorem head_of_append {c : Char} {front tail : List Char} (some : front ≠ [])
    (split : front ++ rest = c :: tail) : ∃ front', front = c :: front' := by
  cases front with
  | nil => exact absurd rfl some
  | cons d front' => exact ⟨front', by rw [(List.cons.inj split).1]⟩

/-- What is read up to a place at which no star stands does not depend on what follows. -/
theorem language_append {front : List Char} (last : front.getLast? ≠ some '*') :
    Glob.language (front ++ rest) = Glob.language front * Glob.language rest := by
  induction front using Glob.language.induct with
  | case1 front ih =>
      have inner := ih (getLast?_tail (getLast?_tail (getLast?_tail last)))
      rw [List.cons_append, List.cons_append, List.cons_append, Glob.language, Glob.language, inner,
        mul_assoc]
  | case2 front other ih =>
      have inner := getLast?_tail (getLast?_tail last)
      have some : front ≠ [] := by
        rintro rfl
        exact last rfl
      have other' : ∀ tail, front ++ rest = '/' :: tail → False := by
        intro tail split
        obtain ⟨front', same⟩ := head_of_append some split
        exact other front' same
      rw [List.cons_append, List.cons_append, Glob.language.eq_2 _ other',
        Glob.language.eq_2 _ other, ih inner, mul_assoc]
  | case3 front path any ih =>
      have some : front ≠ [] := by
        rintro rfl
        exact last rfl
      have any' : ∀ tail, front ++ rest = '*' :: tail → False := by
        intro tail split
        obtain ⟨front', same⟩ := head_of_append some split
        exact any front' same
      rw [List.cons_append, Glob.language.eq_3 _ (fun _ => any' _) any',
        Glob.language.eq_3 _ path any, ih (getLast?_tail last), mul_assoc]
  | case4 front ih =>
      rw [List.cons_append, Glob.language, Glob.language, ih (getLast?_tail last), mul_assoc]
  | case5 c front path any segment one ih =>
      rw [List.cons_append, Glob.language.eq_5 c _ (fun _ star _ => segment star)
        (fun _ star _ => segment star) segment one,
        Glob.language.eq_5 c front path any segment one, ih (getLast?_tail last), mul_assoc]
  | case6 => exact (one_mul _).symm

/-- A star that stands alone reads nothing beyond a separator, whatever stands around it. -/
theorem language_star {front back : List Char} (before : front.getLast? ≠ some '*')
    (after : back.head? ≠ some '*') : Glob.language (front ++ '*' :: back) =
      Glob.language front * Glob.segment * Glob.language back := by
  have alone : ∀ tail, back = '*' :: tail → False := by
    rintro tail rfl
    exact after rfl
  rw [language_append before, Glob.language.eq_3 back (fun _ => alone _) alone, mul_assoc]

/-- Past the first factor, what is left is below what is left of the path. -/
theorem below_mul {first : Language Char} {dir above below : List Char}
    (mem : above ∈ first * Glob.language dir)
    (inner : ∀ {above}, above ∈ Glob.language dir →
      above ++ '/' :: below ∈ Glob.language (dir ++ ['/', '*', '*'])) :
    above ++ '/' :: below ∈ first * Glob.language (dir ++ ['/', '*', '*']) := by
  obtain ⟨u, here, v, there, rfl⟩ := Language.mem_mul.mp mem
  rw [List.append_assoc]
  exact Language.append_mem_mul here (inner there)

theorem mem_language_below {dir above below : List Char} (mem : above ∈ Glob.language dir) :
    above ++ '/' :: below ∈ Glob.language (dir ++ "/**".toList) := by
  have all : below ∈ Glob.language ['*', '*'] :=
    Language.mem_mul.mpr ⟨below, trivial, [], rfl, List.append_nil below⟩
  rw [String.toList_ofList]
  induction dir using Glob.language.induct generalizing above with
  | case1 dir ih =>
      rw [Glob.language] at mem
      exact below_mul mem ih
  | case2 dir other ih =>
      rw [Glob.language.eq_2 dir other] at mem
      cases dir with
      | nil =>
          -- The two stars and the separator make one token.
          refine Language.mem_mul.mpr ⟨above ++ ['/'], .inr ⟨above, rfl⟩, below, all, ?_⟩
          exact List.append_assoc ..
      | cons c dir =>
          have other' : ∀ tail, c :: dir ++ ['/', '*', '*'] = '/' :: tail → False := by
            intro tail split
            exact other dir (by rw [(List.cons.inj split).1])
          rw [List.cons_append, List.cons_append, Glob.language.eq_2 _ other']
          exact below_mul mem ih
  | case3 dir path any ih =>
      rw [Glob.language.eq_3 dir path any] at mem
      have any' : ∀ tail, dir ++ ['/', '*', '*'] = '*' :: tail → False := by
        intro tail split
        cases dir with
        | nil => exact absurd (List.cons.inj split).1 (by decide)
        | cons c dir => exact any dir (by rw [(List.cons.inj split).1])
      rw [List.cons_append, Glob.language.eq_3 _ (fun _ => any' _) any']
      exact below_mul mem ih
  | case4 dir ih =>
      rw [Glob.language] at mem
      exact below_mul mem ih
  | case5 c dir path any segment one ih =>
      rw [Glob.language.eq_5 c dir path any segment one] at mem
      rw [List.cons_append, Glob.language.eq_5 c _ (fun _ star _ => segment star)
        (fun _ star _ => segment star) segment one]
      exact below_mul mem ih
  | case6 =>
      rw [(Language.mem_one above).mp mem]
      exact Language.mem_mul.mpr ⟨['/'], rfl, below, all, rfl⟩

/-- A path on one line is matched exactly if the glob stands for its normal form. A star alone
reads nothing beyond a separator, and two after a directory read all that is below it. -/
theorem translate_refines :
    (∀ pattern path : List Char, '\n' ∉ path →
      ∃ found, translatedMatch pattern (normalise path) = some found ∧
        (found = true ↔ normalise path ∈ Glob.language pattern)) ∧
    (∀ front back path : List Char, '\n' ∉ path → front.getLast? ≠ some '*' →
      back.head? ≠ some '*' →
      (translatedMatch (front ++ '*' :: back) (normalise path) = some true ↔
        ∃ u v w, normalise path = u ++ v ++ w ∧ u ∈ Glob.language front ∧ '/' ∉ v ∧
          w ∈ Glob.language back)) ∧
    ∀ dir path above below : List Char, '\n' ∉ path → normalise path = above ++ '/' :: below →
      above ∈ Glob.language dir →
      translatedMatch (dir ++ "/**".toList) (normalise path) = some true := by
  refine ⟨?_, ?_, ?_⟩
  · intro pattern path single
    exact ⟨_, translatedMatch_eq pattern _, globMatches_iff (normalise_single single)⟩
  · intro front back path single before after
    rw [translatedMatch_eq, Option.some_inj, globMatches_iff (normalise_single single),
      language_star before after]
    constructor
    · intro mem
      obtain ⟨x, left, w, right, split⟩ := Language.mem_mul.mp mem
      obtain ⟨u, first, v, middle, rfl⟩ := Language.mem_mul.mp left
      exact ⟨u, v, w, split.symm, first, middle, right⟩
    · rintro ⟨u, v, w, split, first, middle, right⟩
      rw [split]
      exact Language.append_mem_mul (Language.append_mem_mul first middle) right
  · intro dir path above below single split mem
    rw [translatedMatch_eq, Option.some_inj, globMatches_iff (normalise_single single), split]
    exact mem_language_below mem

theorem translate_refines_src :
    (∃ found, translatedMatch "src/**".toList (normalise "./src/a/b.py".toList) = some found ∧
      (found = true ↔ normalise "./src/a/b.py".toList ∈ Glob.language "src/**".toList)) ∧
    (translatedMatch ("src/".toList ++ '*' :: ".py".toList) (normalise "src/a/b.py".toList) =
      some true ↔ ∃ u v w, normalise "src/a/b.py".toList = u ++ v ++ w ∧
        u ∈ Glob.language "src/".toList ∧ '/' ∉ v ∧ w ∈ Glob.language ".py".toList) ∧
    translatedMatch ("src".toList ++ "/**".toList) (normalise "./src/a/b.py".toList) = some true :=
  ⟨translate_refines.1 _ _ (by decide),
    translate_refines.2.1 _ _ _ (by decide) (by decide) (by decide),
    translate_refines.2.2 "src".toList _ "src".toList "a/b.py".toList (by decide) (by decide)
      ((globMatches_iff (by decide)).mp (by decide))⟩

end KuWarden
