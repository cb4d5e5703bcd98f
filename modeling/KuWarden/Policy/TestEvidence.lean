import KuWarden.Policy.Pricing
import KuWarden.Python.Letters
import KuWarden.Python.Regex
import KuWarden.Python.Text

/-!
Did the change earn its green suite, or was the suite made easier?
-/
namespace KuWarden

/-- Counts over the diff, and the findings they support. -/
structure TestEvidence where
  assertionsBefore : Nat := 0
  assertionsAfter : Nat := 0
  skipsAdded : Nat := 0
  testLinesChanged : Nat := 0
  sourceLinesChanged : Nat := 0
  findings : List String := []

def TestEvidence.assertionsRemoved (e : TestEvidence) : Nat :=
  e.assertionsBefore - e.assertionsAfter

namespace TestEvidence

open Text Regex

/-! ## Patterns -/

/-- `[^/]`. -/
def unslashed : Regex := .one (· ≠ '/')

/-- `[a-z]`, in either case: four letters besides those of ASCII fold into it. -/
def letterFolded : Regex :=
  .one fun c => c.isAlpha || c = '\u0130' || c = '\u0131' || c = '\u017f' || c = '\u212a'

/-- A literal in either case; `s` is folded from a long s too. -/
def folded (text : String) : Regex :=
  seqs (text.toList.map fun c =>
    .one fun d => d.toLower = c || (c = 's' && d = '\u017f'))

/-- `$`: at the end, or before a newline that ends the text. -/
def atEnd : Regex := .look fun _ rest => rest = [] || rest = ['\n']

/-- `(^|/)`. -/
def opening : Regex := .alt (.look fun before _ => before.isEmpty) (literal "/")

def testPath : Regex :=
  let spelled := alts [folded "test", folded "spec"]
  alts [
    seqs [opening, alts [.seq (folded "test") (folded "s").opt, folded "spec", folded "__tests__"],
      literal "/"],
    seqs [opening, folded "test_", .many unslashed, atEnd],
    seqs [.many unslashed, literal "_", spelled, literal ".", letterFolded.plus, atEnd],
    seqs [.many unslashed, literal ".", spelled, literal ".", letterFolded.plus, atEnd]]

variable (letters : Letters)

/-- `\w`. -/
def isWord (c : Char) : Bool := letters.isalnum c || c = '_'

/-- `\b`. -/
def boundary : Regex := .look fun before rest =>
  before.head?.any (isWord letters) != rest.head?.any (isWord letters)

/-- One pattern per family of languages. -/
def assertion : Regex :=
  let b := boundary letters
  alts [
    seqs [b, literal "assert", b],
    seqs [b, literal "assertThat", b],
    seqs [b, literal "assert", .one Char.isUpper, .many (.one (isWord letters)), literal "("],
    seqs [b, literal "expect", .many (.one isSpace), literal "("],
    seqs [b, literal "should", b, literal "."],
    seqs [b, literal "t.", .group 1 (alts [literal "Error", literal "Fatal", literal "Errorf",
      literal "Fatalf"]), b]]

def skip : Regex :=
  let b := boundary letters
  alts [
    literal "@pytest.mark.skip", literal "@unittest.skip", literal "pytest.skip(",
    seqs [b, .group 1 (alts [literal "it", literal "test", literal "describe"]), literal ".skip", b],
    seqs [b, literal "xit", b],
    seqs [b, literal "xdescribe", b],
    seqs [literal "@Ignore", b], literal "[Ignore]",
    seqs [b, literal "t.Skip("]]

/-! ## Counting -/

/-- Matches outside comments. -/
def count (text : String) (pattern : Regex) : Nat :=
  ((splitLines text.toList).map fun line =>
    let stripped := strip (String.ofList line)
    if startsWith "#" stripped || startsWith "//" stripped || startsWith "*" stripped ||
        startsWith "/*" stripped then 0
    else (findall pattern line).length).sum

abbrev Texts := List (String × String)

/-- `before.get(path, "")`. -/
def Texts.get (before : Texts) (path : String) : String := (before.lookup path).getD ""

/-- By how many lines the text of a file is longer or shorter. -/
def changed (before : Texts) (path text : String) : Nat :=
  ((lineCount text : Int) - lineCount (before.get path)).natAbs

/-- What one file adds to the counts. -/
def compare (before : Texts) (tally : TestEvidence) (file : String × String) : TestEvidence :=
  let (path, newText) := file
  let oldText := before.get path
  let changed := changed before path newText
  if testPath.search path then
    let added := (count newText (skip letters) : Int) - count oldText (skip letters)
    { tally with
      testLinesChanged := tally.testLinesChanged + changed
      assertionsBefore := tally.assertionsBefore + count oldText (assertion letters)
      assertionsAfter := tally.assertionsAfter + count newText (assertion letters)
      skipsAdded := tally.skipsAdded + added.toNat
      findings := tally.findings ++
        if added > 0 then [path ++ ": " ++ ofInt added ++ " test(s) newly skipped"] else [] }
  else { tally with sourceLinesChanged := tally.sourceLinesChanged + changed }

/-- What the totals give occasion to say. -/
def conclude (churnRatio : ℚ) (tally : TestEvidence) : List String :=
  let removed := tally.assertionsRemoved
  let testLines := tally.testLinesChanged
  let sourceLines := tally.sourceLinesChanged
  (if removed ≠ 0 then
    [ofNat removed ++ " assertion(s) removed across the test files this change touched (" ++
      ofNat tally.assertionsBefore ++ " before, " ++ ofNat tally.assertionsAfter ++ " after)"]
  else []) ++
  -- Only when there is source churn to compare against.
  if sourceLines ≠ 0 ∧ toDouble (toDouble sourceLines * churnRatio) < testLines then
    ["test churn is " ++ fixed 1 (toDouble ((testLines : ℚ) / sourceLines)) ++
      "x source churn (" ++ ofNat testLines ++ " test lines against " ++ ofNat sourceLines ++
      " source lines); a change that rewrites the measurement more than the thing measured is " ++
      "worth reading closely"]
  else []

/-- The default of `churn_ratio`. -/
def defaultChurnRatio : ℚ := 4

/-- Compare the tests as they were with the tests as they are. -/
def evaluate (before after : Texts) (churnRatio : ℚ) : TestEvidence :=
  let tally := after.foldl (compare letters before) {}
  { tally with findings := tally.findings ++ conclude churnRatio tally }

/-! ## What the counts of lines show -/

variable {letters : Letters} {before after : Texts} {churnRatio : ℚ}

/-- The files of `after` that are tests, or those that are not. -/
def files (test : Bool) (after : Texts) : Texts :=
  after.filter fun file => testPath.search file.1 = test

/-- The lines a file of `after` had before, and those it has. -/
def Kept (before : Texts) (file : String × String) : Prop :=
  splitLines file.2.toList = splitLines (before.get file.1).toList

/-- Where no line counts as changed in the tests, or outside them, none is. -/
structure Separates (before after : Texts) (evidence : TestEvidence) : Prop where
  tests : evidence.testLinesChanged = 0 → ∀ file ∈ files true after, Kept before file
  sources : evidence.sourceLinesChanged = 0 → ∀ file ∈ files false after, Kept before file

/-- Some file has grown or shrunk, or they all have the lines they had. -/
def Shows (before : Texts) (files : Texts) : Prop :=
  (∃ file ∈ files, lineCount file.2 ≠ lineCount (before.get file.1)) ∨
    ∀ file ∈ files, Kept before file

/-- How much longer or shorter the files have become. -/
def churn (before : Texts) (files : Texts) : Nat :=
  (files.map fun file => changed before file.1 file.2).sum

theorem compare_lines (letters : Letters) (before : Texts) (tally : TestEvidence) (file : String × String) :
    (compare letters before tally file).testLinesChanged =
        tally.testLinesChanged + churn before (files true [file]) ∧
      (compare letters before tally file).sourceLinesChanged =
        tally.sourceLinesChanged + churn before (files false [file]) := by
  unfold compare churn files
  cases test : testPath.search file.1 <;> simp [test]

theorem churn_append (files files' : Texts) :
    churn before (files ++ files') = churn before files + churn before files' := by
  rw [churn, List.map_append, List.sum_append, churn, churn]

theorem churn_files_cons (test : Bool) (file : String × String) (rest : Texts) :
    churn before (files test (file :: rest)) =
      churn before (files test [file]) + churn before (files test rest) := by
  rw [← churn_append, files, files, files, ← List.filter_append, List.singleton_append]

theorem foldl_lines (letters : Letters) (before after : Texts) (tally : TestEvidence) :
    (after.foldl (compare letters before) tally).testLinesChanged =
        tally.testLinesChanged + churn before (files true after) ∧
      (after.foldl (compare letters before) tally).sourceLinesChanged =
        tally.sourceLinesChanged + churn before (files false after) := by
  induction after generalizing tally with
  | nil => exact ⟨rfl, rfl⟩
  | cons file rest ih =>
      obtain ⟨tests, sources⟩ := compare_lines letters before tally file
      obtain ⟨tests', sources'⟩ := ih (compare letters before tally file)
      rw [List.foldl_cons, tests', sources', tests, sources,
        churn_files_cons true file rest, churn_files_cons false file rest]
      exact ⟨Nat.add_assoc .., Nat.add_assoc ..⟩

theorem churn_eq_zero {files : Texts} : churn before files = 0 ↔
    ∀ file ∈ files, lineCount file.2 = lineCount (before.get file.1) := by
  rw [churn, List.sum_eq_zero_iff_forall_eq_nat, List.forall_mem_map]
  refine forall₂_congr fun file _ => ?_
  rw [changed, Int.natAbs_eq_zero, Int.sub_eq_zero, Int.ofNat_inj]

theorem shows_iff {files : Texts} : Shows before files ↔
    (churn before files = 0 → ∀ file ∈ files, Kept before file) := by
  rw [churn_eq_zero, Shows, or_iff_not_imp_left]
  simp only [not_exists, not_and, not_not]

/-- The counts separate what is changed from what is not if and only if, in the tests and
outside them, a change shows in the number of lines of some file. -/
theorem separates_iff : Separates before after (evaluate letters before after churnRatio) ↔
    Shows before (files true after) ∧ Shows before (files false after) := by
  obtain ⟨tests, sources⟩ := foldl_lines letters before after {}
  have tests : (evaluate letters before after churnRatio).testLinesChanged =
    churn before (files true after) := by rw [evaluate, tests, Nat.zero_add]
  have sources : (evaluate letters before after churnRatio).sourceLinesChanged =
    churn before (files false after) := by rw [evaluate, sources, Nat.zero_add]
  rw [shows_iff, shows_iff]
  constructor
  · rintro ⟨kept, kept'⟩
    rw [tests] at kept
    rw [sources] at kept'
    exact ⟨kept, kept'⟩
  · rintro ⟨kept, kept'⟩
    exact ⟨by rwa [tests], by rwa [sources]⟩

def assertedTwo : Texts := [("tests/test_a.py", "assert f(1) == 2\n"), ("a.py", "x = 1\n")]

def assertedThree : Texts := [("tests/test_a.py", "assert f(1) == 3\n"), ("a.py", "x = 1\ny = 2\n")]

/-- An assertion is rewritten in its place, and no line of a test counts as changed. -/
theorem rewrite_unseen :
    ¬ Separates assertedTwo assertedThree
        (evaluate Letters.basic assertedTwo assertedThree defaultChurnRatio) ∧
      (evaluate Letters.basic assertedTwo assertedThree defaultChurnRatio).findings = [] := by
  refine ⟨fun separates => ?_, by decide +kernel⟩
  have kept := separates.tests (by decide +kernel) ("tests/test_a.py", "assert f(1) == 3\n")
    (by decide +kernel)
  revert kept
  unfold Kept
  decide +kernel

end TestEvidence
end KuWarden
