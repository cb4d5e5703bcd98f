import KuWarden.Nodes.Base
import KuWarden.Python.Lines
import KuWarden.Python.OrderedDict
import KuWarden.Search.Rounds
import Mathlib.Data.Finset.Sort
import Mathlib.Data.String.Basic

/-!
The one way a repository is rendered into a prompt, and which of its files a change concerns.
-/
namespace KuWarden.RepoContext

open Python Text Regex Rounds

abbrev Files := OrderedDict String Bytes

/-- `body.decode("utf-8", "replace")`. -/
def decoded (body : Bytes) : List Char := Lines.decodeFrom none body

/-- `path.rsplit("/", 1)[0] if "/" in path else ""`. -/
def directory (path : String) : String :=
  String.ofList ((path.toList.reverse.dropWhile (· ≠ '/')).drop 1).reverse

/-- `path.rsplit("/", 1)[-1]`. -/
def filename (path : String) : String :=
  String.ofList (path.toList.reverse.takeWhile (· ≠ '/')).reverse

/-! ## Imports -/

section Imports

variable (letters : Letters)

/-- `["']`. -/
def quoteMark : Regex := .one fun c => c = '"' || c = '\''

def spaces : Regex := .many (.one isSpace)

/-- `^`, where every line begins. -/
def lineStart : Regex := .look fun before _ => before.head?.all (· = '\n')

/-- Module specifiers, as written in source. -/
def specifierPattern : Regex := alts [
  seqs [alts [literal "from", literal "import", literal "require"], spaces, (literal "(").opt,
    spaces, quoteMark, .group 1 (.plus (.one fun c => c ≠ '"' && c ≠ '\'')), quoteMark],
  seqs [lineStart, spaces, literal "from", .plus (.one isSpace),
    .group 2 (.plus (.one fun c => TestEvidence.isWord letters c || c = '.')), .plus (.one isSpace),
    literal "import", .one isSpace]]

/-- Every module specifier this file references, as written. -/
def importsOf (body : Bytes) : List String :=
  (findall (specifierPattern letters) (decoded body)).filterMap fun found =>
    nonEmpty (((found.group 1).or (found.group 2)).map String.ofList)

end Imports

/-- The parts of a path, a `..` taking back the one before it. -/
def collapse : List (List Char) → List (List Char) → List (List Char)
  | stack, [] => stack.reverse
  | stack, part :: parts =>
      if part = ['.', '.'] then collapse stack.tail parts else collapse (part :: stack) parts

/-- What a specifier names in the repository, short of an extension. -/
def stem (specifier source : String) : String :=
  if startsWith "@/" specifier then String.ofList (specifier.toList.drop 2)
  else if startsWith "." specifier then
    let parts := (splitChars '/' (directory source ++ "/" ++ specifier).toList).filter fun part =>
      part ≠ [] ∧ part ≠ ['.']
    join "/" ((collapse [] parts).map String.ofList)
  else if occurs "." specifier && !occurs "/" specifier then
    String.ofList (specifier.toList.map fun c => if c = '.' then '/' else c)
  else specifier

def candidates (stem : String) : List String :=
  stem :: [".ts", ".tsx", ".js", ".jsx", ".mjs", ".css", ".py"].map (stem ++ ·) ++
    [".ts", ".tsx", ".js", ".jsx"].map (stem ++ "/index" ++ ·)

/-- Turn a specifier into a repository path, or `none` if it names a package. -/
def resolve (specifier source : String) (known : Finset String) : Option String :=
  (candidates (stem specifier source)).find? (· ∈ known)

/-! ## Rendering -/

/-- Machine-generated dependency manifests. -/
def generatedFiles : List String := [
  "package-lock.json", "pnpm-lock.yaml", "yarn.lock", "bun.lockb", "uv.lock", "poetry.lock",
  "Cargo.lock", "composer.lock", "Gemfile.lock", "go.sum"]

/-- Whether this file's contents belong in a prompt, as opposed to only its name. -/
def isInlinable (path : String) (body : Bytes) : Bool :=
  !(body.take 1024).contains 0 && !generatedFiles.contains (filename path)

/-- Why the contents of some files are not shown. -/
def withholding (withheld unreadable : Nat) : List String :=
  if withheld = 0 ∧ unreadable = 0 then []
  else
    let reasons :=
      (if withheld = 0 then [] else [ofNat withheld ++ " were not selected for this request — " ++
        "say so in `reasoning` if you need one and it will be provided"]) ++
      (if unreadable = 0 then [] else [ofNat unreadable ++
        " are binary or machine-generated (do not edit a lockfile)"])
    ["<note>Every file in the repository is listed above. Contents are shown for the " ++
      "selected ones only: " ++ join "; " reasons ++ ". Never assume a listed file is empty " ++
      "or irrelevant because its contents are absent.</note>"]

/-- The repository as prompt text, plus counts for the audit record. The listing is complete,
whatever is selected. -/
def render (files : Files) (tag : String) (selected : Option (List String)) : String × Assembly :=
  let bodies := files.entries.insertionSort fun file other => file.1 ≤ other.1
  let readable := bodies.filter fun (path, body) => isInlinable path body
  let shown := readable.filter fun file => selected.all fun selected => selected.contains file.1
  let unreadable := bodies.length - readable.length
  let withheld := readable.length - shown.length
  let listing := "<" ++ tag ++ "_listing>\n" ++ join "\n" (bodies.map Prod.fst) ++ "\n</" ++ tag ++
    "_listing>"
  let contents := shown.map fun (path, body) =>
    "<file path=" ++ Text.repr path ++ ">\n" ++ String.ofList (decoded body) ++ "\n</file>"
  (join "\n\n" (listing :: contents ++ withholding withheld unreadable), {
    listed := files.length
    shown := shown.length
    withheld := withheld
    omitted := unreadable
    bytesUsed := (shown.map fun file => file.2.length).sum })

/-! ## Neighbourhoods -/

section Neighbourhoods

variable (letters : Letters) (files : Files)

/-- `set(files)`. -/
def known : Finset String := (files.entries.map Prod.fst).toFinset

/-- The files that what `path` says of its imports leads to. -/
def targets (path : String) (body : Bytes) : Finset String :=
  ((importsOf letters body).filterMap (resolve · path (known files))).toFinset

/-- The same, by its path. Every path that is followed is known. -/
def next (path : String) : Finset String := (files.get? path).elim ∅ (targets letters files path)

def maxDepth : Int := 2

/-- `seeds` plus what they import, transitively, bounded by `depth`. -/
def closure (seeds : List String) (depth : Int) : Finset String :=
  let chosen := seeds.toFinset ∩ known files
  search (next letters files) depth.toNat chosen chosen

/-- Every file that imports one of `targets`. -/
def dependents (wanted : List String) : Finset String :=
  let wanted := wanted.toFinset ∩ known files
  ((files.entries.filter fun (path, body) =>
    path ∉ wanted ∧ ∃ target ∈ targets letters files path body, target ∈ wanted).map
      Prod.fst).toFinset

/-- `p` imports `q`. -/
def Edge (p q : String) : Prop :=
  ∃ body, files.get? p = some body ∧
    ∃ specifier ∈ importsOf letters body, resolve specifier p (known files) = some q

end Neighbourhoods

variable {letters : Letters} {files : Files} {p q : String}

theorem mem_known : p ∈ known files ↔ ∃ body, files.get? p = some body := by
  simp [known, OrderedDict.get?_eq_some]

theorem resolve_known {specifier source : String} {known : Finset String}
    (found : resolve specifier source known = some q) : q ∈ known := by
  simpa using List.find?_some (show (candidates _).find? _ = some q from found)

theorem mem_targets {body : Bytes} : q ∈ targets letters files p body ↔
    ∃ specifier ∈ importsOf letters body, resolve specifier p (known files) = some q := by
  simp [targets]

theorem edge_iff : Edge letters files p q ↔ q ∈ next letters files p := by
  unfold next
  constructor
  · rintro ⟨body, stored, imports⟩
    rw [stored]
    exact mem_targets.mpr imports
  · intro leads
    cases stored : files.get? p with
    | none =>
        rw [stored] at leads
        exact absurd leads (Finset.notMem_empty q)
    | some body =>
        rw [stored] at leads
        exact ⟨body, stored, mem_targets.mp leads⟩

theorem Edge.known (edge : Edge letters files p q) : p ∈ known files ∧ q ∈ known files := by
  obtain ⟨body, stored, specifier, -, found⟩ := edge
  exact ⟨mem_known.mpr ⟨body, stored⟩, resolve_known found⟩

/-- The closure is what the known seeds reach by at most `depth` edges. -/
theorem mem_closure {seeds : List String} {depth : Int} : q ∈ closure letters files seeds depth ↔
    Within (Edge letters files) (fun s => s ∈ seeds ∧ s ∈ known files) depth.toNat q := by
  have edges : Edge letters files = fun x y => y ∈ next letters files x := by
    funext x y
    exact propext edge_iff
  have starts : (· ∈ seeds.toFinset ∩ known files) = fun s => s ∈ seeds ∧ s ∈ known files := by
    funext s
    simp
  rw [closure, mem_search_self, edges, starts]

theorem mem_dependents {wanted : List String} : q ∈ dependents letters files wanted ↔
    q ∈ known files ∧ ¬ (q ∈ wanted ∧ q ∈ known files) ∧
      ∃ t, (t ∈ wanted ∧ t ∈ known files) ∧ Edge letters files q t := by
  unfold dependents
  dsimp only
  rw [List.mem_toFinset, List.mem_map]
  constructor
  · rintro ⟨⟨path, body⟩, mem, rfl⟩
    obtain ⟨entry, holds⟩ := List.mem_filter.mp mem
    obtain ⟨outside, t, leads, among⟩ := of_decide_eq_true holds
    have stored := OrderedDict.get?_eq_some.mpr entry
    rw [Finset.mem_inter, List.mem_toFinset] at outside among
    exact ⟨mem_known.mpr ⟨body, stored⟩, outside, t, among, body, stored, mem_targets.mp leads⟩
  · rintro ⟨-, outside, t, among, body, stored, imports⟩
    refine ⟨(q, body), List.mem_filter.mpr ⟨OrderedDict.get?_eq_some.mp stored, ?_⟩, rfl⟩
    refine decide_eq_true ⟨?_, t, mem_targets.mpr imports, ?_⟩
    · rwa [Finset.mem_inter, List.mem_toFinset]
    · rwa [Finset.mem_inter, List.mem_toFinset]

theorem closure_mono {seeds seeds' : List String} {depth depth' : Int} (more : seeds ⊆ seeds')
    (deeper : depth ≤ depth') :
    closure letters files seeds depth ⊆ closure letters files seeds' depth' := by
  intro q mem
  exact mem_closure.mpr ((mem_closure.mp mem).mono (fun s begins => ⟨more begins.1, begins.2⟩)
    (Int.toNat_le_toNat deeper))

theorem dependent_iff {t : String} (outside : p ≠ t) :
    p ∈ dependents letters files [t] ↔ t ∈ closure letters files [p] 1 := by
  rw [mem_dependents, mem_closure, show (1 : Int).toNat = 0 + 1 from rfl, within_succ, within_zero]
  simp only [List.mem_singleton]
  constructor
  · rintro ⟨there, -, target, ⟨rfl, -⟩, edge⟩
    exact .inr ⟨p, ⟨rfl, there⟩, edge⟩
  · rintro (⟨same, -⟩ | ⟨source, ⟨rfl, there⟩, edge⟩)
    · exact absurd same.symm outside
    · exact ⟨there, fun both => outside both.1, t, ⟨rfl, edge.known.2⟩, edge⟩

/-! ## What the nodes call -/

/-- A dictionary by its items, of which the last under a key counts. -/
def dict {α : Type} (items : List (String × α)) : OrderedDict String α :=
  items.foldl (fun d item => d.insert item.1 item.2) .empty

def reading (letters : Letters) : Reading where
  closure files seeds := (closure letters (dict files) seeds maxDepth).sort (· ≤ ·)
  dependents files wanted := (dependents letters (dict files) wanted).sort (· ≤ ·)
  render files selected := render (dict files) "repository" (some selected)
  evaluate before edits := TestEvidence.evaluate letters
    (before.map fun file => (file.1, String.ofList (decoded file.2)))
    (dict (edits.map fun edit => (edit.path, edit.content))).entries TestEvidence.defaultChurnRatio

theorem mem_reading_closure {items : List (String × Bytes)} {seeds : List String} :
    q ∈ (reading letters).closure items seeds ↔
      q ∈ closure letters (dict items) seeds maxDepth := by
  show q ∈ (closure letters (dict items) seeds maxDepth).sort (· ≤ ·) ↔ _
  exact Finset.mem_sort _

theorem mem_reading_dependents {items : List (String × Bytes)} {wanted : List String} :
    q ∈ (reading letters).dependents items wanted ↔
      q ∈ dependents letters (dict items) wanted := by
  show q ∈ (dependents letters (dict items) wanted).sort (· ≤ ·) ↔ _
  exact Finset.mem_sort _

/-- The neighbourhoods of a change, by the imports of its files, and those that the nodes are
given: of two steps, and of one step back. -/
theorem neighbourhoods_exact (letters : Letters) (files : Files) :
    (∀ seeds depth q, q ∈ closure letters files seeds depth ↔
      Within (Edge letters files) (fun s => s ∈ seeds ∧ s ∈ known files) depth.toNat q) ∧
    (∀ wanted q, q ∈ dependents letters files wanted ↔
      q ∈ known files ∧ ¬ (q ∈ wanted ∧ q ∈ known files) ∧
        ∃ t, (t ∈ wanted ∧ t ∈ known files) ∧ Edge letters files q t) ∧
    (∀ seeds seeds' depth depth', seeds ⊆ seeds' → depth ≤ depth' →
      closure letters files seeds depth ⊆ closure letters files seeds' depth') ∧
    (∀ p t, p ≠ t → (p ∈ dependents letters files [t] ↔ t ∈ closure letters files [p] 1)) ∧
    (∀ items seeds q, q ∈ (reading letters).closure items seeds ↔
      Within (Edge letters (dict items)) (fun s => s ∈ seeds ∧ s ∈ known (dict items)) 2 q) ∧
    ∀ items wanted q, q ∈ (reading letters).dependents items wanted ↔
      q ∈ known (dict items) ∧ ¬ (q ∈ wanted ∧ q ∈ known (dict items)) ∧
        ∃ t, (t ∈ wanted ∧ t ∈ known (dict items)) ∧ Edge letters (dict items) q t :=
  ⟨fun _ _ _ => mem_closure, fun _ _ => mem_dependents, fun _ _ _ _ => closure_mono,
    fun _ _ => dependent_iff, fun _ _ _ => mem_reading_closure.trans mem_closure,
    fun _ _ _ => mem_reading_dependents.trans mem_dependents⟩

end KuWarden.RepoContext
