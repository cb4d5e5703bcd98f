import KuWarden.Adapters.Trees

/-!
What is read of a commit while others add objects and move branches.
-/
namespace KuWarden.GitHub

open Process DataApi

variable {builder : TreeBuilder} {w w₁ : Repository} {p : Push} {bounds : TreeLimits}
  {entries : List ListedEntry} {files : List (String × Bytes)}

/-- A file is what an entry names, and no larger than is allowed. -/
structure Held (w : Repository) (bounds : TreeLimits) (entry : ListedEntry)
    (file : String × Bytes) : Prop where
  path : file.1 = entry.path
  stored : w.blobs entry.sha = some file.2
  small : entry.size ≤ bounds.maxFileBytes

theorem check_file_size_ok {path : String} {size : Nat}
    (ok : checkFileSize path size bounds = .ok ()) : size ≤ bounds.maxFileBytes := by
  unfold checkFileSize at ok
  split at ok
  · cases ok
  next within => exact Nat.not_lt.mp within

theorem check_file_count_ok {count : Nat} {repo : String}
    (ok : checkFileCount count bounds repo = .ok ()) : count ≤ bounds.maxFiles := by
  unfold checkFileCount at ok
  split at ok
  · cases ok
  next within => exact Nat.not_lt.mp within

/-- A path that is not there yet comes last. -/
theorem put_new {path : String} {content : Bytes} (new : path ∉ files.map Prod.fst) :
    BuildTest.put files path content = files ++ [(path, content)] := by
  have absent : ¬ (files.lookup path).isSome = true := by
    intro found
    obtain ⟨entry, mem, same⟩ := List.lookup_isSome_iff.mp found
    exact new (eq_of_beq same ▸ List.mem_map_of_mem mem)
  rw [BuildTest.put, if_neg absent]

theorem fetch_does (distinct : (files.map Prod.fst ++ entries.map ListedEntry.path).Nodup) :
    Does builder p (fetch bounds entries files) (fun got w' => ∃ new, got = files ++ new ∧
      List.Forall₂ (Held w' bounds) entries new) w := by
  induction entries generalizing w files with
  | nil => exact does_pure ⟨[], (List.append_nil _).symm, .nil⟩
  | cons entry rest ih =>
      have new : entry.path ∉ files.map Prod.fst := fun mem =>
        (List.nodup_append.mp distinct).2.2 _ mem _ List.mem_cons_self rfl
      refine does_bind (P := fun _ _ => entry.size ≤ bounds.maxFileBytes)
        (does_ofExcept fun _ ok => check_file_size_ok ok) fun _ w₁ _ small => ?_
      refine does_bind (P := fun text w' => ∃ content, w'.blobs entry.sha = some content ∧
        Base64.b64decode text = some content) (does_request (fun _ _ => trivial) ?_)
        fun text w₂ _ answered => ?_
      · intro text w₂ w₃ _ effect
        cases effect with
        | getBlob stored decodes => exact ⟨_, stored, decodes⟩
      obtain ⟨content, stored, decodes⟩ := answered
      rw [decoded, decodes]
      refine does_bind (P := fun read _ => content = read)
        (does_ofExcept fun _ same => Except.ok.inj same) ?_
      rintro content w₃ grown rfl
      rw [put_new new]
      refine does_mono (ih (by simpa using distinct)) ?_
      rintro got w₄ later ⟨others, rfl, held⟩
      have first : Held w₄ bounds entry (entry.path, content) :=
        ⟨rfl, later.blobs (grown.blobs stored), small⟩
      exact ⟨(entry.path, content) :: others, by simp, .cons first held⟩

/-! ## The tree of a commit -/

/-- `tree` has every file of `t` that is not excluded, with its content, and is within bounds. -/
structure Whole (w : Repository) (t : FileTree) (commit : String) (bounds : TreeLimits)
    (tree : RepoTree) : Prop where
  commit : tree.commit = commit
  distinct : (tree.files.map Prod.fst).Nodup
  files : ∀ path content, (path, content) ∈ tree.files ↔
    excluded path bounds = false ∧ w.content t path = some content
  few : tree.files.length ≤ bounds.maxFiles
  small : ∀ file ∈ tree.files, file.2.length ≤ bounds.maxFileBytes
  total : totalBytes tree ≤ bounds.maxTotalBytes

/-- The entries whose blobs are fetched. -/
def wanted (listing : Listing) (bounds : TreeLimits) : List ListedEntry :=
  listing.tree.filter fun entry => entry.type = "blob" && !excluded entry.path bounds

theorem mem_wanted {listing : Listing} {entry : ListedEntry} :
    entry ∈ wanted listing bounds ↔
      entry ∈ listing.tree ∧ entry.type = "blob" ∧ excluded entry.path bounds = false := by
  simp [wanted]

theorem paths_of_held (held : List.Forall₂ (Held w bounds) entries files) :
    files.map Prod.fst = entries.map ListedEntry.path := by
  induction held with
  | nil => rfl
  | cons here _ ih => rw [List.map_cons, List.map_cons, here.path, ih]

/-- The files that were fetched of a whole listing are the contents of the tree. -/
theorem files_of_held {t : FileTree} {listing : Listing} (lists : Lists w t listing)
    (held : List.Forall₂ (Held w₁ bounds) (wanted listing bounds) files) (path : String)
    (content : Bytes) : (path, content) ∈ files ↔
      excluded path bounds = false ∧ w₁.content t path = some content := by
  rw [Repository.content_eq_some]
  constructor
  · intro mem
    obtain ⟨entry, among, here⟩ := exists_of_forall₂ held mem
    obtain rfl : path = entry.path := here.path
    obtain ⟨listed, blob, included⟩ := mem_wanted.mp among
    obtain ⟨item, there, type, sha⟩ :=
      (lists.files entry.path entry.sha).mp ⟨entry, listed, rfl, blob, rfl⟩
    exact ⟨included, item, there, type, sha ▸ here.stored⟩
  · rintro ⟨included, item, there, type, stored⟩
    obtain ⟨entry, listed, named, blob, sha⟩ :=
      (lists.files path item.sha).mpr ⟨item, there, type, rfl⟩
    have among : entry ∈ wanted listing bounds :=
      mem_wanted.mpr ⟨listed, blob, by rw [named]; exact included⟩
    obtain ⟨file, mem, here⟩ := exists_of_forall₂ (List.Forall₂.flip held) among
    have same : file = (path, content) := Prod.ext (here.path.trans named)
      (Option.some.inj (here.stored.symm.trans (sha ▸ stored)))
    exact same ▸ mem

/-- What was fetched of a whole listing is the tree. -/
theorem whole_of_held {t : FileTree} {listing : Listing} {commit : String}
    (lists : Lists w t listing) (grown : w.Grows w₁)
    (held : List.Forall₂ (Held w₁ bounds) (wanted listing bounds) files)
    (few : (wanted listing bounds).length ≤ bounds.maxFiles)
    (total : totalBytes ⟨commit, files⟩ ≤ bounds.maxTotalBytes) :
    Whole w₁ t commit bounds ⟨commit, files⟩ where
  commit := rfl
  distinct := by
    rw [paths_of_held held]
    exact lists.distinct.sublist (List.filter_sublist.map _)
  files := files_of_held lists held
  few := held.length_eq ▸ few
  small file mem := by
    obtain ⟨entry, among, here⟩ := exists_of_forall₂ held mem
    obtain ⟨listed, blob, -⟩ := mem_wanted.mp among
    obtain ⟨content, stored, size⟩ := lists.sizes entry listed blob
    have same : content = file.2 :=
      Option.some.inj ((grown.blobs stored).symm.trans here.stored)
    rw [← same, size]
    exact here.small
  total := total

theorem finish_ok {commit repo : String} {tree : RepoTree}
    (ok : finish commit files bounds repo = .ok tree) :
    tree = ⟨commit, files⟩ ∧ totalBytes ⟨commit, files⟩ ≤ bounds.maxTotalBytes := by
  unfold finish at ok
  dsimp only at ok
  split at ok
  · cases ok
  next within =>
    cases ok
    exact ⟨rfl, Nat.not_lt.mp within⟩

theorem read_tree_does {ref : RepoRef} {commit : String} :
    Does builder p (readTree ref commit bounds) (fun tree w' => ∃ stored t,
      w'.commits commit = some stored ∧ w'.trees stored.tree = some t ∧
        Whole w' t commit bounds tree) w := by
  refine does_bind (P := fun _ _ => True) (does_request (fun _ _ => trivial)
    fun _ _ _ _ _ => trivial) fun _ w₁ _ _ => ?_
  refine does_bind (P := fun listing w' => ∃ stored t, w'.commits commit = some stored ∧
    w'.trees stored.tree = some t ∧ (listing.truncated = false → Lists w' t listing))
    (does_request (fun _ _ => trivial) ?_) fun listing w₂ _ answered => ?_
  · intro listing w₂ w₃ _ effect
    cases effect with
    | getTree known there lists => exact ⟨_, _, known, there, lists⟩
  obtain ⟨stored, t, known, there, lists⟩ := answered
  split
  · exact does_raise
  next complete =>
    have lists := lists (by simpa using complete)
    refine does_bind (P := fun _ _ => (wanted listing bounds).length ≤ bounds.maxFiles)
      (does_ofExcept fun _ ok => check_file_count_ok ok) fun _ w₃ grown few => ?_
    have distinct : (([] : List (String × Bytes)).map Prod.fst ++
        (wanted listing bounds).map ListedEntry.path).Nodup :=
      lists.distinct.sublist (List.filter_sublist.map _)
    refine does_bind (fetch_does distinct) fun files w₄ later fetched => ?_
    obtain ⟨_, rfl, held⟩ := fetched
    have grows := grown.trans later
    refine does_ofExcept fun tree ok => ?_
    obtain ⟨rfl, total⟩ := finish_ok ok
    exact ⟨stored, t, grows.commits known, grows.trees there,
      whole_of_held lists grows held few total⟩

/-- Whatever others do meanwhile, a tree is returned only if it is the whole tree of the commit. -/
theorem read_tree_whole {ref : RepoRef} {commit : String} {tree : RepoTree}
    {c : Config Unit Repository ApiOp ApiRep Unit (Except PyError RepoTree)}
    (run : (platform builder).Reaches (.launch (readTree ref commit bounds ()) w []) c)
    (done : c.proc = .done () (.ok tree)) :
    ∃ stored t, c.world.commits commit = some stored ∧ c.world.trees stored.tree = some t ∧
      Whole c.world t commit bounds tree := by
  let none_asked : Push := ⟨⟨"", ""⟩, "", "", [], none⟩
  have sound := wp_sound (read_tree_does (p := none_asked) [] fun op mem => by cases mem) run
  rw [done] at sound
  exact sound.2.2 tree rfl

/-! ## The script, and a file that is excluded -/

/-- A script beside what a build left. -/
def builtTree : FileTree where
  items := [("run.sh", ⟨"100755", "blob", "b0"⟩), ("app/dist/out.js", ⟨"100644", "blob", "b1"⟩)]
  distinct := by decide
  formed := by decide +kernel
  clear := by decide +kernel

def built : Repository where
  blobs sha := if sha = "b0" then some [35, 33] else if sha = "b1" then some [59] else none
  trees sha := if sha = "t0" then some builtTree else none
  commits sha := if sha = "ba5e" then some ⟨"t0", [], "root"⟩ else none
  heads _ := none

def builtListing : Listing where
  truncated := false
  tree := [⟨"app", "tree", "t1", 0⟩, ⟨"app/dist", "tree", "t2", 0⟩,
    ⟨"app/dist/out.js", "blob", "b1", 1⟩, ⟨"run.sh", "blob", "b0", 2⟩]

theorem lists_built : Lists built builtTree builtListing where
  distinct := by decide
  files path sha := by
    constructor
    · rintro ⟨entry, listed, rfl, blob, rfl⟩
      simp only [builtListing, List.mem_cons, List.not_mem_nil, or_false] at listed
      rcases listed with rfl | rfl | rfl | rfl
      · exact absurd blob (by decide)
      · exact absurd blob (by decide)
      · exact ⟨_, rfl, rfl, rfl⟩
      · exact ⟨_, rfl, rfl, rfl⟩
    · rintro ⟨item, there, -, rfl⟩
      obtain ⟨before, after, split, -⟩ := List.lookup_eq_some_iff.mp there
      have stored : (path, item) ∈ builtTree.items := split ▸ by simp
      simp only [builtTree, List.mem_cons, List.not_mem_nil, or_false] at stored
      rcases stored with here | here
      · obtain ⟨rfl, rfl⟩ := Prod.ext_iff.mp here
        exact ⟨⟨"run.sh", "blob", "b0", 2⟩, by decide, rfl, rfl, rfl⟩
      · obtain ⟨rfl, rfl⟩ := Prod.ext_iff.mp here
        exact ⟨⟨"app/dist/out.js", "blob", "b1", 1⟩, by decide, rfl, rfl, rfl⟩
  sizes entry listed blob := by
    simp only [builtListing, List.mem_cons, List.not_mem_nil, or_false] at listed
    rcases listed with rfl | rfl | rfl | rfl
    · exact absurd blob (by decide)
    · exact absurd blob (by decide)
    · exact ⟨_, rfl, rfl⟩
    · exact ⟨_, rfl, rfl⟩

/-- The only file that is fetched of it. -/
theorem wanted_built :
    (builtListing.tree.filter fun entry => entry.type = "blob" && !excluded entry.path {}) =
      [⟨"run.sh", "blob", "b0", 2⟩] := by
  decide +kernel

theorem read_tree_whole_built : ∃ c, (platform .strict).Reaches
    (.launch (readTree shopRef "ba5e" {} ()) built []) c ∧
      c.proc = .done () (.ok ⟨"ba5e", [("run.sh", [35, 33])]⟩) ∧
      ∃ stored t, c.world.commits "ba5e" = some stored ∧ c.world.trees stored.tree = some t ∧
        Whole c.world t "ba5e" {} ⟨"ba5e", [("run.sh", [35, 33])]⟩ := by
  have read : (readTree shopRef "ba5e" {}).may (platform .strict) (fun tree _ w _ =>
      tree = ⟨"ba5e", [("run.sh", [35, 33])]⟩) () built [] := by
    refine Task.may_bind (R := fun _ _ w _ => w = built) (request_may .client rfl) ?_
    rintro - ⟨⟩ w h₁ rfl
    have listed : Effect .strict built (.getTree "ba5e") builtListing built :=
      .getTree rfl rfl fun _ => lists_built
    refine Task.may_bind (R := fun listing _ w _ => listing = builtListing ∧ w = built)
      (request_may listed ⟨rfl, rfl⟩) ?_
    rintro listing ⟨⟩ w h₂ ⟨rfl, rfl⟩
    have read : Effect .strict built (.getBlob "b0") (Base64.b64encode [35, 33]) built :=
      .getBlob rfl (Base64.b64decode_b64encode _)
    have fetched : (fetch {} [⟨"run.sh", "blob", "b0", 2⟩] []).may (platform .strict)
        (fun files _ w _ => files = [("run.sh", [35, 33])] ∧ w = built) () built h₂ := by
      refine Task.may_bind (R := fun text _ w _ => text = Base64.b64encode [35, 33] ∧ w = built)
        (request_may read ⟨rfl, rfl⟩) ?_
      rintro text ⟨⟩ w h₃ ⟨rfl, rfl⟩
      rw [decoded, Base64.b64decode_b64encode]
      exact Task.may_pure ⟨rfl, rfl⟩
    dsimp only
    rw [if_neg (by decide), wanted_built]
    refine Task.may_bind (R := fun files _ w _ => files = [("run.sh", [35, 33])] ∧ w = built)
      fetched ?_
    rintro files ⟨⟩ w h₃ ⟨rfl, rfl⟩
    exact Task.may_pure rfl
  obtain ⟨c, ⟨⟩, tree, run, done, rfl⟩ := read
  exact ⟨c, run, done, read_tree_whole run done⟩

end KuWarden.GitHub
