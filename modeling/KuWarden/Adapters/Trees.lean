import KuWarden.Adapters.Pushing

/-!
What the tree of a push keeps of the tree it is laid over.
-/
namespace KuWarden.GitHub

open Process DataApi

variable {builder : TreeBuilder} {base t : FileTree} {edits : List FileEdit}

/-- Each edit is one path's new state, and some tree has every path that is written. -/
structure States (edits : List FileEdit) : Prop where
  once : (edits.map fun edit => lstrip edit.path).Nodup
  clear : ∀ edit ∈ edits, ∀ other ∈ edits, edit.deleted = false → other.deleted = false →
    ¬ Clash (lstrip edit.path) (lstrip other.path)

instance (p q : String) : Decidable (Clash p q) := inferInstanceAs (Decidable (_ ∨ _))

instance (edits : List FileEdit) : Decidable (States edits) :=
  decidable_of_iff (_ ∧ _) ⟨fun ⟨a, b⟩ => ⟨a, b⟩, fun ⟨a, b⟩ => ⟨a, b⟩⟩

/-- `t` differs from `base` at the edited paths only, and a path that is there already and
written keeps its mode and its type. -/
structure Frames (base : FileTree) (edits : List FileEdit) (t : FileTree) : Prop where
  others : ∀ path, (∀ edit ∈ edits, lstrip edit.path ≠ path) → t.item path = base.item path
  attributes : ∀ edit ∈ edits, edit.deleted = false →
    ∀ old, base.item (lstrip edit.path) = some old →
      ∃ new, t.item (lstrip edit.path) = some new ∧ new.mode = old.mode ∧ new.type = old.type

/-- What the edits write over are regular files, and nothing they leave alone is a directory
of what they write or lies beneath it. -/
structure Regular (base : FileTree) (edits : List FileEdit) : Prop where
  plain : ∀ edit ∈ edits, edit.deleted = false →
    ∀ old, base.item (lstrip edit.path) = some old → old.mode = "100644" ∧ old.type = "blob"
  apart : ∀ edit ∈ edits, edit.deleted = false → ∀ path, (base.item path).isSome →
    Clash (lstrip edit.path) path → ∃ other ∈ edits, lstrip other.path = path

/-! ## Paths -/

theorem mem_items_of_item {path : String} (has : (t.item path).isSome) :
    path ∈ t.items.map Prod.fst := by
  obtain ⟨item, mem, same⟩ := List.lookup_isSome_iff.mp has
  rw [eq_of_beq same]
  exact List.mem_map_of_mem mem

theorem item_of_clash {p q : String} (clash : Clash p q) (has : (t.item p).isSome) :
    t.item q = none := by
  cases found : t.item q with
  | none => rfl
  | some item =>
      have here := mem_items_of_item has
      have there : q ∈ t.items.map Prod.fst := mem_items_of_item (by rw [found]; rfl)
      rcases clash with beneath | beneath
      · exact absurd beneath (t.clear p here q there)
      · exact absurd beneath (t.clear q there p here)

/-! ## Entries -/

variable {w : Repository} {entries : List TreeEntry}

theorem posted_paths (posted : List.Forall₂ (Posted w) edits entries) :
    entries.map TreeEntry.path = edits.map fun edit => lstrip edit.path := by
  induction posted with
  | nil => rfl
  | cons here _ ih => rw [List.map_cons, List.map_cons, here.path, ih]

/-- Whatever stands on the right is related to something on the left. -/
theorem exists_of_forall₂ {α β : Type} {R : α → β → Prop} {xs : List α} {ys : List β}
    (each : List.Forall₂ R xs ys) {y : β} (mem : y ∈ ys) : ∃ x ∈ xs, R x y := by
  induction each with
  | nil => cases mem
  | cons here _ ih =>
      rcases List.mem_cons.mp mem with rfl | mem
      · exact ⟨_, List.mem_cons_self, here⟩
      · obtain ⟨x, among, related⟩ := ih mem
        exact ⟨x, List.mem_cons_of_mem _ among, related⟩

theorem States.edit_unique (states : States edits) {edit other : FileEdit} (mem : edit ∈ edits)
    (also : other ∈ edits) (same : lstrip edit.path = lstrip other.path) : edit = other :=
  List.inj_on_of_nodup_map states.once mem also same

/-- No edit of a path: it has what the base has there. -/
theorem laid_other (posted : List.Forall₂ (Posted w) edits entries) {path : String}
    (unedited : ∀ edit ∈ edits, lstrip edit.path ≠ path) :
    laid base entries path = base.item path := by
  have none_named : (entries.find? fun entry => entry.path = path) = none := by
    refine List.find?_eq_none.mpr fun entry mem named => ?_
    obtain ⟨edit, among, here⟩ := exists_of_forall₂ posted mem
    exact unedited edit among (here.path ▸ of_decide_eq_true named)
  rw [laid, none_named]

theorem laid_written (base : FileTree) (states : States edits) (posted : List.Forall₂ (Posted w) edits entries)
    {edit : FileEdit} (mem : edit ∈ edits) (written : edit.deleted = false) :
    ∃ sha, laid base entries (lstrip edit.path) = some ⟨"100644", "blob", sha⟩ := by
  have named : lstrip edit.path ∈ entries.map TreeEntry.path := by
    rw [posted_paths posted]
    exact List.mem_map_of_mem mem
  obtain ⟨entry, among, same⟩ := List.mem_map.mp named
  cases found : entries.find? fun entry => entry.path = lstrip edit.path with
  | none => exact absurd same (by simpa using List.find?_eq_none.mp found entry among)
  | some first =>
      have at_path : first.path = lstrip edit.path := by simpa using List.find?_some found
      obtain ⟨other, also, here⟩ := exists_of_forall₂ posted (List.mem_of_find?_eq_some found)
      obtain rfl := states.edit_unique mem also (at_path.symm.trans here.path)
      obtain ⟨sha, stored, -⟩ := here.adds written
      refine ⟨sha, ?_⟩
      rw [laid, found]
      show (first.sha.map fun sha => (⟨first.mode, first.type, sha⟩ : TreeItem)) = _
      rw [here.mode, here.type, stored]
      rfl

theorem written_of_added {edit : FileEdit} {entry : TreeEntry} (posted : Posted w edit entry)
    (added : entry.sha.isSome) : edit.deleted = false := by
  cases deleted : edit.deleted with
  | false => rfl
  | true =>
      rw [posted.removes deleted] at added
      cases added

/-! ## The tree that is made -/

theorem item_written (states : States edits) (posted : List.Forall₂ (Posted w) edits entries)
    (plus : builder.plus base entries = some t) {edit : FileEdit} (mem : edit ∈ edits)
    (written : edit.deleted = false) :
    ∃ sha, t.item (lstrip edit.path) = some ⟨"100644", "blob", sha⟩ := by
  obtain ⟨sha, laid⟩ := laid_written base states posted mem written
  refine ⟨sha, ?_⟩
  rw [builder.lays plus (by rw [posted_paths posted]; exact states.once), laid]
  intro entry among added clash
  obtain ⟨other, also, here⟩ := exists_of_forall₂ posted among
  rw [here.path] at clash
  exact states.clear other also edit mem (written_of_added here added) written clash

theorem frames_iff (states : States edits) (posted : List.Forall₂ (Posted w) edits entries)
    (plus : builder.plus base entries = some t) : Frames base edits t ↔ Regular base edits := by
  constructor
  · intro frames
    refine ⟨fun edit mem written old was => ?_, fun edit mem written path has clash => ?_⟩
    · obtain ⟨new, is, mode, type⟩ := frames.attributes edit mem written old was
      obtain ⟨sha, made⟩ := item_written states posted plus mem written
      cases is.symm.trans made
      exact ⟨mode.symm, type.symm⟩
    · -- Both paths would be in the tree that is made.
      by_contra unedited
      have same := frames.others path fun other among at_path => unedited ⟨other, among, at_path⟩
      obtain ⟨sha, made⟩ := item_written states posted plus mem written
      have gone := item_of_clash clash (by rw [made]; rfl)
      rw [same] at gone
      rw [gone] at has
      cases has
  · intro regular
    refine ⟨fun path unedited => ?_, fun edit mem written old was => ?_⟩
    · by_cases blocked : ∃ edit ∈ edits, edit.deleted = false ∧ Clash (lstrip edit.path) path
      · obtain ⟨edit, mem, written, clash⟩ := blocked
        obtain ⟨sha, made⟩ := item_written states posted plus mem written
        rw [item_of_clash clash (by rw [made]; rfl)]
        cases has : base.item path with
        | none => rfl
        | some item =>
            obtain ⟨other, among, at_path⟩ :=
              regular.apart edit mem written path (by rw [has]; rfl) clash
            exact absurd at_path (unedited other among)
      · rw [builder.lays plus (by rw [posted_paths posted]; exact states.once),
          laid_other posted unedited]
        intro entry among added clash
        obtain ⟨edit, mem, here⟩ := exists_of_forall₂ posted among
        rw [here.path] at clash
        exact blocked ⟨edit, mem, written_of_added here added, clash⟩
    · obtain ⟨sha, made⟩ := item_written states posted plus mem written
      obtain ⟨mode, type⟩ := regular.plain edit mem written old was
      exact ⟨_, made, mode.symm, type.symm⟩

/-! ## What a push commits -/

variable {p : Push} {c : Config Unit Repository ApiOp ApiRep Unit (Except PyError BranchRef)}
  {message tree : String} {parents : List String}

/-- A push has run from `w` to `c`, whatever others added. -/
def Pushed (builder : TreeBuilder) (p : Push) (w : Repository)
    (c : Config Unit Repository ApiOp ApiRep Unit (Except PyError BranchRef)) : Prop :=
  (platform builder).Reaches
    (.launch (push p.base p.branch p.message p.edits p.parent ()) w []) c

theorem meant_of_pushed (run : Pushed builder p w c) : Meant builder p () c.world c.history := by
  have held := wp_sound (push_does [] fun op mem => by cases mem) run
  split at held
  · exact held.1
  · exact held

/-- The tree a push commits frames its edits if and only if these are regular. -/
theorem pushed_tree_iff (states : States p.edits) (run : Pushed builder p w c)
    (asked : .call (.postCommit message tree parents) ∈ c.history) :
    ∃ commit base t, c.world.commits p.base.commit = some commit ∧
      c.world.trees commit.tree = some base ∧ c.world.trees tree = some t ∧
        (Frames base p.edits t ↔ Regular base p.edits) := by
  obtain ⟨-, -, commit, base, entries, t, known, stored, posted, plus, made⟩ :=
    meant_of_pushed run _ asked
  exact ⟨commit, base, t, known, stored, made, frames_iff states posted plus⟩

/-! ## A script that is edited -/

/-- One executable script. -/
def scriptTree : FileTree where
  items := [("run.sh", ⟨"100755", "blob", "b0"⟩)]
  distinct := by decide
  formed := by decide +kernel
  clear := by decide +kernel

def scripted : Repository where
  blobs := Function.update (fun _ => none) "b0" (some [])
  trees := Function.update (fun _ => none) "t0" (some scriptTree)
  commits := Function.update (fun _ => none) "ba5e" (some ⟨"t0", [], "root"⟩)
  heads _ := none

def scriptPush : Push where
  base := ⟨"main", "ba5e"⟩
  branch := "kuwarden/shop-1"
  message := "Change"
  edits := [⟨"run.sh", "#!/bin/sh", false⟩]
  parent := none

def scriptEntries : List TreeEntry := [⟨lstrip "run.sh", "100644", "blob", some "b1"⟩]

def scriptStored : Repository :=
  { scripted with
    blobs := Function.update scripted.blobs "b1" (some (BuildTest.encode "#!/bin/sh")) }

theorem request_may {op : ApiOp} {v : ApiValue op} {w w' : Repository}
    {h : History ApiOp ApiRep Unit} {Q : ApiValue op → Assertion Unit Repository ApiOp ApiRep Unit}
    (effect : Effect builder w op v w')
    (held : Q v () w' (h ++ [.call op] ++ [.reply op (.ok v)])) :
    (request op).may (platform builder) Q () w h := by
  have served : (platform builder).serve () w op (.ok v) () w' := .ok effect
  refine Task.may_bind (R := fun r _ w₁ h₁ => r = .ok v ∧ w₁ = w' ∧
    h₁ = h ++ [.call op] ++ [.reply op (.ok v)]) (Task.may_asked served ⟨rfl, rfl, rfl⟩) ?_
  rintro r ⟨⟩ w₁ h₁ ⟨rfl, rfl, rfl⟩
  exact Task.may_pure held

theorem script_plus : ∃ t, TreeBuilder.strict.plus scriptTree scriptEntries = some t ∧
    t.item "run.sh" = some ⟨"100644", "blob", "b1"⟩ := by
  obtain ⟨t, plus⟩ := Option.isSome_iff_exists.mp
    (show (TreeBuilder.strict.plus scriptTree scriptEntries).isSome = true by decide +kernel)
  refine ⟨t, plus, ?_⟩
  rw [TreeBuilder.strict.lays plus (by decide)]
  · decide +kernel
  · decide +kernel

theorem script_posted {h : History ApiOp ApiRep Unit} : (treeEntries scriptPush.edits).may
    (platform .strict) (fun entries _ w _ => entries = scriptEntries ∧ w = scriptStored)
      () scripted h := by
  have effect : Effect .strict scripted (.postBlob (Base64.b64encode
      (BuildTest.encode "#!/bin/sh"))) "b1" scriptStored :=
    .postBlob (Base64.b64decode_b64encode _) ⟨by decide, .inl (by simp [scripted])⟩
  refine Task.may_bind (R := fun sha _ w _ => sha = some "b1" ∧ w = scriptStored) ?_ ?_
  · exact Task.may_bind (R := fun sha _ w _ => sha = "b1" ∧ w = scriptStored)
      (request_may effect ⟨rfl, rfl⟩) fun sha _ w _ same => Task.may_pure ⟨by rw [same.1], same.2⟩
  · rintro sha ⟨⟩ w h' ⟨rfl, rfl⟩
    exact Task.may_bind (R := fun entries _ w _ => entries = [] ∧ w = scriptStored)
      (Task.may_pure ⟨rfl, rfl⟩) fun entries _ w _ same =>
        Task.may_pure ⟨by rw [same.1]; rfl, same.2⟩

theorem script_pushed : ∃ c t, Pushed .strict scriptPush scripted c ∧
    .call (.postCommit "Change" "t1" ["ba5e"]) ∈ c.history ∧
    c.world.commits "ba5e" = some ⟨"t0", [], "root"⟩ ∧ c.world.trees "t0" = some scriptTree ∧
    c.world.trees "t1" = some t ∧ t.item "run.sh" = some ⟨"100644", "blob", "b1"⟩ := by
  obtain ⟨t, plus, item⟩ := script_plus
  let w₂ : Repository := { scriptStored with
    trees := Function.update scriptStored.trees "t1" (some t) }
  let w₃ : Repository := { w₂ with
    commits := Function.update w₂.commits "c1" (some ⟨"t1", ["ba5e"], "Change"⟩) }
  have known : scripted.commits "ba5e" = some ⟨"t0", [], "root"⟩ := by simp [scripted]
  have stored : scriptStored.trees "t0" = some scriptTree := by simp [scriptStored, scripted]
  have free : scriptStored.trees "t1" = none := by simp [scriptStored, scripted]
  have unmade : w₂.commits "c1" = none := by simp [w₂, scriptStored, scripted]
  have parent : ∀ parent ∈ ["ba5e"], (w₂.commits parent).isSome := by
    intro parent mem
    rw [List.mem_singleton.mp mem, show w₂.commits "ba5e" = _ from known]
    rfl
  have committed {h : History ApiOp ApiRep Unit} : (commitChange scriptPush.base
      scriptPush.message scriptPush.edits "ba5e").may (platform .strict) (fun sha _ w h =>
        sha = "c1" ∧ w = w₃ ∧ .call (.postCommit "Change" "t1" ["ba5e"]) ∈ h) () scripted h := by
    refine Task.may_bind (R := fun payload _ w _ => payload = ⟨some "t0", "root"⟩ ∧ w = scripted)
      (request_may (.getCommit known) ⟨rfl, rfl⟩) ?_
    rintro payload ⟨⟩ w h₁ ⟨rfl, rfl⟩
    refine Task.may_bind script_posted ?_
    rintro entries ⟨⟩ w h₂ ⟨rfl, rfl⟩
    refine Task.may_bind (R := fun tree _ w _ => tree = "t1" ∧ w = w₂)
      (request_may (.postTree stored plus ⟨by decide, .inl free⟩) ⟨rfl, rfl⟩) ?_
    rintro tree ⟨⟩ w h₃ ⟨rfl, rfl⟩
    exact request_may (.postCommit ⟨by decide, .inl unmade⟩ parent)
      ⟨rfl, rfl, by simp [scriptPush]⟩
  have played : (push scriptPush.base scriptPush.branch scriptPush.message scriptPush.edits none).may
      (platform .strict) (fun _ _ w h => w.commits = w₃.commits ∧ w.trees = w₃.trees ∧
        .call (.postCommit "Change" "t1" ["ba5e"]) ∈ h) () scripted [] := by
    refine Task.may_bind (R := fun _ _ w _ => w = scripted) (request_may .client rfl) ?_
    rintro - ⟨⟩ w h₁ rfl
    have absent : (platform .strict).serve () scripted (.getRef scriptPush.branch)
      (.error ⟨.notFound, "Not Found", none⟩) () scripted := .refused
    refine Task.may_bind (R := fun tip _ w _ => tip = none ∧ w = scripted)
      (Task.may_bind (R := fun r _ w _ => r = _ ∧ w = scripted)
        (Task.may_asked absent ⟨rfl, rfl⟩) ?_) ?_
    · rintro r ⟨⟩ w h₂ ⟨rfl, rfl⟩
      exact Task.may_pure ⟨rfl, rfl⟩
    · rintro tip ⟨⟩ w h₂ ⟨rfl, rfl⟩
      refine Task.may_bind (R := fun tip _ w _ => tip = none ∧ w = scripted)
        (Task.may_pure ⟨rfl, rfl⟩) ?_
      rintro tip ⟨⟩ w h₃ ⟨rfl, rfl⟩
      refine Task.may_bind committed ?_
      rintro sha ⟨⟩ w h₄ ⟨rfl, rfl, asked⟩
      have none_there : w₃.heads scriptPush.branch = none := rfl
      refine Task.may_bind (R := fun _ _ w h => w.commits = w₃.commits ∧ w.trees = w₃.trees ∧
        .call (.postCommit "Change" "t1" ["ba5e"]) ∈ h)
        (request_may (.postRef none_there) ⟨rfl, rfl, by simp [asked]⟩) ?_
      exact fun _ _ w h held => Task.may_pure held
  obtain ⟨c, s, ref, run, -, commits, trees, asked⟩ := played
  refine ⟨c, t, run, asked, ?_, ?_, ?_, item⟩
  · rw [commits]
    simp [w₃, w₂, scriptStored, scripted]
  · rw [trees]
    simp [w₃, w₂, scriptStored, scripted]
  · rw [trees]
    simp [w₃, w₂]

theorem pushed_tree_script : ∃ c commit base t, Pushed .strict scriptPush scripted c ∧
    c.world.commits "ba5e" = some commit ∧ c.world.trees commit.tree = some base ∧
      c.world.trees "t1" = some t ∧
        (Frames base scriptPush.edits t ↔ Regular base scriptPush.edits) := by
  obtain ⟨c, -, run, asked, -⟩ := script_pushed
  obtain ⟨commit, base, t, known, stored, made, frames⟩ :=
    pushed_tree_iff (p := scriptPush) (by decide +kernel) run asked
  exact ⟨c, commit, base, t, run, known, stored, made, frames⟩

/-- The script is not executable any more. -/
theorem script_mode_lost : ∃ c t, States scriptPush.edits ∧ Pushed .strict scriptPush scripted c ∧
    .call (.postCommit "Change" "t1" ["ba5e"]) ∈ c.history ∧
    c.world.commits "ba5e" = some ⟨"t0", [], "root"⟩ ∧ c.world.trees "t0" = some scriptTree ∧
    c.world.trees "t1" = some t ∧ ¬ Frames scriptTree scriptPush.edits t := by
  obtain ⟨c, t, run, asked, known, stored, made, item⟩ := script_pushed
  refine ⟨c, t, by decide +kernel, run, asked, known, stored, made, fun frames => ?_⟩
  have path : lstrip "run.sh" = "run.sh" := by decide +kernel
  obtain ⟨new, is, mode, -⟩ := frames.attributes _ List.mem_cons_self rfl
    ⟨"100755", "blob", "b0"⟩ (by show scriptTree.item (lstrip "run.sh") = _; rw [path]; rfl)
  rw [show lstrip (FileEdit.mk "run.sh" "#!/bin/sh" false).path = "run.sh" from path, item] at is
  cases is
  revert mode
  decide

end KuWarden.GitHub
