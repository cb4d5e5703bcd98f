import KuWarden.Adapters.Protocols
import KuWarden.Errors
import KuWarden.Process.Basic
import KuWarden.Python.Base64
import Mathlib.Logic.Function.Basic

/-!
The Git Data API, as far as the engine uses it: what a request asks, what a repository holds,
and what a request that takes effect does to it.

Objects are named by their content, so they are only ever added. How the platform builds a
tree from a base tree and the entries it is sent is a parameter.
-/
namespace KuWarden

inductive CredentialKind
  | scmRead | scmWriteBranch
  deriving DecidableEq, Repr

namespace DataApi

/-- An entry of a tree that is posted. A null `sha` removes the path. -/
structure TreeEntry where
  path : String
  mode : String
  type : String
  sha : Option String
  deriving DecidableEq

structure ListedEntry where
  path : String
  type : String
  sha : String
  size : Nat
  deriving DecidableEq

structure Listing where
  truncated : Bool
  tree : List ListedEntry
  deriving DecidableEq

/-- What is read of a commit: the `sha` of its tree, if it has one, and its message. -/
structure CommitPayload where
  tree : Option String
  message : String
  deriving DecidableEq

inductive ApiOp
  | client (kind : CredentialKind)
  | getRef (branch : String)
  | getCommit (sha : String)
  | getTree (commit : String)
  | getBlob (sha : String)
  | postBlob (content : List Char)
  | postTree (baseTree : String) (tree : List TreeEntry)
  | postCommit (message tree : String) (parents : List String)
  | postRef (ref sha : String)
  | patchRef (branch sha : String) (force : Bool)

def ApiValue : ApiOp → Type
  | .client _ => Unit
  | .getRef _ => Option String
  | .getCommit _ => CommitPayload
  | .getTree _ => Listing
  | .getBlob _ => List Char
  | .postBlob _ => String
  | .postTree _ _ => String
  | .postCommit _ _ _ => String
  | .postRef _ _ => Unit
  | .patchRef _ _ _ => Unit

@[reducible]
def ApiRep (op : ApiOp) : Type := Except PyError (ApiValue op)

/-! ## Trees -/

/-- `path` lies in the directory `directory`. -/
def Beneath (directory path : String) : Prop := directory.toList ++ ['/'] <+: path.toList

instance (directory path : String) : Decidable (Beneath directory path) :=
  inferInstanceAs (Decidable (_ <+: _))

/-- One of the two paths would have to be a directory for the other. -/
def Clash (p q : String) : Prop := Beneath p q ∨ Beneath q p

def Formed (path : String) : Prop :=
  ∀ part ∈ Text.splitChars '/' path.toList, part ≠ [] ∧ part ≠ ['.'] ∧ part ≠ ['.', '.']

instance (path : String) : Decidable (Formed path) :=
  inferInstanceAs (Decidable (∀ part ∈ _, _))

structure TreeItem where
  mode : String
  type : String
  sha : String
  deriving DecidableEq

/-- A tree with everything beneath it, by path. -/
structure FileTree where
  items : List (String × TreeItem)
  distinct : (items.map Prod.fst).Nodup
  formed : ∀ p ∈ items.map Prod.fst, Formed p
  /-- No item is the directory of another. -/
  clear : ∀ p ∈ items.map Prod.fst, ∀ q ∈ items.map Prod.fst, ¬ Beneath p q

namespace FileTree

def item (t : FileTree) (path : String) : Option TreeItem := t.items.lookup path

end FileTree

/-- What a path holds once `entries` are laid over `base`. -/
def laid (base : FileTree) (entries : List TreeEntry) (path : String) : Option TreeItem :=
  match entries.find? fun entry => entry.path = path with
  | some entry => entry.sha.map fun sha => ⟨entry.mode, entry.type, sha⟩
  | none => base.item path

/-- How the platform builds trees. -/
structure TreeBuilder where
  /-- The tree it makes, if it accepts the entries. -/
  plus : FileTree → List TreeEntry → Option FileTree
  /-- A path it accepts is made of names. -/
  formed : ∀ {base entries t}, plus base entries = some t → ∀ entry ∈ entries, Formed entry.path
  /-- An entry overwrites what has its path, and what no entry names stays; but for a path
  in the way of an added one, or beneath it. -/
  lays : ∀ {base entries t}, plus base entries = some t → (entries.map TreeEntry.path).Nodup →
    ∀ path, (∀ entry ∈ entries, entry.sha.isSome → ¬ Clash entry.path path) →
      t.item path = laid base entries path

/-- What `entries` laid over `base` leave. -/
def merged (base : FileTree) (entries : List TreeEntry) : List (String × TreeItem) :=
  (base.items.filter fun item => entries.all fun entry => entry.path ≠ item.1) ++
    entries.filterMap fun entry => entry.sha.map fun sha =>
      (entry.path, ⟨entry.mode, entry.type, sha⟩)

/-- The entries name each path once and what they leave is a tree. -/
structure Fits (base : FileTree) (entries : List TreeEntry) : Prop where
  once : (entries.map TreeEntry.path).Nodup
  named : ∀ entry ∈ entries, Formed entry.path
  distinct : ((merged base entries).map Prod.fst).Nodup
  formed : ∀ p ∈ (merged base entries).map Prod.fst, Formed p
  clear : ∀ p ∈ (merged base entries).map Prod.fst, ∀ q ∈ (merged base entries).map Prod.fst,
    ¬ Beneath p q

instance (base : FileTree) (entries : List TreeEntry) : Decidable (Fits base entries) :=
  decidable_of_iff (_ ∧ _ ∧ _ ∧ _ ∧ _)
    ⟨fun ⟨a, b, c, d, e⟩ => ⟨a, b, c, d, e⟩, fun ⟨a, b, c, d, e⟩ => ⟨a, b, c, d, e⟩⟩

theorem lookup_filter {α : Type} (items : List (String × α)) (keep : String → Bool)
    (path : String) : (items.filter fun item => keep item.1).lookup path =
      if keep path then items.lookup path else none := by
  induction items with
  | nil => simp
  | cons item rest ih =>
      obtain ⟨p, x⟩ := item
      by_cases here : path = p
      · subst here
        by_cases kept : keep path <;> simp [kept, ih]
      · have apart : (path == p) = false := by simpa using here
        by_cases kept : keep p <;> simp [kept, apart, ih, List.lookup_cons]

theorem lookup_added {entries : List TreeEntry} {path : String}
    (once : (entries.map TreeEntry.path).Nodup) :
    (entries.filterMap fun entry => entry.sha.map fun sha =>
        (entry.path, (⟨entry.mode, entry.type, sha⟩ : TreeItem))).lookup path =
      (entries.find? fun entry => entry.path = path).bind fun entry =>
        entry.sha.map fun sha => ⟨entry.mode, entry.type, sha⟩ := by
  induction entries with
  | nil => rfl
  | cons entry rest ih =>
      obtain ⟨apart, once⟩ := List.nodup_cons.mp once
      by_cases here : entry.path = path
      · subst here
        have absent : (rest.find? fun other => other.path = entry.path) = none := by
          refine List.find?_eq_none.mpr fun other mem same => apart ?_
          rw [← of_decide_eq_true same]
          exact List.mem_map_of_mem mem
        cases known : entry.sha with
        | none => simp [known, ih once, absent]
        | some sha => simp [known]
      · have other : (path == entry.path) = false := by simpa using Ne.symm here
        cases known : entry.sha with
        | none => simp [known, ih once, here]
        | some sha => simp [known, ih once, here, List.lookup_cons, other]

theorem lookup_merged {base : FileTree} {entries : List TreeEntry} {path : String}
    (once : (entries.map TreeEntry.path).Nodup) :
    (merged base entries).lookup path = laid base entries path := by
  have kept := lookup_filter base.items
    (fun p => entries.all fun entry => entry.path ≠ p) path
  unfold merged laid FileTree.item
  rw [List.lookup_append, kept, lookup_added once]
  cases found : entries.find? fun entry => entry.path = path with
  | none =>
      have all : (entries.all fun entry => entry.path ≠ path) = true := by
        simpa using List.find?_eq_none.mp found
      rw [if_pos all]
      simp
  | some entry =>
      have mem := List.mem_of_find?_eq_some found
      have same : entry.path = path := by simpa using List.find?_some found
      have some : (entries.all fun entry => entry.path ≠ path) = false := by
        simpa using ⟨entry, mem, same⟩
      rw [if_neg (by rw [some]; simp)]
      simp

/-- A platform that accepts what fits, and nothing else. -/
def TreeBuilder.strict : TreeBuilder where
  plus base entries :=
    if fits : Fits base entries then
      some ⟨merged base entries, fits.distinct, fits.formed, fits.clear⟩
    else none
  formed := by
    intro base entries t plus
    split at plus
    next fits => exact fits.named
    next => cases plus
  lays := by
    intro base entries t plus once path _
    split at plus
    next fits =>
      cases plus
      exact lookup_merged once
    next => cases plus

/-! ## Repositories -/

structure Commit where
  tree : String
  parents : List String
  message : String
  deriving DecidableEq

structure Repository where
  blobs : String → Option Bytes
  trees : String → Option FileTree
  commits : String → Option Commit
  /-- The commit each branch points to. -/
  heads : String → Option String

namespace Repository

variable {w w' w'' : Repository}

def Parent (w : Repository) (x y : String) : Prop :=
  ∃ commit, w.commits x = some commit ∧ y ∈ commit.parents

/-- `y` is `x`, or an ancestor of it. -/
def Descends (w : Repository) : String → String → Prop := Relation.ReflTransGen w.Parent

/-- Objects are added, and none changes. -/
structure Grows (w w' : Repository) : Prop where
  blobs : ∀ {sha content}, w.blobs sha = some content → w'.blobs sha = some content
  trees : ∀ {sha t}, w.trees sha = some t → w'.trees sha = some t
  commits : ∀ {sha commit}, w.commits sha = some commit → w'.commits sha = some commit

theorem Grows.refl : Grows w w := ⟨id, id, id⟩

theorem Grows.trans (first : Grows w w') (second : Grows w' w'') : Grows w w'' :=
  ⟨fun known => second.blobs (first.blobs known), fun known => second.trees (first.trees known),
    fun known => second.commits (first.commits known)⟩

def Closed (w : Repository) : Prop :=
  ∀ sha commit, w.commits sha = some commit → ∀ parent ∈ commit.parents, (w.commits parent).isSome

def content (w : Repository) (t : FileTree) (path : String) : Option Bytes :=
  match t.item path with
  | some item => if item.type = "blob" then w.blobs item.sha else none
  | none => none

theorem content_eq_some {w : Repository} {t : FileTree} {path : String} {content : Bytes} :
    w.content t path = some content ↔ ∃ item, t.item path = some item ∧ item.type = "blob" ∧
      w.blobs item.sha = some content := by
  unfold Repository.content
  cases t.item path with
  | none => simp
  | some item =>
      by_cases blob : item.type = "blob"
      · simp [blob]
      · simp [blob]

end Repository

/-- `sha` may name `object`: it is new, or it names this object already. -/
def Names {α : Type} (objects : String → Option α) (sha : String) (object : α) : Prop :=
  sha ≠ "" ∧ (objects sha = none ∨ objects sha = some object)

theorem Names.keeps {α : Type} {objects : String → Option α} {sha sha' : String} {object x : α}
    (names : Names objects sha object) (known : objects sha' = some x) :
    Function.update objects sha (some object) sha' = some x := by
  by_cases same : sha' = sha
  · subst same
    rw [Function.update_self]
    rcases names.2 with new | old
    · rw [new] at known
      cases known
    · rw [← known, old]
  · rw [Function.update_of_ne same]
    exact known

/-- A listing names every file of a tree once, with the size of its blob. -/
structure Lists (w : Repository) (t : FileTree) (listing : Listing) : Prop where
  distinct : (listing.tree.map ListedEntry.path).Nodup
  files : ∀ path sha, (∃ entry ∈ listing.tree, entry.path = path ∧ entry.type = "blob" ∧
      entry.sha = sha) ↔ ∃ item, t.item path = some item ∧ item.type = "blob" ∧ item.sha = sha
  sizes : ∀ entry ∈ listing.tree, entry.type = "blob" →
    ∃ content, w.blobs entry.sha = some content ∧ content.length = entry.size

/-- What a request that takes effect answers, and does. -/
inductive Effect (builder : TreeBuilder) (w : Repository) :
    (op : ApiOp) → ApiValue op → Repository → Prop
  | client {kind : CredentialKind} : Effect builder w (.client kind) () w
  | getRef {branch sha : String} : w.heads branch = some sha →
      Effect builder w (.getRef branch) (some sha) w
  | getCommit {sha : String} {commit : Commit} : w.commits sha = some commit →
      Effect builder w (.getCommit sha) (⟨some commit.tree, commit.message⟩ : CommitPayload) w
  | getTree {sha : String} {commit : Commit} {t : FileTree} {listing : Listing} :
      w.commits sha = some commit → w.trees commit.tree = some t →
      (listing.truncated = false → Lists w t listing) →
      Effect builder w (.getTree sha) listing w
  | getBlob {sha : String} {content : Bytes} {text : List Char} :
      w.blobs sha = some content → Base64.b64decode text = some content →
      Effect builder w (.getBlob sha) text w
  | postBlob {text : List Char} {content : Bytes} {sha : String} :
      Base64.b64decode text = some content → Names w.blobs sha content →
      Effect builder w (.postBlob text) sha
        { w with blobs := Function.update w.blobs sha (some content) }
  | postTree {baseTree sha : String} {entries : List TreeEntry} {base t : FileTree} :
      w.trees baseTree = some base → builder.plus base entries = some t →
      Names w.trees sha t →
      Effect builder w (.postTree baseTree entries) sha
        { w with trees := Function.update w.trees sha (some t) }
  | postCommit {message tree sha : String} {parents : List String} :
      Names w.commits sha ⟨tree, parents, message⟩ →
      (∀ parent ∈ parents, (w.commits parent).isSome) →
      Effect builder w (.postCommit message tree parents) sha
        { w with commits := Function.update w.commits sha (some ⟨tree, parents, message⟩) }
  | postRef {branch sha : String} : w.heads branch = none →
      Effect builder w (.postRef ("refs/heads/" ++ branch) sha) ()
        { w with heads := Function.update w.heads branch (some sha) }
  | patchRef {branch old sha : String} {force : Bool} : w.heads branch = some old →
      (force = true ∨ w.Descends sha old) →
      Effect builder w (.patchRef branch sha force) ()
        { w with heads := Function.update w.heads branch (some sha) }

/-- A request is answered, or fails: before it took effect, or after. -/
inductive Answers (builder : TreeBuilder) (w : Repository) :
    (op : ApiOp) → ApiRep op → Repository → Prop
  | ok {op : ApiOp} {v : ApiValue op} {w' : Repository} : Effect builder w op v w' →
      Answers builder w op (.ok v) w'
  | refused {op : ApiOp} {e : PyError} : Answers builder w op (.error e) w
  | lost {op : ApiOp} {v : ApiValue op} {w' : Repository} {e : PyError} :
      Effect builder w op v w' → Answers builder w op (.error e) w'

variable {builder : TreeBuilder} {w w' : Repository} {op : ApiOp}

theorem Effect.grows {v : ApiValue op} (effect : Effect builder w op v w') : w.Grows w' := by
  cases effect with
  | client | getRef _ | getCommit _ | getTree _ _ _ | getBlob _ _ => exact .refl
  | postBlob _ names => exact ⟨names.keeps, id, id⟩
  | postTree _ _ names => exact ⟨id, names.keeps, id⟩
  | postCommit names _ => exact ⟨id, id, names.keeps⟩
  | postRef _ | patchRef _ _ => exact ⟨id, id, id⟩

theorem Answers.grows {r : ApiRep op} (answers : Answers builder w op r w') : w.Grows w' := by
  cases answers with
  | ok effect | lost effect => exact effect.grows
  | refused => exact .refl

end DataApi
end KuWarden
