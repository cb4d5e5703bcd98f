import KuWarden.Adapters.DataApi
import KuWarden.Nodes.BuildTest

/-!
GitHub, through the Git Data API: blobs, tree, commit, ref. No clone and no git binary.
-/
namespace KuWarden.GitHub

open Process DataApi

/-- Code that exchanges requests and answers with the platform. -/
abbrev Exchange (α : Type) := Task Unit ApiOp ApiRep PyError α

def request (op : ApiOp) : Exchange (ApiValue op) := do
  let reply ← Task.call op
  Task.ofExcept reply

/-! ## Reading a tree -/

structure TreeLimits where
  maxFiles : Nat := 4000
  maxFileBytes : Nat := 1000000
  maxTotalBytes : Nat := 64000000
  exclude : List String := [
    ".git/**",
    "**/node_modules/**",
    "**/.venv/**",
    "**/venv/**",
    "**/__pycache__/**",
    "**/dist/**",
    "**/build/**",
    "**/target/**",
    "**/*.lock"]
  deriving DecidableEq

def excluded (path : String) (limits : TreeLimits) : Bool :=
  (matchesAny limits.exclude path).isSome

def tooLarge (message : String) : PyError := ⟨.treeTooLarge, message, none⟩

def checkFileCount (count : Nat) (limits : TreeLimits) (repo : String) : Except PyError Unit :=
  if count > limits.maxFiles then
    .error (tooLarge (repo ++ " has " ++ Text.ofNat count ++ " files after exclusions, over the " ++
      Text.ofNat limits.maxFiles ++ " limit. Raise sandbox tree limits deliberately, or narrow " ++
      "workspace.repos — a partial tree is worse than a refused one."))
  else .ok ()

def checkFileSize (path : String) (size : Nat) (limits : TreeLimits) : Except PyError Unit :=
  if size > limits.maxFileBytes then
    .error (tooLarge (path ++ " is " ++ Text.ofNat size ++ " bytes, over the " ++
      Text.ofNat limits.maxFileBytes ++ " per-file limit"))
  else .ok ()

def totalBytes (tree : RepoTree) : Nat := (tree.files.map fun file => file.2.length).sum

def finish (commit : String) (files : List (String × Bytes)) (limits : TreeLimits)
    (repo : String) : Except PyError RepoTree :=
  let tree : RepoTree := ⟨commit, files⟩
  if totalBytes tree > limits.maxTotalBytes then
    .error (tooLarge (repo ++ " is " ++ Text.ofNat (totalBytes tree) ++ " bytes at " ++
      Text.take 8 commit ++ ", over the " ++ Text.ofNat limits.maxTotalBytes ++ " total limit"))
  else .ok tree

/-- `base64.b64decode(...)`, which raises a `ValueError`. -/
def decoded (text : List Char) : Except PyError Bytes :=
  match Base64.b64decode text with
  | some content => .ok content
  | none => .error ⟨.valueError, "Incorrect padding", none⟩

def fetch (bounds : TreeLimits) :
    List ListedEntry → List (String × Bytes) → Exchange (List (String × Bytes))
  | [], files => return files
  | entry :: rest, files => do
      Task.ofExcept (checkFileSize entry.path entry.size bounds)
      let text ← request (.getBlob entry.sha)
      let content ← Task.ofExcept (decoded text)
      fetch bounds rest (BuildTest.put files entry.path content)

/-- Every file at `commit`. -/
def readTree (ref : RepoRef) (commit : String) (bounds : TreeLimits) : Exchange RepoTree := do
  let repo := ref.org ++ "/" ++ ref.repo
  request (.client .scmRead)
  let listing ← request (.getTree commit)
  if listing.truncated then
    Task.raise (tooLarge ("GitHub truncated the tree for " ++ repo ++ " at " ++
      Text.take 8 commit ++ "; the repository is too large to read in one request and a " ++
      "partial tree must not reach a Coder"))
  else
    let blobs := listing.tree.filter fun entry => entry.type = "blob" && !excluded entry.path bounds
    Task.ofExcept (checkFileCount blobs.length bounds repo)
    let files ← fetch bounds blobs []
    Task.ofExcept (finish commit files bounds repo)

/-! ## Pushing a change -/

/-- `path.lstrip("/")`. -/
def lstrip (path : String) : String := String.ofList (path.toList.dropWhile (· = '/'))

def adapterError (message : String) : PyError := ⟨.adapterError, message, none⟩

/-- Where `branch` currently points, or `none` if it does not exist yet. -/
def branchTip (branch : String) : Exchange (Option BranchRef) := do
  let head ← Task.call (ApiOp.getRef branch)
  match head with
  | .error e => if e.kind = .notFound then return none else Task.raise e
  | .ok sha =>
      match nonEmpty sha with
      | none => Task.raise (adapterError ("branch " ++ branch ++ " exists but resolved to no commit"))
      | some sha => return some ⟨branch, sha⟩

/-- The message on `commit`, read to decide whether a push has already landed. -/
def commitMessage (commit : String) : Exchange String := do
  let payload ← request (.getCommit commit)
  return payload.message

/-- The tip, if this push has landed there. A tip that it was not built on is refused. -/
def landed (branch message expected : String) : Option BranchRef → Exchange (Option BranchRef)
  | none => return none
  | some existing => do
      let found ← commitMessage existing.commit
      if found = message then return some existing
      else if existing.commit ≠ expected then
        Task.raise (adapterError ("branch " ++ branch ++ " is at " ++
          Text.take 8 existing.commit ++ ", not the " ++ Text.take 8 expected ++
          " this push was built on; refusing to overwrite work this run did not do"))
      else return none

/-- The blob an edit needs. A null `sha` removes a path. -/
def blobSha (edit : FileEdit) : Exchange (Option String) :=
  if edit.deleted then return none
  else do
    let sha ← request (.postBlob (Base64.b64encode (BuildTest.encode edit.content)))
    return some sha

def treeEntries : List FileEdit → Exchange (List TreeEntry)
  | [] => return []
  | edit :: rest => do
      let sha ← blobSha edit
      let entries ← treeEntries rest
      return ⟨lstrip edit.path, "100644", "blob", sha⟩ :: entries

/-- A commit of the base tree with the edits, on top of `expected`. -/
def commitChange (base : BranchRef) (message : String) (edits : List FileEdit)
    (expected : String) : Exchange String := do
  let baseCommit ← request (.getCommit base.commit)
  match nonEmpty baseCommit.tree with
  | none => Task.raise (adapterError ("commit " ++ base.commit ++ " has no tree"))
  | some baseTree =>
      let entries ← treeEntries edits
      let tree ← request (.postTree baseTree entries)
      request (.postCommit message tree [expected])

/-- Create the branch, or move it. `force` is left false. -/
def moveBranch (branch commit : String) : Option BranchRef → Exchange Unit
  | none => request (.postRef ("refs/heads/" ++ branch) commit)
  | some _ => request (.patchRef branch commit false)

/-- `parent or base.commit`. -/
def expected (base : BranchRef) (parent : Option String) : String :=
  (nonEmpty parent).getD base.commit

def push (base : BranchRef) (branch message : String) (edits : List FileEdit)
    (parent : Option String) : Exchange BranchRef := do
  request (.client .scmWriteBranch)
  let existing ← branchTip branch
  let tip ← landed branch message (expected base parent) existing
  match tip with
  | some tip => return tip
  | none =>
      let commit ← commitChange base message edits (expected base parent)
      moveBranch branch commit existing
      return ⟨branch, commit⟩

/-- Create or fast-forward `branch`. -/
def pushChange (ref : RepoRef) (base : BranchRef) (branch message : String)
    (edits : List FileEdit) (parent : Option String) : Exchange BranchRef :=
  if edits = [] then Task.raise (adapterError "refusing to push an empty change")
  else (push base branch message edits parent).handle fun exc =>
    if exc.kind = .permissionDenied then
      Task.raise ⟨.permissionDenied, exc.message ++ "\n\nThis needs Contents: Read and write on " ++
        ref.org ++ "/" ++ ref.repo ++ ". A token with Contents: Read can fetch the tree — " ++
        "which is why the earlier nodes succeeded — but cannot write a branch.", none⟩
    else Task.raise exc

end KuWarden.GitHub
