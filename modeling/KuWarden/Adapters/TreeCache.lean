import KuWarden.Adapters.GitHub
import KuWarden.Process.Background
import KuWarden.Process.Runs
import KuWarden.Python.OrderedDict

/-!
One fetch of a repository tree per commit, per worker.

Callers run on one event loop: between two awaits each has the module's two maps to itself.
What a fetch does is not modelled, only when and how it ends.
-/
namespace KuWarden.TreeCache

open Process Python
open GitHub (TreeLimits)

structure Asked where
  ref : RepoRef
  commit : String
  limits : TreeLimits
  deriving DecidableEq

abbrev Key := List String

/-- `_key`: the identity of a fetch. -/
def key (asked : Asked) : Key := [
  asked.ref.host,
  asked.ref.org,
  asked.ref.repo,
  asked.ref.project.getD "",
  asked.commit,
  Text.ofNat asked.limits.maxFiles,
  Text.ofNat asked.limits.maxFileBytes,
  Text.ofNat asked.limits.maxTotalBytes,
  Text.join "|" asked.limits.exclude]

def maxEntries : Nat := 4

inductive Raised
  | cancelled
  | error (e : PyError)
  deriving DecidableEq

/-- A task of the event loop that fetches. Once asked to cancel, it may end cancelled. -/
structure Fetch where
  asked : Asked
  cancelling : Bool := false
  outcome : Option (Except Raised RepoTree) := none

/-- The module's maps, and the tasks it started. -/
structure Globals where
  trees : OrderedDict Key RepoTree := .empty
  inflight : OrderedDict Key Nat := .empty
  fetches : List Fetch := []

/-- An await of a fetch: of the task itself, or of a shield around it. -/
inductive CacheOp
  | own (task : Nat)
  | shield (task : Nat)
  deriving DecidableEq

def CacheOp.task : CacheOp → Nat
  | .own task | .shield task => task

abbrev CacheRep (_ : CacheOp) : Type := Except Raised RepoTree

abbrev Caching (α : Type) := Task Globals CacheOp CacheRep Raised α

def Globals.outcome (g : Globals) (task : Nat) : Option (Except Raised RepoTree) :=
  g.fetches[task]?.bind Fetch.outcome

/-- `asyncio.ensure_future(fetch())`. -/
def ensureFuture (asked : Asked) : Caching Nat := do
  let g ← Task.read
  Task.update fun g => { g with fetches := g.fetches ++ [⟨asked, false, none⟩] }
  return g.fetches.length

/-- `await asyncio.shield(running)`, which does not wait for a task that has ended. -/
def joined (running : Nat) : Caching RepoTree := do
  let g ← Task.read
  match g.outcome running with
  | some outcome => Task.ofExcept outcome
  | none => do
      let outcome ← Task.call (.shield running)
      Task.ofExcept outcome

/-- What follows the await of a caller that started the fetch. -/
def keep (k : Key) (outcome : Except Raised RepoTree) : Caching RepoTree := do
  Task.update fun g => { g with inflight := g.inflight.pop k }
  let tree ← Task.ofExcept outcome
  Task.update fun g => { g with trees := (g.trees.insert k tree).shed maxEntries }
  return tree

/-- The caller that finds nothing in flight. -/
def started (asked : Asked) : Caching RepoTree := do
  let task ← ensureFuture asked
  Task.update fun g => { g with inflight := g.inflight.insert (key asked) task }
  let outcome ← Task.call (.own task)
  keep (key asked) outcome

def cached (asked : Asked) : Caching RepoTree := do
  let g ← Task.read
  match g.trees.get? (key asked) with
  | some hit => do
      Task.update fun g => { g with trees := g.trees.moveToEnd (key asked) }
      return hit
  | none =>
      match g.inflight.get? (key asked) with
      | some running => joined running
      | none => started asked

/-! ## The event loop -/

abbrev Suspended := Slot Globals CacheOp CacheRep Raised RepoTree

/-- `cancelled` says that it was asked to cancel, `thrown` that its await will raise for it. -/
structure Caller where
  asked : Asked
  cancelled : Bool := false
  thrown : Bool := false
  slot : Suspended

structure Loop where
  globals : Globals := {}
  callers : List Caller := []

inductive Event
  | call (asked : Asked)
  | settle (task : Nat) (outcome : Except Raised RepoTree)
  | resume (i : Nat)
  | cancel (i : Nat)
  deriving DecidableEq

def isCancelled : Except Raised RepoTree → Bool
  | .error .cancelled => true
  | _ => false

/-- How a fetch ends: once, and cancelled only if it was asked to be. -/
def Fetch.settle (fetch : Fetch) (outcome : Except Raised RepoTree) : Fetch :=
  if fetch.outcome.isSome || (isCancelled outcome && !fetch.cancelling) then fetch
  else { fetch with outcome := some outcome }

def Globals.setFetch (g : Globals) (task : Nat) (f : Fetch → Fetch) : Globals :=
  { g with fetches := g.fetches.modify task f }

def answer (g : Globals) (caller : Caller) (op : CacheOp) : Option (Except Raised RepoTree) :=
  if caller.thrown then some (.error .cancelled) else g.outcome op.task

/-- `task.cancel()`. To await a task is to own it: the request goes on to a task that runs,
and a shield keeps it to the caller. -/
def requested (loop : Loop) (i : Nat) (caller : Caller) (op : CacheOp) : Loop :=
  match op, loop.globals.outcome op.task with
  | .own task, none => {
      globals := loop.globals.setFetch task fun fetch => { fetch with cancelling := true }
      callers := loop.callers.set i { caller with cancelled := true } }
  | _, _ => { loop with
      callers := loop.callers.set i { caller with cancelled := true, thrown := true } }

/-- What happens at an event. One that cannot happen here changes nothing. -/
def step (loop : Loop) : Event → Loop
  | .call asked =>
      let ran := Slot.ofProc (cached asked loop.globals)
      ⟨ran.1, loop.callers ++ [⟨asked, false, false, ran.2⟩]⟩
  | .settle task outcome =>
      { loop with globals := loop.globals.setFetch task fun fetch => fetch.settle outcome }
  | .resume i =>
      match loop.callers[i]? with
      | some ⟨asked, cancelled, thrown, .running op k⟩ =>
          match answer loop.globals ⟨asked, cancelled, thrown, .running op k⟩ op with
          | some outcome =>
              let ran := Slot.ofProc (k outcome loop.globals)
              ⟨ran.1, loop.callers.set i ⟨asked, cancelled, false, ran.2⟩⟩
          | none => loop
      | _ => loop
  | .cancel i =>
      match loop.callers[i]? with
      | some ⟨asked, cancelled, thrown, .running op k⟩ =>
          requested loop i ⟨asked, cancelled, thrown, .running op k⟩ op
      | _ => loop

def play (events : List Event) : Loop := events.foldl step {}

end KuWarden.TreeCache
