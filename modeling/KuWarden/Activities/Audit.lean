import KuWarden.Flows.State

/-!
The run's row and its audit trail, as the audit activities write them. Each write may be
executed again, and a repeat of it changes nothing.
-/
namespace KuWarden

structure RunRow where
  started : RunStarted
  status : String
  endedAt : Option Nat := none

structure RunFile where
  path : String
  added : Nat
  removed : Nat
  attempt : Nat
  deriving DecidableEq

/-- What the database holds of one run. -/
structure AuditStore where
  row : Option RunRow := none
  trail : List EventRecorded := []
  files : List RunFile := []

namespace AuditStore

/-- `INSERT … ON CONFLICT (id) DO NOTHING`. -/
def recordRunStarted (store : AuditStore) (run : RunStarted) : AuditStore :=
  match store.row with
  | some _ => store
  | none => { store with row := some { started := run, status := "running" } }

/-- `INSERT … ON CONFLICT (run_id, seq) DO NOTHING`. -/
def recordEvent (store : AuditStore) (event : EventRecorded) : AuditStore :=
  if store.trail.any fun row => row.seq = event.seq then store
  else { store with trail := store.trail ++ [event] }

/-- Guarded on the current status. -/
def recordRunStatus (store : AuditStore) (status : String) : AuditStore :=
  { store with row := store.row.map fun row =>
      if row.status = "running" ∨ row.status = "suspended" then { row with status } else row }

/-- `INSERT … ON CONFLICT (run_id, path) DO UPDATE`, for one file. -/
def upsertFile (files : List RunFile) (file : RunFile) : List RunFile :=
  if files.any fun f => f.path = file.path then
    files.map fun f => if f.path = file.path then file else f
  else files ++ [file]

def recordRunFiles (store : AuditStore) (attempt : Nat) (files : List FileChange) :
    AuditStore :=
  { store with files := files.foldl (fun rows f =>
      upsertFile rows ⟨f.path, f.added, f.removed, attempt⟩) store.files }

def recordRunEnded (store : AuditStore) (status : String) (now : Nat) : AuditStore :=
  { store with row := store.row.map fun row => { row with status, endedAt := some now } }

theorem record_event_fresh {store : AuditStore} {event : EventRecorded}
    (fresh : ∀ row ∈ store.trail, row.seq ≠ event.seq) :
    (store.recordEvent event).trail = store.trail ++ [event] := by
  unfold recordEvent
  rw [if_neg]
  simpa using fresh

end AuditStore
end KuWarden
