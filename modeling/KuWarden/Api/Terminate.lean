import KuWarden.Activities.RunRow
import KuWarden.Flows.Numbering
import KuWarden.Process.Positions

/-!
Stopping a run from the Workbench: four reads and writes of the API, beside a workflow that
records its events until the workflow server stops it, and beside the recordings that were
already executing then.
-/
namespace KuWarden

namespace AuditStore

/-- `SELECT COALESCE(MAX(seq), 0) + 1 FROM flow_events …`. -/
def nextSeq (store : AuditStore) : Nat := (store.trail.map EventRecorded.seq).foldr max 0 + 1

def later (best : Option EventRecorded) (row : EventRecorded) : Option EventRecorded :=
  match best with
  | some known => if known.seq ≤ row.seq then some row else some known
  | none => some row

/-- `payload->>'branch'`. -/
def branchOf : Payload → Option String
  | .branchPushed branch _ _ _ _ => branch
  | .externalEffect _ _ branch _ _ _ => branch
  | _ => none

/-- `SELECT payload->>'branch' … WHERE kind = 'branch_pushed' ORDER BY seq DESC LIMIT 1`. -/
def lastBranch (store : AuditStore) : Option String :=
  ((store.trail.filter fun row => row.kind = "branch_pushed").foldl later none).bind
    fun row => branchOf row.payload

theorem lt_next_seq {store : AuditStore} {row : EventRecorded} (mem : row ∈ store.trail) :
    row.seq < store.nextSeq := by
  have bound : ∀ {rows : List EventRecorded}, row ∈ rows →
      row.seq ≤ (rows.map EventRecorded.seq).foldr max 0 := by
    intro rows mem
    induction rows with
    | nil => cases mem
    | cons first rest ih =>
        rcases List.mem_cons.mp mem with rfl | mem
        · exact le_max_left _ _
        · exact (ih mem).trans (le_max_right _ _)
  exact Nat.lt_succ_of_le (bound mem)

theorem last_branch_concat {store : AuditStore} {row : EventRecorded} {branch : Option String}
    (last : store.lastBranch = branch)
    (same : row.kind = "branch_pushed" → branchOf row.payload = branch) :
    ({ store with trail := store.trail ++ [row] } : AuditStore).lastBranch = branch := by
  unfold lastBranch at last ⊢
  dsimp only
  rw [List.filter_append]
  by_cases pushed : row.kind = "branch_pushed"
  · rw [List.filter_cons_of_pos (by simpa using pushed), List.filter_nil, List.foldl_concat]
    cases best : (store.trail.filter fun row => row.kind = "branch_pushed").foldl later none with
    | none => exact same pushed
    | some known =>
        rw [best] at last
        show (if known.seq ≤ row.seq then some row else some known).bind _ = branch
        split
        · exact same pushed
        · exact last
  · rw [List.filter_cons_of_neg (by simpa using pushed), List.filter_nil, List.append_nil]
    exact last

end AuditStore

namespace Api

open Process

inductive StopOp
  | fetchRun
  | fetchBranch
  | fetchNextSeq
  | connect
  | terminate (reason : String)
  | insertEvent (event : EventRecorded)
  | updateRow
  | respond (answer : Except ApiExc (String × Option String))

/-- A run's row is read as its status; its workflow, which the row names, is the one of the
run. -/
def StopRep : StopOp → Type
  | .fetchRun => Except PyError (Option String)
  | .fetchBranch => Except PyError (Option String)
  | .fetchNextSeq => Except PyError Nat
  | .connect => Except PyError Unit
  | .terminate _ => Except PyError Unit
  | .insertEvent _ => Except PyError Unit
  | .updateRow => Except PyError Unit
  | .respond _ => Unit

abbrev Stop (α : Type) := Task Unit StopOp StopRep ApiExc α

namespace Stop

def ask (op : StopOp) : Stop (StopRep op) := Task.call op

def unreachable (exc : PyError) : ApiExc :=
  .http 503 ("the Flow Engine is unreachable: " ++ exc.message)

def halt (principal : String) : Stop Unit := do
  Task.ofExcept ((← ask .connect).mapError unreachable)
  Task.ofExcept ((← ask (.terminate ("terminated from the Workbench by " ++ principal))).mapError
    unreachable)

def terminated (seq : Nat) (principal was : String) (branch : Option String) : EventRecorded :=
  ⟨seq, "run_terminated", none, .runTerminated principal was
    "terminated from the Workbench; compensation did not run" branch, none⟩

/-- Written after the terminate succeeded, never before. -/
def record (seq : Nat) (principal was : String) (branch : Option String) : Stop Unit := do
  Task.ofExcept (raising (← ask (.insertEvent (terminated seq principal was branch))))
  Task.ofExcept (raising (← ask .updateRow))

/-- Who is answered to have stopped the run, and the branch that is left behind. -/
def terminateRun (runId : UUID) (principal : String) : Stop (String × Option String) := do
  let row ← Task.ofExcept (raising (← ask .fetchRun))
  match row with
  | none => Task.ofExcept (abort 404 ("no run " ++ runId.text))
  | some status =>
      if status ≠ "running" ∧ status ≠ "suspended" then
        Task.ofExcept (abort 409 ("this run is " ++ status ++ "; there is nothing to stop"))
      else do
        let branch ← Task.ofExcept (raising (← ask .fetchBranch))
        let seq ← Task.ofExcept (raising (← ask .fetchNextSeq))
        halt principal
        record seq principal status branch
        return (principal, branch)

/-- One request, up to its answer. The run's recordings may go on after it. -/
def serve (runId : UUID) (principal : String) : Stop Unit := do
  let answer ← (terminateRun runId principal).attempt
  Task.call (StopOp.respond answer)

/-! ## The run beside it -/

open KuWarden.Flow

/-- The workflow, and the run's rows once it is stopped. -/
structure World (W : Type) where
  flow : FlowConfig W
  after : Option AuditStore := none

variable {W Lbl : Type} (adapters : Adapters W Lbl) (worker : Worker)

def World.store (w : World W) : AuditStore := w.after.getD w.flow.world.store

/-- The recordings that a stopped workflow left executing. -/
def World.executing (w : World W) : List EventRecorded :=
  pending w.flow.world.pool ++ inFlight w.flow.history

inductive StopMove
  | flow (landed : List EventRecorded)
  | late (event : EventRecorded)

/-- The workflow takes a step, or a recording that it left behind lands. -/
inductive Moves : Unit → World W → StopMove → Unit → World W → Prop
  | flow {w c} : w.after = none → (system adapters worker).Step w.flow c →
      Moves () w (.flow (c.world.store.trail.drop w.flow.world.store.trail.length)) ()
        { w with flow := c }
  | late {w store event} : w.after = some store → event ∈ w.executing →
      Moves () w (.late event) () { w with after := some (store.recordEvent event) }

/-- What a call of the request may answer. A workflow that is over is not terminated, and
what failed may have taken effect. -/
inductive Serves : Unit → World W → (op : StopOp) → StopRep op → Unit → World W → Prop
  | fetchRun {w} :
      Serves () w .fetchRun (.ok (w.store.row.map RunRow.status)) () w
  | fetch_run_failed {w} (exc : PyError) : Serves () w .fetchRun (.error exc) () w
  | fetchBranch {w} : Serves () w .fetchBranch (.ok w.store.lastBranch) () w
  | fetch_branch_failed {w} (exc : PyError) : Serves () w .fetchBranch (.error exc) () w
  | fetchNextSeq {w} : Serves () w .fetchNextSeq (.ok w.store.nextSeq) () w
  | fetch_next_seq_failed {w} (exc : PyError) : Serves () w .fetchNextSeq (.error exc) () w
  | connect {w} (reply : Except PyError Unit) : Serves () w .connect reply () w
  | terminate {w reason} : w.after = none → (∃ op, w.flow.Awaits op) →
      Serves () w (.terminate reason) (.ok ()) () { w with after := some w.flow.world.store }
  | terminate_failed {w reason} (exc : PyError) :
      Serves () w (.terminate reason) (.error exc) () w
  | terminate_lost {w reason} (exc : PyError) : w.after = none → (∃ op, w.flow.Awaits op) →
      Serves () w (.terminate reason) (.error exc) () { w with after := some w.flow.world.store }
  | insertEvent {w store event} : w.after = some store →
      Serves () w (.insertEvent event) (.ok ()) ()
        { w with after := some (store.recordEvent event) }
  | insert_event_failed {w event} (exc : PyError) :
      Serves () w (.insertEvent event) (.error exc) () w
  | insert_event_lost {w store event} (exc : PyError) : w.after = some store →
      Serves () w (.insertEvent event) (.error exc) ()
        { w with after := some (store.recordEvent event) }
  | updateRow {w store} (now : Nat) : w.after = some store →
      Serves () w .updateRow (.ok ()) () { w with after := some (store.terminate now) }
  | update_row_failed {w} (exc : PyError) : Serves () w .updateRow (.error exc) () w
  | update_row_lost {w store} (exc : PyError) (now : Nat) : w.after = some store →
      Serves () w .updateRow (.error exc) () { w with after := some (store.terminate now) }

def stopping : System Unit (World W) StopOp StopRep StopMove where
  serve := Serves
  env := Moves adapters worker

end Stop
end Api
end KuWarden
