import KuWarden.Evidence
import KuWarden.Flows.Numbering
import KuWarden.Process.Positions

/-!
An approver's decision: the evidence is assembled again, its digest compared with the one the
approver was shown, the run's status read, and the decision sent to the workflow as a signal.
Each read is a step of its own, beside the workflow and beside everyone else who decides.
-/
namespace KuWarden.Api

open Process

structure Decision where
  approved : Bool
  evidenceDigest : String
  comment : String := ""

/-- The body of an answer that says `recorded: true`. -/
structure Recorded where
  approved : Bool
  principal : String
  deriving DecidableEq

inductive DecideOp
  | fetchRun
  | fetchEvents
  | fetchAppName (appId : UUID)
  | fetchWorkflowId
  | fetchStatus
  | connect
  | signal (workflowId : Option String) (a : ApprovalSignal)
  | respond (answer : Except ApiExc Recorded)

def DecideRep : DecideOp → Type
  | .fetchRun => Except PyError (Option Evidence.Run)
  | .fetchEvents => Except PyError (List Evidence.Row)
  | .fetchAppName _ => Except PyError (Option String)
  | .fetchWorkflowId => Except PyError (Option String)
  | .fetchStatus => Except PyError (Option String)
  | .connect => Except PyError Unit
  | .signal _ _ => Except PyError Unit
  | .respond _ => Unit

abbrev Decide (α : Type) := Task Unit DecideOp DecideRep ApiExc α

namespace Decide

def ask (op : DecideOp) : Decide (DecideRep op) := Task.call op

/-- `assemble(run_id)`, where a run that is not there is no run to the caller. -/
def assemble (runId : UUID) : Decide Evidence.Document := do
  let run ← Task.ofExcept (raising (← ask .fetchRun))
  match run with
  | none => Task.ofExcept (abort 404 ("no run " ++ runId.text))
  | some run => do
      let rows ← Task.ofExcept (raising (← ask .fetchEvents))
      let appName ← Task.ofExcept (raising (← ask (.fetchAppName run.row.started.appId)))
      return Evidence.document runId run rows appName

def changedDetail : String :=
  "the evidence changed after this page was loaded, so this decision would be " ++
    "recorded against something you did not read. Reload and decide again."

def unreachable (exc : PyError) : ApiExc :=
  .http 503 ("the Flow Engine is unreachable: " ++ exc.message)

/-- The signal a decision is sent as: the authenticated identity, and the digest that was
computed here. -/
def signalOf (body : Decision) (principal digest : String) : ApprovalSignal :=
  ⟨principal, body.approved, digest, body.comment⟩

/-- Send the decision to the workflow, if the run is waiting for one. -/
def forward (body : Decision) (principal digest : String) : Decide Recorded := do
  let workflowId ← Task.ofExcept (raising (← ask .fetchWorkflowId))
  let status ← Task.ofExcept (raising (← ask .fetchStatus))
  if status ≠ some "suspended" then
    Task.ofExcept (abort 409 ("this run is " ++ status.getD "None" ++
      "; it is not waiting for a decision"))
  else do
    Task.ofExcept ((← ask .connect).mapError unreachable)
    Task.ofExcept ((← ask (.signal workflowId (signalOf body principal digest))).mapError
      unreachable)
    return ⟨body.approved, principal⟩

/-- `digest_of` is SHA-256 over a canonical rendering of the document. -/
def decide (digestOf : Evidence.Document → String) (runId : UUID) (body : Decision)
    (principal : String) : Decide Recorded := do
  let document ← assemble runId
  if digestOf document ≠ body.evidenceDigest then
    Task.ofExcept (abort 409 changedDetail)
  else forward body principal (digestOf document)

/-- One request, up to its answer. -/
def serve (digestOf : Evidence.Document → String) (runId : UUID) (body : Decision)
    (principal : String) : Decide Unit := do
  let answer ← (decide digestOf runId body principal).attempt
  Task.call (DecideOp.respond answer)

/-! ## The run beside it -/

open KuWarden.Flow

variable {W Lbl : Type} (adapters : Adapters W Lbl) (worker : Worker)

/-- The workflow moves; whoever else decides moves it by a signal. -/
inductive Moves : Unit → FlowConfig W → Unit → Unit → FlowConfig W → Prop
  | flow {c c'} : (system adapters worker).Step c c' → Moves () c () () c'

/-- `SELECT … ORDER BY seq`. -/
def Ordered (rows : List Evidence.Row) (trail : List EventRecorded) : Prop :=
  (rows.map Evidence.Row.event).Perm trail ∧
    (rows.map Evidence.Row.event).Pairwise fun a b => a.seq ≤ b.seq

/-- The run that a signal has reached. -/
def delivered (c : FlowConfig W) (a : ApprovalSignal) : Option (FlowConfig W) :=
  match c.proc with
  | .await s op k => some ⟨.await { s with approvals := s.approvals ++ [a] } op k, c.world,
      c.history ++ [.env (.signal a)]⟩
  | .done _ _ => none

/-- What a call of the request may answer. A signal whose answer is lost may have arrived. -/
inductive Serves : Unit → FlowConfig W → (op : DecideOp) → DecideRep op → Unit →
    FlowConfig W → Prop
  | fetchRun {c} (run : Option Evidence.Run) :
      run.map Evidence.Run.row = c.world.store.row → Serves () c .fetchRun (.ok run) () c
  | fetch_run_failed {c} (exc : PyError) : Serves () c .fetchRun (.error exc) () c
  | fetchEvents {c} (rows : List Evidence.Row) : Ordered rows c.world.store.trail →
      Serves () c .fetchEvents (.ok rows) () c
  | fetch_events_failed {c} (exc : PyError) : Serves () c .fetchEvents (.error exc) () c
  | fetchAppName {c appId} (reply : Except PyError (Option String)) :
      Serves () c (.fetchAppName appId) reply () c
  | fetchWorkflowId {c} (reply : Except PyError (Option String)) :
      Serves () c .fetchWorkflowId reply () c
  | fetchStatus {c} :
      Serves () c .fetchStatus (.ok (c.world.store.row.map RunRow.status)) () c
  | fetch_status_failed {c} (exc : PyError) : Serves () c .fetchStatus (.error exc) () c
  | connect {c} (reply : Except PyError Unit) : Serves () c .connect reply () c
  | signal {c c' workflowId a} : delivered c a = some c' →
      Serves () c (.signal workflowId a) (.ok ()) () c'
  | signal_failed {c workflowId a} (exc : PyError) :
      Serves () c (.signal workflowId a) (.error exc) () c
  | signal_lost {c c' workflowId a} (exc : PyError) : delivered c a = some c' →
      Serves () c (.signal workflowId a) (.error exc) () c'

def deciding : System Unit (FlowConfig W) DecideOp DecideRep Unit where
  serve := Serves
  env := Moves adapters worker

abbrev DecideHistory := History DecideOp DecideRep Unit

/-- A signal that arrives is a step of the run. -/
theorem step_of_delivered {c c' : FlowConfig W} {a : ApprovalSignal}
    (arrives : delivered c a = some c') : (system adapters worker).Step c c' := by
  obtain ⟨proc, world, history⟩ := c
  cases proc with
  | done s r => cases arrives
  | await s op k =>
      cases arrives
      exact .env op k history (.signal a)

end Decide
end KuWarden.Api
