import KuWarden.Api.Governing

/-!
The service hook: a work item that moves into the ready state starts a run.

The endpoint keeps nothing between two requests. What it remembers of a run it started is
the delivery log it writes itself and the `flow_runs` rows the workers write; whether an id
was ever started is the workflow server's to say.
-/
namespace KuWarden.Api

open Process

/-- One inbound request: the presented token, `""` without one, and the body. -/
structure Delivery where
  token : String := ""
  payload : Dict

structure Trigger where
  label : Option String
  readyState : Option String
  appName : String

/-- A row of `trigger_deliveries`, of the one provider that delivers. -/
structure DeliveryRow where
  appId : UUID
  workItem : String
  revision : Int
  started : Bool := false
  reason : Option String := none
  runId : Option UUID := none

structure Answer where
  started : Bool
  reason : Option String
  runId : Option UUID
  workflowId : Option String

inductive StartRefused
  | alreadyStarted
  | failed (exc : PyError)

inductive HookOp
  | receive
  | fetchTrigger (appId : UUID)
  | fetchDelivered (appId : UUID) (workItem : String)
  | fetchWorkflowIds (appId : UUID) (workItem : String)
  | connect
  | resolveConfig (appId : UUID)
  | uuid4
  | startWorkflow (request : Request) (governing : DeclaredRules × List String)
      (workflowId : String) (rejectDuplicate : Bool)
  | insertDelivery (row : DeliveryRow)

def HookRep : HookOp → Type
  | .receive => Delivery
  | .fetchTrigger _ => Except PyError (Option Trigger)
  | .fetchDelivered _ _ => Except PyError (Option Int)
  | .fetchWorkflowIds _ _ => Except PyError (List String)
  | .connect => Except PyError Unit
  | .resolveConfig _ => Except PyError AppConfig
  | .uuid4 => UUID
  | .startWorkflow _ _ _ _ => Except StartRefused Unit
  | .insertDelivery _ => Except PyError Unit

abbrev Hook (α : Type) := Task Unit HookOp HookRep ApiExc α

namespace Hook

def ask (op : HookOp) : Hook (HookRep op) := Task.call op

/-! ## Reading the request -/

/-- `hmac.compare_digest` on two strings. -/
def compareDigest (presented secret : String) : Except ApiExc Bool :=
  if presented.toList.all (·.toNat < 128) ∧ secret.toList.all (·.toNat < 128) then
    .ok (presented = secret)
  else
    .error (.raised (Value.typeError
      "comparing strings with non-ASCII characters is not supported"))

def authenticate (secret token : String) : Except ApiExc Unit := do
  if secret = "" then
    abort 503 ("KUWARDEN_WEBHOOK_SECRET is not set, so this endpoint cannot tell Azure DevOps " ++
      "from anyone else who found the URL. Set it and restart the API.")
  let same ← compareDigest token secret
  if ¬ same then abort 401 "bad or missing X-KuWarden-Token"

/-- Tags on the work item after the update, lowercased. -/
def tags (block : Value) : Except ApiExc (List String) := do
  let fields ← raising ((← raising block.asDict).getD "fields" (.dict [])).asDict
  let raw := ((fields.get "System.Tags").orElse (.str "")).text
  let pieces := (Text.splitChars ';' raw.toList).map String.ofList
  return (pieces.filter fun tag => Text.strip tag ≠ "").map fun tag =>
    Text.casefold (Text.strip tag)

/-- What a payload says it is about: the update, the work item's block in it, the item's id
and its revision. -/
structure Update where
  resource : Dict
  block : Value
  item : String
  revision : Int

/-- `v or block.get(key)`. -/
def orGet (v block : Value) (key : String) : Except ApiExc Value :=
  if v.truthy then .ok v else raising (block.asDict.map fun entries => entries.get key)

def readUpdate (payload : Dict) : Except ApiExc Update := do
  let resource ← raising ((payload.get "resource").orElse (.dict [])).asDict
  let block := (resource.get "revision").orElse (.dict [])
  let workItem ← orGet (resource.get "workItemId") block "id"
  if ¬ workItem.truthy then abort 422 "payload carried neither workItemId nor revision.id"
  let rev ← orGet (resource.get "rev") block "rev"
  let revision ← raising (rev.orElse (.int 0)).toInt
  return ⟨resource, block, workItem.text, revision⟩

inductive Verdict
  | refused (item : String) (revision : Int) (reason : String)
  | admitted (item : String) (revision : Int)

/-- The admission checks that need the payload alone, in the order they are made. -/
def examine (trigger : Option Trigger) (payload : Dict) : Except ApiExc (Trigger × Verdict) :=
  do
  let some trigger := trigger
    | abort 404 "no azure_devops trigger is configured for this application"
  let readyState := trigger.readyState.getD ""
  if readyState = "" then
    abort 409 ("this trigger has no ready_state, so there is no transition to fire on. Set one " ++
      "in the Workbench before pointing a service hook here.")
  let ⟨resource, block, item, revision⟩ ← readUpdate payload
  let changed ← raising ((resource.get "fields").orElse (.dict [])).asDict
  let stateChange ← raising ((changed.get "System.State").orElse (.dict [])).asDict
  let newState := ((stateChange.get "newValue").orElse (.str "")).text
  if newState = "" then return (trigger, .refused item revision "not a state change")
  if Text.casefold newState ≠ Text.casefold readyState then
    return (trigger, .refused item revision
      ("moved to " ++ Text.repr newState ++ ", which does not admit"))
  let label := trigger.label.getD ""
  let labels ← if label = "" then pure [] else tags block
  if label ≠ "" ∧ Text.casefold label ∉ labels then
    return (trigger, .refused item revision
      ("does not carry the " ++ Text.repr label ++ " tag"))
  return (trigger, .admitted item revision)

/-! ## Workflow ids -/

def hookWorkflowId (appId : UUID) (workItem : String) (revision : Int) : String :=
  "kuwarden-ado-" ++ appId.text ++ "-" ++ workItem ++ "-r" ++ Text.ofInt revision

/-- `re.fullmatch(r"kuwarden-ado-.+-r(\d+)", workflow_id)`, the group as a number: the
digits at the end are the group, since no digit stands before them. -/
def revisionOf (workflowId : String) : Option Int :=
  let cs := workflowId.toList.reverse
  let digits := (cs.takeWhile Unicode.isDecimal).reverse
  match cs.dropWhile Unicode.isDecimal with
  | 'r' :: '-' :: rest =>
      let front := rest.reverse
      let stem := "kuwarden-ado-".toList
      let middle := front.drop stem.length
      if digits ≠ [] ∧ stem <+: front ∧ middle ≠ [] ∧ '\n' ∉ middle then
        some (Value.digitsValue digits)
      else none
  | _ => none

/-! ## The endpoint -/

/-- Record one inbound delivery, and give the body to answer with. A failed record does not
fail the delivery. -/
def delivered (row : DeliveryRow) (workflowId : Option String := none) : Hook Answer := do
  let _ ← ask (.insertDelivery row)
  return ⟨row.started, row.reason.filter (· ≠ ""), row.runId, workflowId.filter (· ≠ "")⟩

/-- A delivery that starts nothing, and why. -/
def ignored (appId : UUID) (workItem : String) (revision : Int) (reason : String) :
    Hook Answer :=
  delivered { appId, workItem, revision, reason := some reason }

def supersededBy (appId : UUID) (workItem : String) (revision : Int) :
    Hook (Option Int) := do
  let delivered ← Task.ofExcept (raising (← ask (.fetchDelivered appId workItem)))
  let rows ← Task.ofExcept (raising (← ask (.fetchWorkflowIds appId workItem)))
  let seen := rows.filterMap revisionOf ++ delivered.toList
  return seen.max?.filter (revision ≤ ·)

/-- `_launch`, which starts one DeliveryFlow: the run's id and the workflow's. -/
def launch (appId : UUID) (ticketId provider workflowId appName : String)
    (rejectDuplicate : Bool) : Hook (Except StartRefused (UUID × String)) := do
  let resolved ← ask (.resolveConfig appId)
  let governs ← Task.ofExcept (raising (governing resolved))
  let runId ← ask .uuid4
  let started ← ask (.startWorkflow ⟨runId, appId, ticketId, provider, appName⟩
    governs workflowId rejectDuplicate)
  return Except.map (fun _ => (runId, workflowId)) started

/-- What follows the admission checks: the guard, and the start. -/
def start (appId : UUID) (trigger : Trigger) (item : String) (revision : Int) :
    Hook Answer := do
  match ← supersededBy appId item revision with
  | some newest =>
      ignored appId item revision ("revision " ++ Text.ofInt revision ++
        " is not newer than r" ++ Text.ofInt newest ++ ", already run")
  | none =>
      match ← ask .connect with
      | .error exc =>
          Task.ofExcept (abort 503 ("the Flow Engine is unreachable: " ++ exc.message))
      | .ok _ =>
          match ← launch appId item "azure_devops" (hookWorkflowId appId item revision)
            trigger.appName true with
          | .ok (runId, workflowId) =>
              delivered
                { appId, workItem := item, revision, started := true, runId := some runId }
                (some workflowId)
          | .error .alreadyStarted =>
              ignored appId item revision "already started for this revision"
          | .error (.failed exc) => Task.raise (.raised exc)

def azureDevopsHook (secret : String) (appId : UUID) (delivery : Delivery) :
    Hook Answer := do
  Task.ofExcept (authenticate secret delivery.token)
  let event := delivery.payload.get "eventType"
  if (event.orElse (.str "")).text ≠ "workitem.updated" then
    ignored appId "" 0 ("ignoring " ++ event.repr)
  else do
    let trigger ← Task.ofExcept (raising (← ask (.fetchTrigger appId)))
    match ← Task.ofExcept (examine trigger delivery.payload) with
    | (_, .refused item revision reason) =>
        ignored appId item revision reason
    | (trigger, .admitted item revision) => start appId trigger item revision

/-- The endpoint on the next `n` requests, one after another. What a request raises answers
that request and no other. -/
def serve (secret : String) (appId : UUID) : Nat → Hook Unit
  | 0 => pure ()
  | n + 1 => do
      let delivery ← ask .receive
      let _ ← (azureDevopsHook secret appId delivery).attempt
      serve secret appId n

end Hook
end KuWarden.Api
