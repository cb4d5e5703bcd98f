import KuWarden.Config
import KuWarden.Flows.State

/-!
The delivery flow: a router at intake, a bounded cycle of Coder, Push and Build & Test,
verifiers fanning out over a brief, a gate whose depth comes from the risk tier, release.
-/
namespace KuWarden

open Process

def verifierIds : List String := [
  "verifier.correctness",
  "verifier.security",
  "verifier.test_evidence",
  "verifier.regression_risk"]

/-- Built from the allow-list: what it does not name stays at its default. -/
def verifierBrief (state : FlowState) : FlowState where
  runId := state.runId
  rootRunId := state.rootRunId
  parentRunId := state.parentRunId
  schemaVersion := state.schemaVersion
  policyCommit := state.policyCommit
  policyBundle := state.policyBundle
  ticket := state.ticket
  diff := state.diff
  proposedEdits := state.proposedEdits
  branch := state.branch
  baseBranch := state.baseBranch
  baseCommit := state.baseCommit
  headCommit := state.headCommit
  ciResult := state.ciResult
  sandboxResult := state.sandboxResult
  ciDetail := state.ciDetail
  sastResult := state.sastResult
  coverage := state.coverage
  sandboxIsolation := state.sandboxIsolation
  sandboxGaps := state.sandboxGaps
  riskTier := state.riskTier

namespace Flow

/-- The text of an `ApplicationError`: its type, then what the activity's exception said. -/
def applicationError (e : PyError) : String :=
  e.kind.name ++ ": " ++ if e.message = "" then "Application error" else e.message

/-- The exception a failed activity raises, as far as the record keeps it. -/
def failureOf (e : PyError) : FlowExc := .failure e.kind.name (Text.take 500 (applicationError e))

def failure : FlowExc → Payload
  | .rejected reason _ => .failure "_Rejected" (Text.take 500 reason)
  | .failure error message => .failure error message

def emit (kind : String) (payload : Payload := .empty) (nodeId : Option String := none)
    (controlMode : Option String := none) : Flow Unit := do
  Task.update fun flow => { flow with seq := flow.seq + 1 }
  let flow ← Task.read
  Task.call (FlowOp.recordEvent ⟨flow.seq, kind, nodeId, payload, controlMode⟩)

/-- The flow after an object it may know as its latest was mutated. -/
def seen (obj : Obj) (flow : DeliveryFlow) : DeliveryFlow :=
  { flow with latest := flow.latest.map fun latest =>
      if latest.id = obj.id then obj else latest }

def mutate (obj : Obj) (f : FlowState → FlowState) : Flow Obj := do
  let obj := { obj with val := f obj.val }
  Task.update (seen obj)
  return obj

/-- A new object, published as the latest before anything else can fail. -/
def publish (state : FlowState) : Flow Obj := do
  let flow ← Task.read
  let obj : Obj := ⟨flow.fresh, state⟩
  Task.update fun flow => { flow with fresh := flow.fresh + 1, latest := some obj }
  return obj

def execute (nodeId : String) (state : FlowState) : Flow (Except PyError FlowState) := do
  let flow ← Task.read
  Task.call (FlowOp.runNode nodeId (nodeId ++ "#" ++ Text.ofNat flow.seq) state)

def nodeOutcome (nodeId : String) (record : Bool) : Except PyError FlowState → Flow Obj
  | .error exc => do
      emit "node_failed" (failure (failureOf exc)) (some nodeId)
      Task.raise (failureOf exc)
  | .ok state => do
      let result ← publish state
      if record then
        emit "node_completed" (.notes result.val.notes) (some nodeId)
        mutate result fun state => { state with notes := none }
      else return result

def nodeStep (nodeId : String) (state : FlowState) (record : Bool := true) :
    Flow Obj := do
  Task.update fun flow => { flow with node := some nodeId }
  if record then emit "node_started" .empty (some nodeId)
  let reply ← execute nodeId state
  nodeOutcome nodeId record reply

def setStatus (status : String) : Flow Unit :=
  Task.call (FlowOp.recordRunStatus status)

def verdictRow (v : Verification) : VerdictRow :=
  ⟨v.verifier, !v.passed, v.findings, v.graded⟩

/-- Emit what each verifier wrote down, in the order of `VERIFIERS`, and take its
verdicts over. -/
def collect : List (String × Obj) → Obj → Flow Obj
  | [], obj => return obj
  | (verifierId, result) :: rest, obj => do
      let obj ← mutate obj fun state => { state with
        verifications := state.verifications ++ result.val.verifications }
      if result.val.notes.isSome then
        emit "verifier_verdict" (.notes result.val.notes) (some verifierId)
      let _ ← mutate result fun state => { state with notes := none }
      collect rest obj

def verify (obj : Obj) : Flow Obj := do
  emit "verifiers_started" (.verifiersStarted verifierIds.length)
  Task.call (FlowOp.startVerifiers (verifierBrief obj.val))
  let gathered ← Task.call FlowOp.gatherVerifiers
  let results : List Obj ← Task.ofExcept gathered
  let obj ← mutate obj fun state => { state with
    spendMicroCents := combine
      (state.spendMicroCents :: results.map fun r => r.val.spendMicroCents) }
  let obj ← collect (verifierIds.zip results) obj
  let verifications := obj.val.verifications
  emit "verifiers_completed" (.verifiersCompleted
    (verifications.filter Verification.passed).length verifierIds.length
    ((verifications.filter fun v => !v.passed).map Verification.verifier)
    (verifications.map verdictRow))
  Task.update fun flow => { flow with latest := some obj }
  return obj

/-- What the gate waits for. -/
def decided (needed : Nat) (approvals : List ApprovalSignal) : Bool :=
  approvals.any (fun a => !a.approved) ||
    (approvals.filter ApprovalSignal.approved).length ≥ needed

def approvalOf (tier : RiskTier) (a : ApprovalSignal) : Approval :=
  ⟨a.principal, a.approved, tier, a.evidenceDigest, a.comment⟩

/-- The running page of the change, for whoever decides. -/
def publishPreview (state : FlowState) : Flow Unit :=
  match nonEmpty state.headCommit with
  | none => pure ()
  | some commit => do
      let preview : String ← Task.call (FlowOp.readPreviewUrl commit)
      if preview ≠ "" then
        emit "preview_published" (.previewPublished preview commit)

/-- Wait until the gate is decided. What has arrived by then, a late signal included. -/
def suspend (needed : Nat) (state : FlowState) : Flow (List ApprovalSignal) := do
  Task.update fun flow => { flow with status := "suspended" }
  setStatus "suspended"
  let notified ← Task.call (FlowOp.notifyGateReached
    ⟨state.ticket.id, state.riskTier, needed⟩)
  match notified with
  | .error exc => Task.raise (failureOf exc)
  | .ok _ =>
      Task.call (FlowOp.waitCondition needed)
      Task.update fun flow => { flow with status := "running" }
      setStatus "running"
      let flow ← Task.read
      return flow.approvals

/-- Take the signals over, and let the change pass unless one of them rejects it. -/
def count (signals : List ApprovalSignal) (obj : Obj) : Flow Obj := do
  let obj ← mutate obj fun state => { state with
    approvals := signals.map (approvalOf state.riskTier) }
  if signals.any fun a => !a.approved then
    emit "gate_rejected"
    Task.raise (.rejected "rejected by an approver" [])
  else
    emit "gate_passed" (.gatePassed false)
    return obj

def gate (obj : Obj) : Flow Obj := do
  let needed := requiredApprovals obj.val.riskTier
  publishPreview obj.val
  emit "gate_reached" (.gateReached obj.val.riskTier needed)
  if needed = 0 then
    emit "gate_passed" (.gatePassed true)
    return obj
  else
    let signals ← suspend needed obj.val
    count signals obj

def verdictPayload (state : FlowState) (verdict : CIResult) : Payload :=
  .buildTestVerdict verdict.exitCode verdict.source verdict.durationMs verdict.url
    verdict.isExternalAnchor (state.sandboxResult.map CIResult.exitCode) state.ciDetail

def pass (attempt : Nat) (obj : Obj) : Flow Obj := do
  let obj ← mutate obj fun state => { state with pushAttempt := attempt }
  let obj ← nodeStep "coder" obj.val
  let obj ← nodeStep "push" obj.val
  let changed := (obj.val.diff.map Diff.files).getD []
  emit "branch_pushed" (.branchPushed obj.val.branch obj.val.headCommit
    obj.val.baseCommit attempt changed) (some "push")
  Task.call (FlowOp.recordRunFiles attempt changed)
  let obj ← nodeStep "build_test" obj.val
  match obj.val.ciResult with
  | none => pure ()
  | some verdict =>
      emit "build_test_verdict" (verdictPayload obj.val verdict) (some "build_test")
  return obj

/-- Whether a pass ends the cycle. -/
def green (state : FlowState) : Bool :=
  match state.ciResult with
  | some verdict => verdict.exitCode = 0
  | none => false

/-- The passes that are left; a cycle that runs out of them rejects the change. -/
def cycle : List Nat → Obj → Flow Obj
  | [], _ => Task.raise (.rejected "retry budget exhausted" [])
  | attempt :: rest, obj => do
      let obj ← pass attempt obj
      if green obj.val then return obj else cycle rest obj

/-- `_final_tier`: the rules may only argue upward. -/
def finalTier (state : FlowState) (params : FlowInput) : RiskTier × String :=
  let (proposed, reason) := tierForDiff state.riskTier state.diff params.riskRules
  (state.riskTier.raiseTo proposed, reason)

/-- `set(params.blocking_verifiers) or set(_ALL_VERIFIER_NAMES)`. -/
def blockingSet (params : FlowInput) : List String :=
  if params.blockingVerifiers = [] then allVerifiers else params.blockingVerifiers

def overriddenDetail : String :=
  "these verifiers falsified the change and were not permitted to block it, because this " ++
    "application declares them advisory"

/-- The second and authoritative tiering stage. -/
def settleTier (params : FlowInput) (obj : Obj) : Flow Obj := do
  let provisional := obj.val.riskTier
  let (tier, reason) := finalTier obj.val params
  let obj ← mutate obj fun state => { state with
    riskTier := tier
    riskTierReason := reason
    provisionalRiskTier := some provisional }
  emit "risk_tier_final" (.riskTierFinal tier provisional reason
    ((obj.val.diff.map fun d => d.files.length).getD 0))
  return obj

/-- Reject the change if a verifier that may block falsified it. -/
def judge (params : FlowInput) (obj : Obj) : Flow Obj := do
  let failed := obj.val.verifications.filter fun v => !v.passed
  let falsified := failed.filter fun v => (blockingSet params).contains v.verifier
  let overridden := (failed.filter fun v =>
    !(blockingSet params).contains v.verifier).map Verification.verifier
  let obj ← mutate obj fun state => { state with advisoryObjections := overridden }
  if overridden ≠ [] then
    emit "verifier_overridden" (.verifierOverridden overridden overriddenDetail)
  if falsified ≠ [] then
    Task.raise (.rejected "a verifier falsified the change"
      (falsified.map Verification.verifier))
  return obj

/-- The row a merge is recorded as. -/
def effectPayload (state : FlowState) (commit : String) : Payload :=
  .externalEffect "merge" commit state.branch state.baseBranch state.riskTier
    (match state.ciResult with
      | some verdict => verdict.source.text
      | none => "none")

def reportIsolation (state : FlowState) : Flow Unit :=
  match state.sandboxIsolation with
  | none => pure ()
  | some isolation => emit "sandbox_isolation" (.sandboxIsolation isolation state.sandboxGaps)

def reportEffect (state : FlowState) : Flow Unit :=
  match nonEmpty state.mergedCommit with
  | none => pure ()
  | some commit =>
      emit "external_effect" (effectPayload state commit) (some "release")
        (some "authorized")

/-- Everything that comes before Release. -/
def approach (params : FlowInput) (obj : Obj) : Flow Obj := do
  let obj ← nodeStep "triage" obj.val
  let obj ← nodeStep "planner" obj.val
  let obj ← cycle (List.range (params.maxCoderRetries + 1).toNat) obj
  reportIsolation obj.val
  let obj ← settleTier params obj
  let obj ← verify obj
  let obj ← judge params obj
  gate obj

def deliver (params : FlowInput) (obj : Obj) : Flow Obj := do
  let obj ← approach params obj
  let obj ← nodeStep "release" obj.val
  reportEffect obj.val
  return obj

def emitCleanup (state : FlowState) : Flow Unit :=
  match nonEmpty state.cleanup with
  | none => pure ()
  | some detail => emit "compensated" (.compensated detail) (some "compensate")

def finish : Flow Unit := do
  let flow ← Task.read
  let spend := match flow.latest with
    | some obj => obj.val.spendMicroCents
    | none => some 0
  emit "run_cost" (.runCost spend (asText spend) lastReviewed)
  let flow ← Task.read
  Task.call (FlowOp.recordRunEnded flow.status)

def initial (params : FlowInput) : FlowState where
  runId := params.runId
  rootRunId := params.rootRunId.getD params.runId
  parentRunId := params.parentRunId
  appName := params.appName
  ticket := params.ticket
  policyCommit := params.policyCommit
  policyBundle := params.policyBundle
  riskTier := params.provisionalRiskTier
  budgetCentsAllowed := params.budgetCentsAllowed

def started (params : FlowInput) : RunStarted where
  rootRunId := params.rootRunId.getD params.runId
  parentRunId := params.parentRunId
  appId := params.appId
  ticketSystem := params.ticket.system
  ticketId := params.ticket.id
  riskTier := params.provisionalRiskTier
  schemaVersion := 1
  policyCommit := params.policyCommit
  policyBundle := params.policyBundle

/-- The state compensation is handed: the most recent one, or the initial one. -/
def doomed (obj : Obj) : Flow Obj := do
  let flow ← Task.read
  return flow.latest.getD obj

/-- The end every run but a failed one comes to. -/
def conclude (params : FlowInput) (obj : Obj) : Flow FlowResult := do
  let obj ← nodeStep "reporter" obj.val
  finish
  let flow ← Task.read
  return ⟨params.runId, flow.status, obj.val.riskTier, flow.seq⟩

/-- How a run ends. Compensation and Reporter run whatever stopped it. -/
def ending (params : FlowInput) (obj : Obj) : Except FlowExc Obj → Flow FlowResult
  | .ok obj => do
      Task.update fun flow => { flow with status := "succeeded" }
      conclude params obj
  | .error (.rejected reason falsifiedBy) => do
      emit "aborting" (.aborting reason falsifiedBy)
      let lost ← doomed obj
      let lost ← mutate lost fun state => { state with rejectedBy := falsifiedBy }
      let obj ← nodeStep "compensate" lost.val
      emitCleanup obj.val
      Task.update fun flow => { flow with status := "rejected" }
      conclude params obj
  | .error (.failure error message) => do
      emit "run_failed" (.failure error message)
      let lost ← doomed obj
      let obj ← nodeStep "compensate" lost.val
      emitCleanup obj.val
      Task.update fun flow => { flow with status := "failed" }
      let _ ← nodeStep "reporter" obj.val
      finish
      Task.raise (.failure error message)

def run (params : FlowInput) : Flow FlowResult := do
  let flow ← Task.read
  let obj : Obj := ⟨flow.fresh, initial params⟩
  Task.update fun flow => { flow with fresh := flow.fresh + 1 }
  Task.call (FlowOp.recordRunStarted (started params))
  let outcome ← Task.attempt (deliver params obj)
  ending params obj outcome

end Flow
end KuWarden
