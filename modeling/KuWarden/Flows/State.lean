import KuWarden.Process.Background
import KuWarden.Process.Logic
import KuWarden.Policy.Pricing
import KuWarden.Policy.Tiering

/-!
What a delivery flow holds between two awaits, and what it asks of its activities.

A state that flows along the edges is an object: the flow mutates it in place, and
`latest` may name the same one.
-/
namespace KuWarden

structure FlowInput where
  runId : UUID
  appId : UUID
  ticket : Ticket
  policyCommit : String
  policyBundle : Dict := []
  appName : String := ""
  provisionalRiskTier : RiskTier := .low
  riskRules : RiskRules := {}
  blockingVerifiers : List String := []
  budgetCentsAllowed : Int := 0
  maxCoderRetries : Int := 3
  parentRunId : Option UUID := none
  rootRunId : Option UUID := none

structure FlowResult where
  runId : UUID
  status : String
  riskTier : RiskTier
  events : Nat
  deriving DecidableEq

structure ApprovalSignal where
  principal : String
  approved : Bool
  evidenceDigest : String
  comment : String := ""
  deriving DecidableEq

/-- A state, under the identity of the object it is. -/
structure Obj where
  id : Nat
  val : FlowState

/-- What the flow object holds. `fresh` numbers the states that activities return. -/
structure DeliveryFlow where
  seq : Nat := 0
  approvals : List ApprovalSignal := []
  status : String := "running"
  node : Option String := none
  latest : Option Obj := none
  fresh : Nat := 0

/-- Why a flow leaves its main line: a rejection, or an exception reduced to the two
things its record keeps. -/
inductive FlowExc
  | rejected (reason : String) (falsifiedBy : List String)
  | failure (error message : String)
  deriving DecidableEq

/-! ## Events -/

structure VerdictRow where
  verifier : String
  blocks : Bool
  findings : List String
  graded : List Finding
  deriving DecidableEq

inductive Payload
  | empty
  | aborting (reason : String) (falsifiedBy : List String)
  | failure (error message : String)
  | notes (notes : Notes)
  | branchPushed (branch commit base : Option String) (attempt : Nat)
      (files : List FileChange)
  | buildTestVerdict (exitCode : Int) (source : VerdictSource) (durationMs : Int)
      (url : Option String) (independentAnchor : Bool) (sandboxExitCode : Option Int)
      (ciDetail : Option String)
  | sandboxIsolation (state : Isolation) (gaps : List String)
  | riskTierFinal (tier provisional : RiskTier) (reason : String) (filesChanged : Nat)
  | verifiersStarted (count : Nat)
  | verifiersCompleted (passed of_ : Nat) (falsifiedBy : List String)
      (verifications : List VerdictRow)
  | verifierOverridden (advisory : List String) (detail : String)
  | previewPublished (url commit : String)
  | gateReached (tier : RiskTier) (needed : Nat)
  | gatePassed (auto : Bool)
  | externalEffect (effect commit : String) (branch target : Option String)
      (riskTier : RiskTier) (anchor : String)
  | compensated (detail : String)
  | runCost (microCents : Option Int) (readable ratesLastReviewed : String)
  | runTerminated (principal was detail : String) (branchLeftBehind : Option String)
  deriving DecidableEq

structure EventRecorded where
  seq : Nat
  kind : String
  nodeId : Option String := none
  payload : Payload := .empty
  controlMode : Option String := none
  deriving DecidableEq

structure RunStarted where
  rootRunId : UUID
  parentRunId : Option UUID
  appId : UUID
  ticketSystem : String
  ticketId : String
  riskTier : RiskTier
  schemaVersion : Int
  policyCommit : String
  policyBundle : Dict

structure GateNotice where
  ticketId : String
  riskTier : RiskTier
  approvalsNeeded : Nat
  deriving DecidableEq

/-! ## Calls -/

/-- Activities, and the ways a flow waits. The run's id, which every audit activity is
given, is left out. -/
inductive FlowOp
  | recordRunStarted (run : RunStarted)
  | recordEvent (event : EventRecorded)
  | recordRunFiles (attempt : Nat) (files : List FileChange)
  | recordRunStatus (status : String)
  | recordRunEnded (status : String)
  | runNode (nodeId activityId : String) (state : FlowState)
  | readPreviewUrl (commit : String)
  | notifyGateReached (notice : GateNotice)
  | waitCondition (needed : Nat)
  | startVerifiers (brief : FlowState)
  | gatherVerifiers

def FlowRep : FlowOp → Type
  | .runNode _ _ _ => Except PyError FlowState
  | .readPreviewUrl _ => String
  | .notifyGateReached _ => Except PyError Nat
  | .gatherVerifiers => Except FlowExc (List Obj)
  | _ => Unit

abbrev Flow (α : Type) := Process.Task DeliveryFlow FlowOp FlowRep FlowExc α

end KuWarden
