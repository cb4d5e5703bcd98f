import KuWarden.Activities.Audit
import KuWarden.Activities.Nodes
import KuWarden.Flows.Delivery

/-!
The system a delivery flow runs in: its activities, the store they write, the signals
that reach it, and the verifiers that run beside it.
-/
namespace KuWarden

open Process

abbrev VerifierPool := Pool DeliveryFlow FlowOp FlowRep FlowExc Obj String

/-- `W` is the world the nodes' adapters act on. -/
structure FlowWorld (W : Type) where
  adapters : W
  store : AuditStore := {}
  pool : VerifierPool := .empty

/-- What moves while the flow waits: a signal arrives, or a verifier beside it takes the
answer to its call. -/
inductive FlowMove
  | signal (a : ApprovalSignal)
  | verifier (nodeId : String) (l : Label FlowOp FlowRep Empty)

namespace Flow

variable {W Lbl : Type}

/-- The code of one verifier of the fan-out. -/
def branch (brief : FlowState) (nodeId : String) : Flow Obj := nodeStep nodeId brief false

/-- What a call may answer, and what it does. -/
inductive Serves (adapters : Adapters W Lbl) (worker : Worker) :
    DeliveryFlow → FlowWorld W → (op : FlowOp) → FlowRep op → DeliveryFlow → FlowWorld W →
      Prop
  | recordRunStarted {s w run} :
      Serves adapters worker s w (.recordRunStarted run) () s
        { w with store := w.store.recordRunStarted run }
  | recordEvent {s w event} :
      Serves adapters worker s w (.recordEvent event) () s
        { w with store := w.store.recordEvent event }
  | recordRunFiles {s w attempt files} :
      Serves adapters worker s w (.recordRunFiles attempt files) () s
        { w with store := w.store.recordRunFiles attempt files }
  | recordRunStatus {s w status} :
      Serves adapters worker s w (.recordRunStatus status) () s
        { w with store := w.store.recordRunStatus status }
  | recordRunEnded {s w status} (now : Nat) :
      Serves adapters worker s w (.recordRunEnded status) () s
        { w with store := w.store.recordRunEnded status now }
  | runNode {s w nodeId activityId state attempts result a} :
      Executes adapters worker nodeId state w.adapters attempts result a →
      Serves adapters worker s w (.runNode nodeId activityId state) result s
        { w with adapters := a }
  | readPreviewUrl {s w commit} (url : String) :
      Serves adapters worker s w (.readPreviewUrl commit) url s w
  | notifyGateReached {s w notice} (addressed : Except PyError Nat) :
      Serves adapters worker s w (.notifyGateReached notice) addressed s w
  | waitCondition {s w needed} : decided needed s.approvals = true →
      Serves adapters worker s w (.waitCondition needed) () s w
  | startVerifiers {s w brief} :
      Serves adapters worker s w (.startVerifiers brief) ()
        (Pool.start (branch brief) verifierIds s).1
        { w with pool := (Pool.start (branch brief) verifierIds s).2 }
  | gatherVerifiers {s w reply} : w.pool.Joins reply →
      Serves adapters worker s w .gatherVerifiers reply s w

inductive Moves (adapters : Adapters W Lbl) (worker : Worker) :
    DeliveryFlow → FlowWorld W → FlowMove → DeliveryFlow → FlowWorld W → Prop
  | signal {s w} (a : ApprovalSignal) :
      Moves adapters worker s w (.signal a) { s with approvals := s.approvals ++ [a] } w
  | verifier {s w nodeId l s' w' pool} :
      Pool.Move (Serves adapters worker) s w w.pool (nodeId, l) s' w' pool →
      Moves adapters worker s w (.verifier nodeId l) s' { w' with pool := pool }

def system (adapters : Adapters W Lbl) (worker : Worker) :
    System DeliveryFlow (FlowWorld W) FlowOp FlowRep FlowMove where
  serve := Serves adapters worker
  env := Moves adapters worker

abbrev FlowHistory := History FlowOp FlowRep FlowMove

abbrev FlowConfig (W : Type) :=
  Config DeliveryFlow (FlowWorld W) FlowOp FlowRep FlowMove (Except FlowExc FlowResult)

/-- Every configuration some run of the flow passes through. -/
def Runs (adapters : Adapters W Lbl) (worker : Worker) (params : FlowInput) (a : W)
    (c : FlowConfig W) : Prop :=
  (system adapters worker).Reaches (.launch (run params {}) ⟨a, {}, .empty⟩ []) c

/-! ## The trail only grows -/

variable {adapters : Adapters W Lbl} {worker : Worker}

theorem record_event_grows (store : AuditStore) (event : EventRecorded) :
    store.trail <+: (store.recordEvent event).trail := by
  unfold AuditStore.recordEvent
  split
  · exact List.prefix_rfl
  · exact List.prefix_append _ _

theorem serves_trail {s s' : DeliveryFlow} {w w' : FlowWorld W} {op : FlowOp}
    {r : FlowRep op} (served : Serves adapters worker s w op r s' w') :
    w.store.trail <+: w'.store.trail := by
  cases served with
  | recordEvent => exact record_event_grows _ _
  | recordRunStarted =>
      unfold AuditStore.recordRunStarted
      dsimp only
      split <;> exact List.prefix_rfl
  | _ => exact List.prefix_rfl

/-- The trail only grows. -/
theorem step_trail {c c' : FlowConfig W} (step : (system adapters worker).Step c c') :
    c.world.store.trail <+: c'.world.store.trail := by
  have launched : ∀ {p : Proc DeliveryFlow FlowOp FlowRep (Except FlowExc FlowResult)}
      {w : FlowWorld W} {h : FlowHistory}, (Config.launch p w h).world = w := by
    intro p w h
    cases p <;> rfl
  cases step with
  | env op k h moved =>
      cases moved with
      | signal a => exact List.prefix_rfl
      | verifier moved =>
          cases moved with
          | answer found served =>
              have grown := serves_trail served
              exact grown
  | reply op k h r served =>
      rw [launched]
      exact serves_trail served

theorem reaches_trail {c c' : FlowConfig W} (run : (system adapters worker).Reaches c c') :
    c.world.store.trail <+: c'.world.store.trail := by
  induction run with
  | refl => exact List.prefix_rfl
  | tail _ step ih => exact ih.trans (step_trail step)

end Flow
end KuWarden
