import KuWarden.Activities.Credentials
import KuWarden.Flows.Merge

/-!
Which credentials the nodes of a run hold, and when the one that merges is among them.
-/
namespace KuWarden.Flow

open Process Credentials

variable {W Lbl : Type} {adapters : Adapters W Lbl} {worker : Worker}

/-- What a credential was asked for under, by an attempt at this node from `state`. -/
structure Entitled (adapters : Adapters W Lbl) (worker : Worker) (nodeId : String)
    (state : FlowState) (h : History AdapterOp AdapterRep Lbl) (op : AdapterOp)
    (request : Secrets.CredentialRequest) : Prop where
  granted : request.kind ∈ grants nodeId
  /-- It is for the application that the attempt read its configuration for. -/
  own : ∃ config, .reply .resolveConfig (.ok config) ∈ h ∧ Own config request
  /-- Neither guard turned the call away. -/
  guarded : guards (registry nodeId) op = .ok ()
  /-- The one privileged credential is the one to merge, held by Release alone, which no run
  calls unless it is cleared. -/
  privileged : request.kind ∈ privilegedKinds → request.kind = .scmMerge ∧
    nodeId = "release" ∧ ∀ {params : FlowInput} {a : W} {c : FlowConfig W}
      {before rest : FlowHistory} {activityId : String}, Runs adapters worker params a c →
      c.history = before ++ .call (.runNode nodeId activityId state) :: rest →
      ∃ p verdict, Cleared adapters worker params before state p verdict

/-- `d` is any point of any attempt at any node. -/
theorem credentials_held {nodeId : String} {state : FlowState} {w : W}
    {d : Config FlowState W AdapterOp AdapterRep Lbl (Except PyError Unit)}
    (attempt : adapters.system.Reaches (.launch (runNode worker nodeId state) w []) d)
    {op : AdapterOp} (made : .call op ∈ d.history) {request : Secrets.CredentialRequest}
    (asked : request ∈ requests op) :
    Entitled adapters worker nodeId state d.history op request := by
  obtain ⟨config, resolved, within⟩ := attempt_within attempt made asked
  obtain ⟨granted, own⟩ := within request asked
  refine ⟨granted, ⟨config, resolved, own⟩, guards_ok within, fun privileged => ?_⟩
  obtain ⟨rfl, merges⟩ := grants_privileged granted privileged
  refine ⟨merges, rfl, fun run called => ?_⟩
  obtain ⟨honest, p, verdict, objs, approached⟩ := approached_of_called run called
  exact ⟨p, verdict, cleared_of_approached honest approached⟩

def asksToMerge : Label AdapterOp AdapterRep Empty → Bool
  | .call op => (requests op).any fun request => request.kind = .scmMerge
  | _ => false

theorem credentials_held_obliged : ∃ state op request before activityId rest,
    obligedRun.history = before ++ .call (.runNode "release" activityId state) :: rest ∧
    request.kind = .scmMerge ∧
    Entitled obliging plainWorker "release" state (obligedRelease state).history op request := by
  have merged : (match obligedState with
      | some state => (obligedRelease state).history.any asksToMerge
      | none => false) = true := by decide +kernel
  split at merged
  next state found =>
    obtain ⟨before, activityId, rest, called⟩ := called_of_findSome found
    obtain ⟨l, mem, asks⟩ := List.any_eq_true.mp merged
    unfold asksToMerge at asks
    split at asks
    next op =>
      obtain ⟨request, asked, kind⟩ := List.any_eq_true.mp asks
      exact ⟨state, op, request, before, activityId, rest, called, of_decide_eq_true kind,
        credentials_held (Schedule.play_reaches _ _ _) mem asked⟩
    next => cases asks
  next => cases merged

end KuWarden.Flow
