import KuWarden.Flows.Delivery
import KuWarden.Process.Calls

/-!
Which calls each stretch of a flow makes. The verifiers are started and awaited in one
place, the status is written in one place, and the end of the run is recorded last.
-/
namespace KuWarden.Flow

open Process

/-- The nodes that the gate's approvals are handed to. -/
def heirs : List String := ["release", "compensate"]

/-- What the main line calls anywhere. -/
def Plain : FlowOp → Prop
  | .recordEvent event => event.kind ≠ "build_test_verdict"
  | .recordRunFiles _ _ | .readPreviewUrl _ => True
  | .runNode nodeId _ _ => nodeId ∉ heirs ∧ nodeId ≠ "coder"
  | _ => False

/-- What only a pass of the cycle calls besides. -/
def Cycles : FlowOp → Prop
  | .recordEvent event => event.kind = "build_test_verdict"
  | .runNode nodeId _ _ => nodeId = "coder"
  | _ => False

def HandsOver : FlowOp → Prop
  | .runNode nodeId _ _ => nodeId ∈ heirs
  | _ => False

def FansOut : FlowOp → Prop
  | .startVerifiers _ | .gatherVerifiers => True
  | _ => False

/-- What it calls while a human is awaited. -/
def Suspends : FlowOp → Prop
  | .recordRunStatus _ | .notifyGateReached _ | .waitCondition _ => True
  | _ => False

def EndsRun : FlowOp → Prop
  | .recordRunEnded _ => True
  | _ => False

section Events

variable {ops : FlowOp → Prop} {obj : Obj} {state : FlowState}

theorem mutate_only {f : FlowState → FlowState} : (mutate obj f).Only ops :=
  Task.only_bind (Task.only_update _) fun _ => Task.only_pure _

theorem publish_only : (publish state).Only ops :=
  Task.only_bind Task.only_read fun _ => Task.only_bind (Task.only_update _) fun _ =>
    Task.only_pure _

theorem record_only {kind : String} {payload : Payload} {nodeId mode : Option String}
    (records : ∀ seq, ops (.recordEvent ⟨seq, kind, nodeId, payload, mode⟩)) :
    (emit kind payload nodeId mode).Only ops :=
  Task.only_bind (Task.only_update _) fun _ => Task.only_bind Task.only_read fun _ =>
    Task.only_call (records _)

variable (events : ∀ event, event.kind ≠ "build_test_verdict" → ops (.recordEvent event))

include events

theorem event_only {kind : String} {payload : Payload} {nodeId mode : Option String}
    (other : kind ≠ "build_test_verdict") : (emit kind payload nodeId mode).Only ops :=
  record_only fun _ => events _ other

theorem outcome_only {nodeId : String} {record : Bool} {reply : Except PyError FlowState} :
    (nodeOutcome nodeId record reply).Only ops := by
  cases reply with
  | error exc => exact Task.only_bind (event_only events (by simp)) fun _ => Task.only_raise _
  | ok state =>
      refine Task.only_bind publish_only fun result => ?_
      split
      · exact Task.only_bind (event_only events (by simp)) fun _ => mutate_only
      · exact Task.only_pure _

theorem step_only {nodeId : String}
    (node : ∀ activityId, ops (.runNode nodeId activityId state)) :
    (nodeStep nodeId state).Only ops :=
  Task.only_bind (Task.only_update _) fun _ => Task.only_bind (event_only events (by simp)) fun _ =>
    Task.only_bind (Task.only_bind Task.only_read fun _ => Task.only_call (node _))
      fun _ => outcome_only events

theorem cleanup_only : (emitCleanup state).Only ops := by
  unfold emitCleanup
  split
  · exact Task.only_pure _
  · exact event_only events (by simp)

end Events

section Calls

variable {ops : FlowOp → Prop} (plain : ∀ op, Plain op → ops op)
  {params : FlowInput} {obj : Obj} {state : FlowState}

include plain

theorem emit_only {kind : String} {payload : Payload} {nodeId mode : Option String}
    (other : kind ≠ "build_test_verdict") : (emit kind payload nodeId mode).Only ops :=
  event_only (fun _ other => plain _ other) other

theorem any_step_only {nodeId : String}
    (node : ∀ activityId, ops (.runNode nodeId activityId state)) :
    (nodeStep nodeId state).Only ops :=
  step_only (fun _ other => plain _ other) node

theorem node_step_only {nodeId : String} (other : nodeId ∉ heirs ∧ nodeId ≠ "coder") :
    (nodeStep nodeId state).Only ops :=
  any_step_only plain fun _ => plain _ other

theorem heir_step_only (hands : ∀ op, HandsOver op → ops op) {nodeId : String}
    (heir : nodeId ∈ heirs) : (nodeStep nodeId state).Only ops :=
  any_step_only plain fun _ => hands _ heir

theorem pass_only (cycles : ∀ op, Cycles op → ops op) {attempt : Nat} :
    (pass attempt obj).Only ops := by
  refine Task.only_bind mutate_only fun _ =>
    Task.only_bind (any_step_only plain fun _ => cycles _ rfl) fun _ =>
    Task.only_bind (node_step_only plain (by decide)) fun _ => ?_
  refine Task.only_bind (emit_only plain (by simp)) fun _ =>
    Task.only_bind (Task.only_call (plain _ trivial)) fun _ =>
    Task.only_bind (node_step_only plain (by decide)) fun built => ?_
  split
  · exact Task.only_pure _
  · exact Task.only_bind (record_only fun _ => cycles _ rfl) fun _ => Task.only_pure _

theorem cycle_only (cycles : ∀ op, Cycles op → ops op) {attempts : List Nat} :
    (cycle attempts obj).Only ops := by
  induction attempts generalizing obj with
  | nil => exact Task.only_raise _
  | cons attempt rest ih =>
      refine Task.only_bind (pass_only plain cycles) fun _ => ?_
      split
      · exact Task.only_pure _
      · exact ih

theorem report_isolation_only : (reportIsolation state).Only ops := by
  unfold reportIsolation
  split
  · exact Task.only_pure _
  · exact emit_only plain (by simp)

theorem settle_tier_only : (settleTier params obj).Only ops :=
  Task.only_bind mutate_only fun _ => Task.only_bind (emit_only plain (by simp)) fun _ =>
    Task.only_pure _

theorem collect_only {results : List (String × Obj)} : (collect results obj).Only ops := by
  induction results generalizing obj with
  | nil => exact Task.only_pure _
  | cons result rest ih =>
      refine Task.only_bind mutate_only fun _ => ?_
      dsimp only
      split
      · exact Task.only_bind (emit_only plain (by simp)) fun _ => Task.only_bind mutate_only fun _ => ih
      · exact Task.only_bind mutate_only fun _ => ih

theorem verify_only (fans : ∀ op, FansOut op → ops op) : (verify obj).Only ops :=
  Task.only_bind (emit_only plain (by simp)) fun _ =>
    Task.only_bind (Task.only_call (fans _ trivial)) fun _ =>
    Task.only_bind (Task.only_call (fans _ trivial)) fun _ =>
    Task.only_bind (Task.only_ofExcept _) fun _ => Task.only_bind mutate_only fun _ =>
    Task.only_bind (collect_only plain) fun _ => Task.only_bind (emit_only plain (by simp)) fun _ =>
    Task.only_bind (Task.only_update _) fun _ => Task.only_pure _

theorem judge_only : (judge params obj).Only ops := by
  refine Task.only_bind mutate_only fun _ => ?_
  dsimp only
  split
  · refine Task.only_bind (emit_only plain (by simp)) fun _ => ?_
    split
    · exact Task.only_bind (Task.only_raise _) fun _ => Task.only_pure _
    · exact Task.only_pure _
  · split
    · exact Task.only_bind (Task.only_raise _) fun _ => Task.only_pure _
    · exact Task.only_pure _

theorem publish_preview_only : (publishPreview state).Only ops := by
  unfold publishPreview
  split
  · exact Task.only_pure _
  · refine Task.only_bind (Task.only_call (plain _ trivial)) fun preview => ?_
    split
    · exact emit_only plain (by simp)
    · exact Task.only_pure _

omit plain in
theorem suspend_only (suspends : ∀ op, Suspends op → ops op) {needed : Nat} :
    (suspend needed state).Only ops := by
  refine Task.only_bind (Task.only_update _) fun _ =>
    Task.only_bind (Task.only_call (suspends _ trivial)) fun _ =>
    Task.only_bind (Task.only_call (suspends _ trivial)) fun notified => ?_
  cases notified with
  | error exc => exact Task.only_raise _
  | ok _ =>
      exact Task.only_bind (Task.only_call (suspends _ trivial)) fun _ =>
        Task.only_bind (Task.only_update _) fun _ =>
        Task.only_bind (Task.only_call (suspends _ trivial)) fun _ =>
        Task.only_bind Task.only_read fun _ => Task.only_pure _

theorem count_only {signals : List ApprovalSignal} : (count signals obj).Only ops := by
  refine Task.only_bind mutate_only fun _ => ?_
  split
  · exact Task.only_bind (emit_only plain (by simp)) fun _ => Task.only_raise _
  · exact Task.only_bind (emit_only plain (by simp)) fun _ => Task.only_pure _

theorem gate_only (suspends : ∀ op, Suspends op → ops op) : (gate obj).Only ops := by
  refine Task.only_bind (publish_preview_only plain) fun _ =>
    Task.only_bind (emit_only plain (by simp)) fun _ => ?_
  split
  · exact Task.only_bind (emit_only plain (by simp)) fun _ => Task.only_pure _
  · exact Task.only_bind (suspend_only suspends) fun _ => count_only plain

theorem report_effect_only : (reportEffect state).Only ops := by
  unfold reportEffect
  split
  · exact Task.only_pure _
  · exact emit_only plain (by simp)

theorem approach_only (cycles : ∀ op, Cycles op → ops op) (fans : ∀ op, FansOut op → ops op)
    (suspends : ∀ op, Suspends op → ops op) : (approach params obj).Only ops :=
  Task.only_bind (node_step_only plain (by decide)) fun _ =>
    Task.only_bind (node_step_only plain (by decide)) fun _ =>
    Task.only_bind (cycle_only plain cycles) fun _ =>
    Task.only_bind (report_isolation_only plain) fun _ =>
    Task.only_bind (settle_tier_only plain) fun _ =>
    Task.only_bind (verify_only plain fans) fun _ => Task.only_bind (judge_only plain) fun _ =>
    gate_only plain suspends

theorem deliver_only (cycles : ∀ op, Cycles op → ops op) (fans : ∀ op, FansOut op → ops op)
    (suspends : ∀ op, Suspends op → ops op)
    (release : ∀ activityId state, ops (.runNode "release" activityId state)) :
    (deliver params obj).Only ops :=
  Task.only_bind (approach_only plain cycles fans suspends) fun _ =>
    Task.only_bind (any_step_only plain fun _ => release _ _) fun _ =>
    Task.only_bind (report_effect_only plain) fun _ => Task.only_pure _

theorem emit_cleanup_only : (emitCleanup state).Only ops :=
  cleanup_only fun _ other => plain _ other

omit plain in
theorem doomed_only : (doomed obj).Only ops :=
  Task.only_bind Task.only_read fun _ => Task.only_pure _

theorem finish_only (ends : ∀ op, EndsRun op → ops op) : finish.Only ops :=
  Task.only_bind Task.only_read fun _ => Task.only_bind (emit_only plain (by simp)) fun _ =>
    Task.only_bind Task.only_read fun _ => Task.only_call (ends _ trivial)

theorem conclude_only (ends : ∀ op, EndsRun op → ops op) : (conclude params obj).Only ops :=
  Task.only_bind (node_step_only plain (by decide)) fun _ =>
    Task.only_bind (finish_only plain ends) fun _ => Task.only_bind Task.only_read fun _ =>
    Task.only_pure _

/-- What follows an exception, which Release has no part in. -/
theorem ending_only (ends : ∀ op, EndsRun op → ops op)
    (compensate : ∀ activityId state, ops (.runNode "compensate" activityId state))
    {outcome : Except FlowExc Obj} : (ending params obj outcome).Only ops := by
  rcases outcome with (⟨reason, falsifiedBy⟩ | ⟨error, message⟩) | obj
  · exact Task.only_bind (emit_only plain (by simp)) fun _ => Task.only_bind doomed_only fun _ =>
      Task.only_bind mutate_only fun _ =>
      Task.only_bind (any_step_only plain fun _ => compensate _ _) fun _ =>
      Task.only_bind (emit_cleanup_only plain) fun _ => Task.only_bind (Task.only_update _)
      fun _ => conclude_only plain ends
  · exact Task.only_bind (emit_only plain (by simp)) fun _ => Task.only_bind doomed_only fun _ =>
      Task.only_bind (any_step_only plain fun _ => compensate _ _) fun _ =>
      Task.only_bind (emit_cleanup_only plain) fun _ => Task.only_bind (Task.only_update _)
      fun _ => Task.only_bind (node_step_only plain (by decide)) fun _ =>
      Task.only_bind (finish_only plain ends) fun _ => Task.only_raise _
  · exact Task.only_bind (Task.only_update _) fun _ => conclude_only plain ends

end Calls

/-! ## The end of the run is recorded last -/

theorem not_endsRun_of_plain : ∀ op, Plain op → ¬ EndsRun op := by
  intro op plain ends
  cases op <;> trivial

theorem not_endsRun_of_cycles : ∀ op, Cycles op → ¬ EndsRun op := by
  intro op cycles ends
  cases op <;> trivial

theorem not_endsRun_of_handsOver : ∀ op, HandsOver op → ¬ EndsRun op := by
  intro op hands ends
  cases op <;> trivial

theorem finish_ends : finish.Ends EndsRun :=
  Task.ends_bind Task.only_read fun _ => Task.ends_bind (emit_only not_endsRun_of_plain (by simp))
    fun _ => Task.ends_bind Task.only_read fun _ => Task.ends_call

theorem conclude_ends {params : FlowInput} {obj : Obj} : (conclude params obj).Ends EndsRun :=
  Task.ends_bind (node_step_only not_endsRun_of_plain (by decide)) fun _ =>
    Task.ends_bind_done finish_ends fun _ _ => trivial

theorem ending_ends {params : FlowInput} {obj : Obj} {outcome : Except FlowExc Obj} :
    (ending params obj outcome).Ends EndsRun := by
  have plain := not_endsRun_of_plain
  have hands := not_endsRun_of_handsOver
  rcases outcome with (⟨reason, falsifiedBy⟩ | ⟨error, message⟩) | obj
  · exact Task.ends_bind (emit_only plain (by simp)) fun _ => Task.ends_bind doomed_only fun _ =>
      Task.ends_bind mutate_only fun _ =>
      Task.ends_bind (heir_step_only plain hands (by decide)) fun _ =>
      Task.ends_bind (emit_cleanup_only plain) fun _ => Task.ends_bind (Task.only_update _)
      fun _ => conclude_ends
  · exact Task.ends_bind (emit_only plain (by simp)) fun _ => Task.ends_bind doomed_only fun _ =>
      Task.ends_bind (heir_step_only plain hands (by decide)) fun _ =>
      Task.ends_bind (emit_cleanup_only plain) fun _ => Task.ends_bind (Task.only_update _)
      fun _ => Task.ends_bind (node_step_only plain (by decide)) fun _ =>
      Task.ends_bind_done finish_ends fun _ _ => trivial
  · exact Task.ends_bind (Task.only_update _) fun _ => conclude_ends

theorem run_ends (params : FlowInput) : (run params).Ends EndsRun :=
  Task.ends_bind Task.only_read fun _ => Task.ends_bind (Task.only_update _) fun _ =>
    Task.ends_bind (Task.only_call id) fun _ =>
    Task.ends_bind (Task.only_attempt (deliver_only not_endsRun_of_plain
      not_endsRun_of_cycles
      (fun op fans ends => by cases op <;> trivial)
      (fun op suspends ends => by cases op <;> trivial) fun _ _ => id)) fun _ => ending_ends

end KuWarden.Flow
