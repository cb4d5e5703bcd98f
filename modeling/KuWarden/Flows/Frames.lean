import KuWarden.Flows.Histories

/-!
What a stretch of a flow cannot disturb: a predicate that the bookkeeping of the flow, its
events and the nodes it runs all keep.
-/
namespace KuWarden.Flow

open Process

variable {W Lbl : Type} {adapters : Adapters W Lbl} {worker : Worker}

/-- The events whose record says what became of a run. -/
def decisive : List String := ["verifiers_completed", "external_effect", "aborting", "run_cost"]

/-- A write to the flow that leaves its counter and its signals alone does not disturb `P`. -/
def Bookkeeping (P : Assertion DeliveryFlow (FlowWorld W) FlowOp FlowRep FlowMove) : Prop :=
  ∀ s s' w h, s'.seq = s.seq → s'.approvals = s.approvals → P s w h → P s' w h

/-- `P` survives everything but the nodes outside `nodes`, the decisive events and the end of
the run. -/
structure Undisturbed (adapters : Adapters W Lbl) (worker : Worker) (nodes : String → Prop)
    (P : Assertion DeliveryFlow (FlowWorld W) FlowOp FlowRep FlowMove) : Prop where
  bookkeeping : Bookkeeping P
  emit : ∀ {kind payload nodeId mode}, kind ∉ decisive →
    (emit kind payload nodeId mode).Keeps (system adapters worker) P
  call : ∀ {op}, (∀ event, op ≠ .recordEvent event) →
    (∀ status, op ≠ .recordRunEnded status) →
    (∀ nodeId activityId state, op ≠ .runNode nodeId activityId state) →
    (∀ brief, op ≠ .startVerifiers brief) →
    (Task.call op : Flow (FlowRep op)).Keeps (system adapters worker) P
  nodeStep : ∀ {nodeId state}, nodes nodeId →
    (nodeStep nodeId state).Keeps (system adapters worker) P

/-- How the fan-out begins. -/
def fanOut (brief : FlowState) : Flow Unit := do
  emit "verifiers_started" (.verifiersStarted verifierIds.length)
  Task.call (FlowOp.startVerifiers brief)

/-- An event is numbered, and recorded once the flow has waited for it. -/
theorem emit_wp {kind : String} {payload : Payload} {nodeId mode : Option String}
    {s : DeliveryFlow} {w : FlowWorld W} {h : FlowHistory}
    (P : EventRecorded → Assertion DeliveryFlow (FlowWorld W) FlowOp FlowRep FlowMove)
    {I : Assertion DeliveryFlow (FlowWorld W) FlowOp FlowRep FlowMove}
    {Q : Except FlowExc Unit → Assertion DeliveryFlow (FlowWorld W) FlowOp FlowRep FlowMove}
    (moved : ∀ {event s w h l s' w'}, P event s w h → (system adapters worker).env s w l s' w' →
      P event s' w' (h ++ [.env l]))
    (issued : P ⟨s.seq + 1, kind, nodeId, payload, mode⟩ { s with seq := s.seq + 1 } w
      (h ++ [.call (.recordEvent ⟨s.seq + 1, kind, nodeId, payload, mode⟩)]))
    (invariant : ∀ event s w h, P event s w h → I s w h)
    (recorded : ∀ s' w' h', P ⟨s.seq + 1, kind, nodeId, payload, mode⟩ s' w' h' →
      Q (.ok ()) s'
        { w' with store := w'.store.recordEvent ⟨s.seq + 1, kind, nodeId, payload, mode⟩ }
        (h' ++ [.reply (.recordEvent ⟨s.seq + 1, kind, nodeId, payload, mode⟩) ()])) :
    (emit kind payload nodeId mode).wp (system adapters worker) I Q s w h := by
  refine Task.wp_bind.mpr ((Task.wp_update _).mpr (Task.wp_bind.mpr
    (Task.wp_read.mpr (Task.wp_call.mpr ?_))))
  intro s' w' h' drift
  have out := Task.keeps_drift (P := P _) moved issued drift
  refine ⟨invariant _ _ _ _ out, fun r s'' w'' served => ?_⟩
  cases served
  exact recorded _ _ _ out

section Calls

variable {P : Assertion DeliveryFlow (FlowWorld W) FlowOp FlowRep FlowMove}

theorem Bookkeeping.update (kept : Bookkeeping P) {f : DeliveryFlow → DeliveryFlow}
    (seq : ∀ s, (f s).seq = s.seq) (approvals : ∀ s, (f s).approvals = s.approvals) :
    (Task.update f : Flow Unit).Keeps (system adapters worker) P :=
  Task.keeps_update fun s _ _ => kept s (f s) _ _ (seq s) (approvals s)

theorem Bookkeeping.mutate (kept : Bookkeeping P) {obj : Obj} {f : FlowState → FlowState} :
    (mutate obj f).Keeps (system adapters worker) P :=
  Task.keeps_bind (kept.update (fun _ => rfl) fun _ => rfl) fun _ => Task.keeps_pure _

theorem Bookkeeping.publish (kept : Bookkeeping P) {state : FlowState} :
    (publish state).Keeps (system adapters worker) P :=
  Task.keeps_bind Task.keeps_read fun _ =>
    Task.keeps_bind (kept.update (fun _ => rfl) fun _ => rfl) fun _ => Task.keeps_pure _

theorem keeps_node_outcome (kept : Bookkeeping P)
    (emits : ∀ kind payload nodeId, kind ∉ decisive →
      (emit kind payload nodeId).Keeps (system adapters worker) P)
    {nodeId : String} {record : Bool} {reply : Except PyError FlowState} :
    (nodeOutcome nodeId record reply).Keeps (system adapters worker) P := by
  cases reply with
  | error exc =>
      exact Task.keeps_bind (emits _ _ _ (by simp [decisive])) fun _ => Task.keeps_raise _
  | ok state =>
      refine Task.keeps_bind kept.publish fun result => ?_
      split
      · exact Task.keeps_bind (emits _ _ _ (by simp [decisive])) fun _ => kept.mutate
      · exact Task.keeps_pure _

theorem undisturbed_of_calls {nodes : String → Prop} (kept : Bookkeeping P)
    (emits : ∀ kind payload nodeId mode, kind ∉ decisive →
      (emit kind payload nodeId mode).Keeps (system adapters worker) P)
    (call : ∀ op, (∀ event, op ≠ .recordEvent event) →
      (∀ status, op ≠ .recordRunEnded status) →
      (∀ nodeId activityId state, op = .runNode nodeId activityId state → nodes nodeId) →
      (∀ brief, op ≠ .startVerifiers brief) →
      (Task.call op : Flow (FlowRep op)).Keeps (system adapters worker) P) :
    Undisturbed adapters worker nodes P where
  bookkeeping := kept
  emit := emits _ _ _ _
  call event ended node starts :=
    call _ event ended (fun _ _ _ same => absurd same (node _ _ _)) starts
  nodeStep := by
    intro nodeId state allowed
    refine Task.keeps_bind (kept.update (fun _ => rfl) fun _ => rfl) fun _ => ?_
    refine Task.keeps_bind (emits _ _ _ _ (by simp [decisive])) fun _ =>
      Task.keeps_bind ?_ fun _ => keeps_node_outcome kept fun _ _ _ => emits _ _ _ _
    refine Task.keeps_bind Task.keeps_read fun _ => call _ (by simp) (by simp) ?_ (by simp)
    intro _ _ _ same
    cases same
    exact allowed

end Calls

namespace Undisturbed

variable {nodes : String → Prop}
  {P : Assertion DeliveryFlow (FlowWorld W) FlowOp FlowRep FlowMove}

theorem and {Q : Assertion DeliveryFlow (FlowWorld W) FlowOp FlowRep FlowMove}
    (kept : Undisturbed adapters worker nodes P) (kept' : Undisturbed adapters worker nodes Q) :
    Undisturbed adapters worker nodes fun s w h => P s w h ∧ Q s w h where
  bookkeeping s s' w h seq approvals held :=
    ⟨kept.bookkeeping s s' w h seq approvals held.1,
      kept'.bookkeeping s s' w h seq approvals held.2⟩
  emit other := (kept.emit other).and (kept'.emit other)
  call event ended node starts :=
    (kept.call event ended node starts).and (kept'.call event ended node starts)
  nodeStep allowed := (kept.nodeStep allowed).and (kept'.nodeStep allowed)

theorem setStatus (kept : Undisturbed adapters worker nodes P) {status : String} :
    (setStatus status).Keeps (system adapters worker) P :=
  kept.call (by simp) (by simp) (by simp) (by simp)

theorem pass (kept : Undisturbed adapters worker nodes P) {attempt : Nat} {obj : Obj}
    (coder : nodes "coder") (push : nodes "push") (buildTest : nodes "build_test") :
    (pass attempt obj).Keeps (system adapters worker) P := by
  refine Task.keeps_bind kept.bookkeeping.mutate fun _ => Task.keeps_bind (kept.nodeStep coder) fun _ =>
    Task.keeps_bind (kept.nodeStep push) fun pushed => ?_
  refine Task.keeps_bind (kept.emit (by simp [decisive])) fun _ =>
    Task.keeps_bind (kept.call (by simp) (by simp) (by simp) (by simp)) fun _ =>
      Task.keeps_bind (kept.nodeStep buildTest) fun built => ?_
  split
  · exact Task.keeps_pure _
  · exact Task.keeps_bind (kept.emit (by simp [decisive])) fun _ => Task.keeps_pure _

theorem cycle (kept : Undisturbed adapters worker nodes P) {attempts : List Nat} {obj : Obj}
    (coder : nodes "coder") (push : nodes "push") (buildTest : nodes "build_test") :
    (cycle attempts obj).Keeps (system adapters worker) P := by
  induction attempts generalizing obj with
  | nil => exact Task.keeps_raise _
  | cons attempt rest ih =>
      refine Task.keeps_bind (kept.pass coder push buildTest) fun _ => ?_
      split
      · exact Task.keeps_pure _
      · exact ih

theorem reportIsolation (kept : Undisturbed adapters worker nodes P) {state : FlowState} :
    (reportIsolation state).Keeps (system adapters worker) P := by
  unfold Flow.reportIsolation
  split
  · exact Task.keeps_pure _
  · exact kept.emit (by simp [decisive])

theorem settleTier (kept : Undisturbed adapters worker nodes P) {params : FlowInput}
    {obj : Obj} : (settleTier params obj).Keeps (system adapters worker) P :=
  Task.keeps_bind kept.bookkeeping.mutate fun _ =>
    Task.keeps_bind (kept.emit (by simp [decisive])) fun _ => Task.keeps_pure _

theorem collect (kept : Undisturbed adapters worker nodes P) {results : List (String × Obj)}
    {obj : Obj} : (collect results obj).Keeps (system adapters worker) P := by
  induction results generalizing obj with
  | nil => exact Task.keeps_pure _
  | cons result rest ih =>
      refine Task.keeps_bind kept.bookkeeping.mutate fun _ => ?_
      dsimp only
      split
      · exact Task.keeps_bind (kept.emit (by simp [decisive])) fun _ =>
          Task.keeps_bind kept.bookkeeping.mutate fun _ => ih
      · exact Task.keeps_bind kept.bookkeeping.mutate fun _ => ih

/-- What follows the start of the fan-out. -/
theorem gathered (kept : Undisturbed adapters worker nodes P) {obj : Obj}
    (completed : ∀ {payload}, (Flow.emit "verifiers_completed" payload).Keeps
      (system adapters worker) P) :
    (do
      let gathered ← Task.call FlowOp.gatherVerifiers
      let results : List Obj ← Task.ofExcept gathered
      let obj ← Flow.mutate obj fun state => { state with
        spendMicroCents := combine
          (state.spendMicroCents :: results.map fun r => r.val.spendMicroCents) }
      let obj ← Flow.collect (verifierIds.zip results) obj
      let verifications := obj.val.verifications
      Flow.emit "verifiers_completed" (.verifiersCompleted
        (verifications.filter Verification.passed).length verifierIds.length
        ((verifications.filter fun v => !v.passed).map Verification.verifier)
        (verifications.map verdictRow))
      Task.update fun flow => { flow with latest := some obj }
      return obj : Flow Obj).Keeps (system adapters worker) P := by
  refine Task.keeps_bind (kept.call (by simp) (by simp) (by simp) (by simp)) fun _ =>
    Task.keeps_bind (Task.keeps_ofExcept _) fun _ => ?_
  refine Task.keeps_bind kept.bookkeeping.mutate fun _ => Task.keeps_bind kept.collect fun _ =>
    Task.keeps_bind completed fun _ =>
    Task.keeps_bind (kept.bookkeeping.update (fun _ => rfl) fun _ => rfl) fun _ => ?_
  exact Task.keeps_pure _

theorem verify (kept : Undisturbed adapters worker nodes P) {obj : Obj}
    (fans : ∀ brief, (fanOut brief).Keeps (system adapters worker) P)
    (completed : ∀ {payload}, (Flow.emit "verifiers_completed" payload).Keeps
      (system adapters worker) P) : (verify obj).Keeps (system adapters worker) P := by
  exact Task.keeps_pair (fans _) fun _ => kept.gathered completed

theorem judge (kept : Undisturbed adapters worker nodes P) {params : FlowInput} {obj : Obj} :
    (judge params obj).Keeps (system adapters worker) P := by
  refine Task.keeps_bind kept.bookkeeping.mutate fun _ => ?_
  dsimp only
  split
  · refine Task.keeps_bind (kept.emit (by simp [decisive])) fun _ => ?_
    split
    · exact Task.keeps_bind (Task.keeps_raise _) fun _ => Task.keeps_pure _
    · exact Task.keeps_pure _
  · split
    · exact Task.keeps_bind (Task.keeps_raise _) fun _ => Task.keeps_pure _
    · exact Task.keeps_pure _

theorem suspend (kept : Undisturbed adapters worker nodes P) {needed : Nat}
    {state : FlowState} : (suspend needed state).Keeps (system adapters worker) P := by
  refine Task.keeps_bind (kept.bookkeeping.update (fun _ => rfl) fun _ => rfl) fun _ =>
    Task.keeps_bind kept.setStatus fun _ =>
    Task.keeps_bind (kept.call (by simp) (by simp) (by simp) (by simp)) fun notified => ?_
  cases notified with
  | error exc => exact Task.keeps_raise _
  | ok _ =>
      exact Task.keeps_bind (kept.call (by simp) (by simp) (by simp) (by simp)) fun _ =>
        Task.keeps_bind (kept.bookkeeping.update (fun _ => rfl) fun _ => rfl) fun _ =>
        Task.keeps_bind kept.setStatus fun _ =>
        Task.keeps_bind Task.keeps_read fun _ => Task.keeps_pure _

theorem publishPreview (kept : Undisturbed adapters worker nodes P) {state : FlowState} :
    (publishPreview state).Keeps (system adapters worker) P := by
  unfold Flow.publishPreview
  split
  · exact Task.keeps_pure _
  · refine Task.keeps_bind (kept.call (by simp) (by simp) (by simp) (by simp)) fun preview => ?_
    split
    · exact kept.emit (by simp [decisive])
    · exact Task.keeps_pure _

theorem gate (kept : Undisturbed adapters worker nodes P) {obj : Obj} :
    (gate obj).Keeps (system adapters worker) P := by
  refine Task.keeps_bind kept.publishPreview fun _ =>
    Task.keeps_bind (kept.emit (by simp [decisive])) fun _ => ?_
  split
  · exact Task.keeps_bind (kept.emit (by simp [decisive])) fun _ => Task.keeps_pure _
  · refine Task.keeps_bind kept.suspend fun signals =>
      Task.keeps_bind kept.bookkeeping.mutate fun _ => ?_
    split
    · exact Task.keeps_bind (kept.emit (by simp [decisive])) fun _ => Task.keeps_raise _
    · exact Task.keeps_bind (kept.emit (by simp [decisive])) fun _ => Task.keeps_pure _

theorem conclude (kept : Undisturbed adapters worker nodes P) {params : FlowInput}
    {obj : Obj} (reporter : nodes "reporter")
    (finishes : finish.Keeps (system adapters worker) P) :
    (conclude params obj).Keeps (system adapters worker) P :=
  Task.keeps_bind (kept.nodeStep reporter) fun _ => Task.keeps_bind finishes fun _ =>
    Task.keeps_bind Task.keeps_read fun _ => Task.keeps_pure _

theorem approach (kept : Undisturbed adapters worker nodes P) {params : FlowInput}
    {obj : Obj} (triage : nodes "triage") (planner : nodes "planner") (coder : nodes "coder")
    (push : nodes "push") (buildTest : nodes "build_test")
    (fans : ∀ brief, (fanOut brief).Keeps (system adapters worker) P)
    (completed : ∀ {payload}, (Flow.emit "verifiers_completed" payload).Keeps
      (system adapters worker) P) :
    (approach params obj).Keeps (system adapters worker) P :=
  Task.keeps_bind (kept.nodeStep triage) fun _ =>
    Task.keeps_bind (kept.nodeStep planner) fun _ =>
    Task.keeps_bind (kept.cycle coder push buildTest) fun _ =>
    Task.keeps_bind kept.reportIsolation fun _ => Task.keeps_bind kept.settleTier fun _ =>
    Task.keeps_bind (kept.verify fans completed) fun _ => Task.keeps_bind kept.judge fun _ => kept.gate

theorem deliver (kept : Undisturbed adapters worker nodes P) {params : FlowInput} {obj : Obj}
    (triage : nodes "triage") (planner : nodes "planner") (coder : nodes "coder")
    (push : nodes "push") (buildTest : nodes "build_test") (release : nodes "release")
    (fans : ∀ brief, (fanOut brief).Keeps (system adapters worker) P)
    (emits : ∀ {kind payload nodeId mode}, kind ≠ "run_cost" →
      (Flow.emit kind payload nodeId mode).Keeps (system adapters worker) P) :
    (deliver params obj).Keeps (system adapters worker) P := by
  have effect : ∀ state, (reportEffect state).Keeps (system adapters worker) P := by
    intro state
    unfold reportEffect
    split
    · exact Task.keeps_pure _
    · exact emits (by simp)
  exact Task.keeps_bind (kept.approach triage planner coder push buildTest fans
    (emits (by simp))) fun _ => Task.keeps_bind (kept.nodeStep release) fun _ =>
    Task.keeps_bind (effect _) fun _ => Task.keeps_pure _

theorem emitCleanup (kept : Undisturbed adapters worker nodes P) {state : FlowState} :
    (emitCleanup state).Keeps (system adapters worker) P := by
  unfold Flow.emitCleanup
  split
  · exact Task.keeps_pure _
  · exact kept.emit (by simp [decisive])

theorem doomed (_kept : Undisturbed adapters worker nodes P) {obj : Obj} :
    (doomed obj).Keeps (system adapters worker) P :=
  Task.keeps_bind Task.keeps_read fun _ => Task.keeps_pure _

/-- What follows the record of a rejection. -/
theorem aborted (kept : Undisturbed adapters worker nodes P) {params : FlowInput} {obj : Obj}
    {falsifiedBy : List String} (compensate : nodes "compensate")
    (reporter : nodes "reporter") (finishes : finish.Keeps (system adapters worker) P) :
    (do
      let lost ← Flow.doomed obj
      let lost ← Flow.mutate lost fun state => { state with rejectedBy := falsifiedBy }
      let obj ← Flow.nodeStep "compensate" lost.val
      Flow.emitCleanup obj.val
      Task.update fun flow => { flow with status := "rejected" }
      Flow.conclude params obj : Flow FlowResult).Keeps (system adapters worker) P :=
  Task.keeps_bind kept.doomed fun _ => Task.keeps_bind kept.bookkeeping.mutate fun _ =>
    Task.keeps_bind (kept.nodeStep compensate) fun _ =>
    Task.keeps_bind kept.emitCleanup fun _ =>
    Task.keeps_bind (kept.bookkeeping.update (fun _ => rfl) fun _ => rfl) fun _ => kept.conclude reporter finishes

theorem failed (kept : Undisturbed adapters worker nodes P) {params : FlowInput} {obj : Obj}
    {error message : String} (compensate : nodes "compensate")
    (reporter : nodes "reporter") (finishes : finish.Keeps (system adapters worker) P) :
    (ending params obj (.error (.failure error message))).Keeps
      (system adapters worker) P :=
  Task.keeps_bind (kept.emit (by simp [decisive])) fun _ => Task.keeps_bind kept.doomed fun _ =>
    Task.keeps_bind (kept.nodeStep compensate) fun _ =>
    Task.keeps_bind kept.emitCleanup fun _ =>
    Task.keeps_bind (kept.bookkeeping.update (fun _ => rfl) fun _ => rfl) fun _ =>
    Task.keeps_bind (kept.nodeStep reporter) fun _ =>
    Task.keeps_bind finishes fun _ => Task.keeps_raise _

theorem succeeded (kept : Undisturbed adapters worker nodes P) {params : FlowInput}
    {obj obj' : Obj} (reporter : nodes "reporter")
    (finishes : finish.Keeps (system adapters worker) P) :
    (ending params obj (.ok obj')).Keeps (system adapters worker) P :=
  Task.keeps_bind (kept.bookkeeping.update (fun _ => rfl) fun _ => rfl) fun _ => kept.conclude reporter finishes

theorem ending (kept : Undisturbed adapters worker nodes P) {params : FlowInput} {obj : Obj}
    {outcome : Except FlowExc Obj} (compensate : nodes "compensate")
    (reporter : nodes "reporter") (finishes : finish.Keeps (system adapters worker) P)
    (aborting : ∀ {payload}, (Flow.emit "aborting" payload).Keeps
      (system adapters worker) P) :
    (ending params obj outcome).Keeps (system adapters worker) P := by
  rcases outcome with (⟨reason, falsifiedBy⟩ | ⟨error, message⟩) | obj
  · exact Task.keeps_bind aborting fun _ => kept.aborted compensate reporter finishes
  · exact kept.failed compensate reporter finishes
  · exact kept.succeeded reporter finishes

end Undisturbed

/-! ## Whole runs -/

/-- What holds before the verifiers of a run start, what holds from then on until the run is
closed out, and what is left to say once it is. -/
structure Phases (adapters : Adapters W Lbl) (worker : Worker)
    (before after final : Assertion DeliveryFlow (FlowWorld W) FlowOp FlowRep FlowMove) :
    Prop where
  alone : Undisturbed adapters worker (fun _ => True) before
  whole : Undisturbed adapters worker (fun _ => True) after
  weaken : ∀ s w h, before s w h → after s w h
  close : ∀ s w h, after s w h → final s w h
  fans : ∀ brief s w h, before s w h →
    (fanOut brief).wp (system adapters worker) after (fun _ => after) s w h
  emit : ∀ {kind payload nodeId mode}, kind ≠ "run_cost" →
    (emit kind payload nodeId mode).Keeps (system adapters worker) after
  finish : ∀ s w h, after s w h →
    finish.wp (system adapters worker) final (fun _ => final) s w h

namespace Phases

variable {before after final : Assertion DeliveryFlow (FlowWorld W) FlowOp FlowRep FlowMove}
  {params : FlowInput} {s : DeliveryFlow} {w : FlowWorld W} {h : FlowHistory}

theorem verify (phases : Phases adapters worker before after final) {obj : Obj}
    (held : before s w h) :
    (verify obj).wp (system adapters worker) after (fun _ => after) s w h :=
  Task.wp_pair (phases.fans _ s w h held) fun _ => phases.whole.gathered (phases.emit (by simp))

theorem deliver (phases : Phases adapters worker before after final) {obj : Obj}
    (held : before s w h) :
    (deliver params obj).wp (system adapters worker) after (fun _ => after) s w h := by
  have effect : ∀ state, (reportEffect state).Keeps (system adapters worker) after := by
    intro state
    unfold reportEffect
    split
    · exact Task.keeps_pure _
    · exact phases.emit (by simp)
  unfold Flow.deliver Flow.approach
  simp only [Task.bind_assoc]
  refine Task.wp_past (phases.alone.nodeStep trivial) phases.weaken held
    fun _ s w h held => ?_
  refine Task.wp_past (phases.alone.nodeStep trivial) phases.weaken held
    fun _ s w h held => ?_
  refine Task.wp_past (phases.alone.cycle trivial trivial trivial) phases.weaken held
    fun _ s w h held => ?_
  refine Task.wp_past phases.alone.reportIsolation phases.weaken held fun _ s w h held => ?_
  refine Task.wp_past phases.alone.settleTier phases.weaken held fun _ s w h held => ?_
  refine Task.wp_bind.mpr (Task.wp_mono (phases.verify held) ?_)
  rintro (e | obj) s w h held
  · exact held
  · exact Task.keeps_bind phases.whole.judge (fun _ => Task.keeps_bind phases.whole.gate
      fun _ => Task.keeps_bind (phases.whole.nodeStep trivial) fun _ =>
      Task.keeps_bind (effect _) fun _ => Task.keeps_pure _) s w h held

/-- What follows once a run is closed out says nothing more. -/
theorem closed (phases : Phases adapters worker before after final) {α : Type}
    {f : Unit → Flow α} (rest : ∀ s w h, final s w h →
      (f ()).wp (system adapters worker) final (fun _ => final) s w h)
    (held : after s w h) :
    (Flow.finish >>= f).wp (system adapters worker) final (fun _ => final) s w h := by
  refine Task.wp_bind.mpr (Task.wp_mono (phases.finish s w h held) ?_)
  rintro (e | _) s w h held
  · exact held
  · exact rest s w h held

theorem conclude (phases : Phases adapters worker before after final) {obj : Obj}
    (held : after s w h) :
    (conclude params obj).wp (system adapters worker) final (fun _ => final) s w h :=
  Task.wp_past (phases.whole.nodeStep trivial) phases.close held fun _ _ _ _ held =>
    phases.closed (fun _ _ _ held => held) held

theorem ending (phases : Phases adapters worker before after final) {obj : Obj}
    {outcome : Except FlowExc Obj} (held : after s w h) :
    (ending params obj outcome).wp (system adapters worker) final (fun _ => final) s w h := by
  rcases outcome with (⟨reason, falsifiedBy⟩ | ⟨error, message⟩) | obj
  · refine Task.wp_past (phases.emit (by simp)) phases.close held fun _ s w h held => ?_
    refine Task.wp_past phases.whole.doomed phases.close held fun _ s w h held => ?_
    refine Task.wp_past phases.whole.bookkeeping.mutate phases.close held
      fun _ s w h held => ?_
    refine Task.wp_past (phases.whole.nodeStep trivial) phases.close held
      fun _ s w h held => ?_
    refine Task.wp_past phases.whole.emitCleanup phases.close held fun _ s w h held => ?_
    exact phases.conclude (phases.whole.bookkeeping s _ w h rfl rfl held)
  · refine Task.wp_past (phases.emit (by simp)) phases.close held fun _ s w h held => ?_
    refine Task.wp_past phases.whole.doomed phases.close held fun _ s w h held => ?_
    refine Task.wp_past (phases.whole.nodeStep trivial) phases.close held
      fun _ s w h held => ?_
    refine Task.wp_past phases.whole.emitCleanup phases.close held fun _ s w h held => ?_
    refine Task.wp_past (phases.whole.bookkeeping.update (fun _ => rfl) fun _ => rfl)
      phases.close held fun _ s w h held => ?_
    refine Task.wp_past (phases.whole.nodeStep trivial) phases.close held
      fun _ s w h held => ?_
    exact phases.closed (fun _ _ _ held => held) held
  · exact phases.conclude (phases.whole.bookkeeping s _ w h rfl rfl held)

theorem run (phases : Phases adapters worker before after final) {a : W}
    (held : before {} ⟨a, {}, .empty⟩ []) :
    (run params).wp (system adapters worker) final (fun _ => final) {} ⟨a, {}, .empty⟩ [] := by
  refine Task.wp_bind.mpr (Task.wp_read.mpr (Task.wp_bind.mpr ((Task.wp_update _).mpr ?_)))
  have began := phases.alone.bookkeeping {} { ({} : DeliveryFlow) with fresh := 1 } _ _ rfl rfl
    held
  have ceased : ∀ s w h, before s w h → final s w h :=
    fun s w h held => phases.close s w h (phases.weaken s w h held)
  refine Task.wp_past (phases.alone.call (by simp) (by simp) (by simp) (by simp))
    ceased began fun _ s w h held => ?_
  refine Task.wp_bind.mpr (Task.wp_attempt.mpr (Proc.wp_mono _ _ _ (phases.deliver held)
    phases.close ?_))
  exact fun outcome s w h held => phases.ending held

/-- The run lemma: what holds in every phase holds wherever a run stands. -/
theorem holds (phases : Phases adapters worker before after final) {a : W} {c : FlowConfig W}
    (held : before {} ⟨a, {}, .empty⟩ []) (run : Runs adapters worker params a c) :
    final c.proc.state c.world c.history :=
  wp_invariant (phases.run held) run

end Phases

end KuWarden.Flow
