import KuWarden.Flows.Frames
import KuWarden.Flows.Passage

/-!
The latest object of a flow. While no verifier runs it is the one that the main line holds:
a node's result is published before anything else can fail, and a mutation reaches the object
that the flow knows.
-/
namespace KuWarden.Flow

open Process

variable {W Lbl : Type} {adapters : Adapters W Lbl} {worker : Worker}

/-- No verifier runs, and this is the latest object. -/
structure Latest (latest : Option Obj) (s : DeliveryFlow) (w : FlowWorld W)
    (_ : FlowHistory) : Prop where
  quiet : Quiet w.pool
  same : s.latest = latest

abbrev Sole (obj : Obj) : Assertion DeliveryFlow (FlowWorld W) FlowOp FlowRep FlowMove :=
  Latest (some obj)

/-- A step that returns an object leaves it as the latest, and one that raises leaves the
latest as it was. -/
def Leaves (latest : Option Obj) :
    Except FlowExc Obj → Assertion DeliveryFlow (FlowWorld W) FlowOp FlowRep FlowMove
  | .ok obj => Sole obj
  | .error _ => Latest latest

variable {latest : Option Obj} {obj : Obj} {state : FlowState} {s s' : DeliveryFlow}
  {w w' : FlowWorld W} {h : FlowHistory}
  {I : Assertion DeliveryFlow (FlowWorld W) FlowOp FlowRep FlowMove}

theorem Latest.moved {l : FlowMove} (held : Latest latest s w h)
    (move : (system adapters worker).env s w l s' w') : Latest latest s' w' (h ++ [.env l]) := by
  obtain ⟨a, rfl, rfl, rfl⟩ := moves_of_quiet held.quiet move
  exact ⟨held.quiet, held.same⟩

theorem latest_call {op : FlowOp} (starts : ∀ brief, op ≠ .startVerifiers brief) :
    (Task.call op : Flow (FlowRep op)).Keeps (system adapters worker) (Latest latest) := by
  refine Task.keeps_call (fun held => ⟨held.quiet, held.same⟩) (fun held move => held.moved move)
    ?_
  intro s w h r s' w' held served
  obtain ⟨rfl, pool⟩ := serves_calm served starts
  exact ⟨pool ▸ held.quiet, held.same⟩

/-- An event is recorded, and nothing else happens. -/
theorem emit_latest {kind : String} {payload : Payload} {nodeId mode : Option String}
    (held : Latest latest s w h) :
    (emit kind payload nodeId mode).wp (system adapters worker) (fun _ _ _ => True)
      (fun r s w h => r = .ok () ∧ Latest latest s w h) s w h :=
  emit_wp (fun _ => Latest latest) (fun held move => held.moved move)
    ⟨held.quiet, held.same⟩ (fun _ _ _ _ _ => trivial)
    fun _ _ _ held => ⟨rfl, held.quiet, held.same⟩

theorem emit_latest_bind {α : Type} {kind : String} {payload : Payload}
    {nodeId mode : Option String} {t : Unit → Flow α}
    {Q : Except FlowExc α → Assertion DeliveryFlow (FlowWorld W) FlowOp FlowRep FlowMove}
    (held : Latest latest s w h)
    (ht : ∀ s w h, Latest latest s w h →
      (t ()).wp (system adapters worker) (fun _ _ _ => True) Q s w h) :
    (emit kind payload nodeId mode >>= t).wp (system adapters worker) (fun _ _ _ => True)
      Q s w h := by
  refine Task.wp_bind.mpr (Task.wp_mono (emit_latest held) ?_)
  rintro _ s w h ⟨rfl, held⟩
  exact ht s w h held

theorem call_latest_bind {α : Type} {op : FlowOp} {t : FlowRep op → Flow α}
    {Q : Except FlowExc α → Assertion DeliveryFlow (FlowWorld W) FlowOp FlowRep FlowMove}
    (starts : ∀ brief, op ≠ .startVerifiers brief) (held : Latest latest s w h)
    (ht : ∀ r s w h, Latest latest s w h →
      (t r).wp (system adapters worker) (fun _ _ _ => True) Q s w h) :
    (Task.call op >>= t).wp (system adapters worker) (fun _ _ _ => True) Q s w h := by
  refine Task.wp_bind.mpr (Task.wp_call.mpr fun s' w' h' drift => ⟨trivial, ?_⟩)
  intro r s'' w'' served
  obtain ⟨signals, rfl, rfl, rfl⟩ := drift_of_quiet held.quiet drift
  obtain ⟨rfl, pool⟩ := serves_calm served starts
  exact ht r _ _ _ ⟨pool ▸ held.quiet, held.same⟩

theorem Latest.mutated (sole : Sole obj s w h) (f : FlowState → FlowState) :
    Sole { obj with val := f obj.val } (seen { obj with val := f obj.val } s) w h := by
  refine ⟨sole.quiet, ?_⟩
  show s.latest.map _ = _
  rw [sole.same, Option.map_some, if_pos rfl]

/-- A mutation calls nothing. -/
theorem mutate_bind {α : Type} {f : FlowState → FlowState} {t : Obj → Flow α}
    {Q : Except FlowExc α → Assertion DeliveryFlow (FlowWorld W) FlowOp FlowRep FlowMove}
    (ht : ∀ s, (t { obj with val := f obj.val }).wp (system adapters worker) I Q s w h) :
    (mutate obj f >>= t).wp (system adapters worker) I Q s w h :=
  ht (seen { obj with val := f obj.val } s)

/-- Nor does a publication. -/
theorem publish_bind {α : Type} {t : Obj → Flow α}
    {Q : Except FlowExc α → Assertion DeliveryFlow (FlowWorld W) FlowOp FlowRep FlowMove}
    (ht : (t ⟨s.fresh, state⟩).wp (system adapters worker) I Q
      { s with fresh := s.fresh + 1, latest := some ⟨s.fresh, state⟩ } w h) :
    (publish state >>= t).wp (system adapters worker) I Q s w h := ht

/-- Compensation takes up the latest state, or the first one. -/
theorem doomed_latest_bind {α : Type} {t : Obj → Flow α}
    {Q : Except FlowExc α → Assertion DeliveryFlow (FlowWorld W) FlowOp FlowRep FlowMove}
    (ht : (t (s.latest.getD obj)).wp (system adapters worker) I Q s w h) :
    (doomed obj >>= t).wp (system adapters worker) I Q s w h := ht

/-- A mutation reaches the latest object. -/
theorem mutate_sole_bind {α : Type} {f : FlowState → FlowState} {t : Obj → Flow α}
    {Q : Except FlowExc α → Assertion DeliveryFlow (FlowWorld W) FlowOp FlowRep FlowMove}
    (sole : Sole obj s w h)
    (ht : ∀ obj' s, obj'.val = f obj.val → Sole obj' s w h →
      (t obj').wp (system adapters worker) I Q s w h) :
    (mutate obj f >>= t).wp (system adapters worker) I Q s w h :=
  ht _ _ rfl (sole.mutated f)

theorem mutate_leaves {f : FlowState → FlowState} (sole : Sole obj s w h) :
    (mutate obj f).wp (system adapters worker) I (Leaves latest) s w h :=
  sole.mutated f

theorem node_outcome_leaves {nodeId : String} {reply : Except PyError FlowState}
    (held : Latest latest s w h) :
    (nodeOutcome nodeId true reply).wp (system adapters worker) (fun _ _ _ => True)
      (Leaves latest) s w h := by
  cases reply with
  | error exc => exact emit_latest_bind held fun _ _ _ held => held
  | ok state =>
      have published : Sole ⟨s.fresh, state⟩
          { s with fresh := s.fresh + 1, latest := some ⟨s.fresh, state⟩ } w h :=
        ⟨held.quiet, rfl⟩
      refine Task.wp_bind.mpr (Task.wp_bind.mpr (Task.wp_read.mpr (Task.wp_bind.mpr
        ((Task.wp_update _).mpr ?_))))
      exact emit_latest_bind published fun _ _ _ sole => mutate_leaves sole

theorem node_step_leaves {nodeId : String} (held : Latest latest s w h) :
    (nodeStep nodeId state).wp (system adapters worker) (fun _ _ _ => True) (Leaves latest)
      s w h := by
  refine Task.wp_bind.mpr ((Task.wp_update _).mpr ?_)
  refine emit_latest_bind ⟨held.quiet, held.same⟩ fun s w h held => ?_
  refine Task.wp_bind.mpr (Task.wp_bind.mpr (Task.wp_read.mpr (Task.wp_bind.mp ?_)))
  exact call_latest_bind (by simp) held fun reply s w h held => node_outcome_leaves held

theorem node_step_sole {nodeId : String} (quiet : Quiet w.pool) :
    (nodeStep nodeId state).ensures (system adapters worker) Sole s w h := by
  refine Task.wp_mono (node_step_leaves ⟨quiet, rfl⟩) ?_
  rintro r s w h left obj rfl
  exact left

/-! ## From the first node to the gate -/

variable {params : FlowInput}

theorem pass_sole {attempt : Nat} (quiet : Quiet w.pool) :
    (pass attempt obj).ensures (system adapters worker) Sole s w h := by
  refine mutate_bind fun s => ?_
  refine Task.ensures_bind (node_step_sole quiet) fun coded s w h sole => ?_
  refine Task.ensures_bind (node_step_sole sole.quiet) fun pushed s w h sole => ?_
  refine emit_latest_bind sole fun s w h sole => ?_
  refine call_latest_bind (by simp) sole fun _ s w h sole => ?_
  refine Task.ensures_bind (node_step_sole sole.quiet) fun built s w h sole => ?_
  split
  · exact Task.ensures_pure sole
  · exact emit_latest_bind sole fun s w h sole => Task.ensures_pure sole

theorem cycle_sole {attempts : List Nat} (quiet : Quiet w.pool) :
    (cycle attempts obj).ensures (system adapters worker) Sole s w h := by
  induction attempts generalizing obj s w h with
  | nil => exact Task.ensures_raise
  | cons attempt rest ih =>
      refine Task.ensures_bind (pass_sole quiet) fun obj s w h sole => ?_
      split
      · exact Task.ensures_pure sole
      · exact ih sole.quiet

theorem report_isolation_latest (held : Latest latest s w h) :
    (reportIsolation state).wp (system adapters worker) (fun _ _ _ => True)
      (fun _ => Latest latest) s w h := by
  unfold reportIsolation
  split
  · exact held
  · exact Task.wp_mono (emit_latest held) fun _ _ _ _ emitted => emitted.2

theorem settle_tier_sole (sole : Sole obj s w h) :
    (settleTier params obj).ensures (system adapters worker) Sole s w h :=
  mutate_sole_bind sole fun _ _ _ sole =>
    emit_latest_bind sole fun _ _ _ sole => Task.ensures_pure sole

/-- The way to the fan-out. -/
def opening (params : FlowInput) (obj : Obj) : Flow Obj := do
  let obj ← nodeStep "triage" obj.val
  let obj ← nodeStep "planner" obj.val
  let obj ← cycle (List.range (params.maxCoderRetries + 1).toNat) obj
  reportIsolation obj.val
  settleTier params obj

theorem opening_sole (quiet : Quiet w.pool) :
    (opening params obj).ensures (system adapters worker) Sole s w h := by
  refine Task.ensures_bind (node_step_sole quiet) fun triaged s w h sole => ?_
  refine Task.ensures_bind (node_step_sole sole.quiet) fun planned s w h sole => ?_
  refine Task.ensures_bind (cycle_sole sole.quiet) fun built s w h sole => ?_
  refine Task.wp_bind.mpr (Task.wp_mono (report_isolation_latest sole) ?_)
  rintro (e | _) s w h sole
  · intro obj absurd
    cases absurd
  · exact settle_tier_sole sole

/-- Whatever the verifiers published, the fan-out ends with the object it returns. -/
theorem verify_sole (quiet : Quiet w.pool) :
    (verify obj).ensures (system adapters worker) Sole s w h := by
  have last : (verify obj).ensures (system adapters worker)
      (fun obj s _ _ => s.latest = some obj) s w h := by
    refine Task.ensures_then fun _ _ _ _ => Task.ensures_then fun _ _ _ _ =>
      Task.ensures_then fun _ _ _ _ => Task.ensures_then fun _ _ _ _ =>
      Task.ensures_then fun _ _ _ _ => Task.ensures_then fun _ _ _ _ =>
      Task.ensures_then fun _ _ _ _ => ?_
    exact Task.ensures_update_bind.mpr (Task.ensures_pure rfl)
  have advanced : (verify obj).ensures (system adapters worker) _ s w h :=
    Onward.verify s w h quiet
  refine Proc.wp_mono _ _ _ (Proc.wp_and _ _ _ last advanced) (fun _ _ _ _ => trivial) ?_
  rintro r s w h ⟨last, advanced⟩ obj rfl
  obtain ⟨ms, ran, -, advance⟩ := advanced obj rfl
  exact ⟨advance.quiet, last obj rfl⟩

/-- How a stretch ends that mutates the object it was given and starts nothing. -/
def Held (obj : Obj) (r : Except FlowExc Obj) : Prop := ∀ obj', r = .ok obj' → obj' = obj

theorem judge_held (sole : Sole obj s w h) :
    (judge params obj).wp (system adapters worker) (fun _ _ _ => True)
      (fun r s w h => ∃ obj', Sole obj' s w h ∧ Held obj' r) s w h := by
  refine mutate_sole_bind sole fun obj' s _ sole => ?_
  have raised : ∀ {s w h e}, Sole obj' s w h → ((Task.raise e : Flow Obj) >>= fun _ => pure obj').wp
      (system adapters worker) (fun _ _ _ => True)
      (fun r s w h => ∃ obj', Sole obj' s w h ∧ Held obj' r) s w h :=
    fun sole => ⟨obj', sole, fun _ absurd => by cases absurd⟩
  have returned : ∀ {s w h}, Sole obj' s w h → (pure obj' : Flow Obj).wp
      (system adapters worker) (fun _ _ _ => True)
      (fun r s w h => ∃ obj', Sole obj' s w h ∧ Held obj' r) s w h :=
    fun sole => ⟨obj', sole, fun _ same => by cases same; rfl⟩
  dsimp only
  split
  · refine emit_latest_bind sole fun s w h sole => ?_
    split
    · exact raised sole
    · exact returned sole
  · split
    · exact raised sole
    · exact returned sole

end KuWarden.Flow
