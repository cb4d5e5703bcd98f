import KuWarden.Activities.Frames

/-!
What the nodes leave of the tier a change has, of the approvals it was given and of whom its
rejection names: all of it, but for Triage, which may raise the tier.
-/
namespace KuWarden

open Process Node

def tiered (state : FlowState) : RiskTier × List Approval := (state.riskTier, state.approvals)

/-- Besides, whom it says rejected the change. -/
def ruled (state : FlowState) : (RiskTier × List Approval) × List String :=
  (tiered state, state.rejectedBy)

/-- What a node that asks a model leaves alone besides: what the pipeline said. -/
def graded (state : FlowState) : ((RiskTier × List Approval) × List String) ×
    Option CIResult × Option CIResult × Option String :=
  (ruled state, state.ciResult, state.sandboxResult, state.ciDetail)

section

variable {W Lbl : Type} {adapters : Adapters W Lbl} {ctx : NodeContext}

theorem spared_ruled {x : (RiskTier × List Approval) × List String} :
    Spared adapters fun s _ _ => ruled s = x where
  ask _ := leaves_ask x
  update same := Task.keeps_update fun s _ _ held => by
    have tier := congrArg Prod.fst (same s)
    have approvals := congrArg (fun ledger => ledger.2.1) (same s)
    have rejected := congrArg (fun ledger => ledger.2.2.2) (same s)
    rw [← held]
    exact congrArg₂ Prod.mk (congrArg₂ Prod.mk tier approvals) rejected

theorem asked_graded {x} : Asked adapters fun s _ _ => graded s = x where
  ask _ := leaves_ask x

theorem ruled_of_graded {α : Type} {t : Node α} (leaves : Leaves adapters graded t) :
    Leaves adapters ruled t := by
  intro x s w h same
  refine Proc.wp_mono _ _ _ (leaves (graded s) s w h rfl) ?_ ?_
  · intro s' _ _ kept
    exact (congrArg Prod.fst kept).trans same
  · intro _ s' _ _ kept
    exact (congrArg Prod.fst kept).trans same

theorem planner_leaves : Leaves adapters graded (Planner.planner ctx) := by
  unfold Planner.planner
  dsimp only
  split
  next llm _ =>
    refine leaves_bind leaves_ofExcept fun _ => leaves_bind leaves_ofExcept fun _ =>
      leaves_bind leaves_read fun _ => leaves_bind leaves_ask fun _ =>
      leaves_bind leaves_ofExcept fun _ => leaves_bind (leaves_update fun _ => rfl) fun _ =>
      leaves_update fun _ => rfl
  next => exact leaves_raise

theorem select_leaves {files : List (String × Bytes)} :
    Leaves adapters graded (Coder.select ctx files) := by
  refine leaves_bind leaves_read fun _ => leaves_bind leaves_ask fun _ =>
    leaves_bind leaves_ofExcept fun _ => ?_
  dsimp only
  split
  · exact leaves_pure
  · exact leaves_pure

theorem attempts_leaves {settings : NodeModel} {files : List (String × Bytes)}
    {selected : List String} {workspace : WorkspaceRef} {rounds : List Nat} {log : Coder.Log} :
    Leaves adapters graded (Coder.attempts ctx settings files selected workspace rounds log) := by
  induction rounds generalizing log with
  | nil => exact leaves_pure
  | cons attempt rest ih =>
      refine leaves_bind (leaves_update fun _ => rfl) fun _ => leaves_bind leaves_read fun _ =>
        leaves_bind leaves_ask fun _ => leaves_bind (leaves_update fun _ => rfl) fun _ =>
        leaves_bind leaves_ask fun _ => leaves_bind leaves_ask fun _ => ?_
      dsimp only
      split
      · exact leaves_pure
      · exact ih

theorem coder_leaves : Leaves adapters graded (Coder.coder ctx) := by
  unfold Coder.coder
  dsimp only
  split
  next llm _ =>
    split
    case' isTrue => refine leaves_bind leaves_raise fun _ => ?_
    all_goals
      exact leaves_bind leaves_ofExcept fun _ => leaves_bind leaves_ofExcept fun _ =>
        leaves_bind leaves_ofExcept fun _ => leaves_bind (fun _ => Asked.pinBase asked_graded) fun _ =>
        leaves_bind (leaves_update fun _ => rfl) fun _ => leaves_bind leaves_ask fun _ =>
        leaves_bind (leaves_update fun _ => rfl) fun _ => leaves_bind leaves_ofExcept fun _ =>
        leaves_bind select_leaves fun _ => leaves_bind (leaves_withWorkspace fun _ =>
          leaves_bind attempts_leaves fun _ => leaves_bind leaves_ask fun _ => leaves_pure)
        fun _ => leaves_bind (leaves_update fun _ => rfl) fun _ => leaves_update fun _ => rfl
  next => exact leaves_raise

theorem judge_leaves {verifierId extra : String} :
    Leaves adapters graded (Verifiers.judge ctx verifierId extra) := by
  unfold Verifiers.judge
  dsimp only
  split
  next llm _ =>
    refine leaves_bind leaves_ofExcept fun _ => leaves_bind leaves_ofExcept fun _ =>
      leaves_bind (fun _ => Asked.neighbourhood asked_graded) fun _ => leaves_bind leaves_read fun _ =>
      leaves_bind (leaves_attempt leaves_ask) fun reply => ?_
    cases reply with
    | error exc =>
        dsimp only
        split <;> exact leaves_raise
    | ok completion => exact leaves_bind (leaves_update fun _ => rfl) fun _ => leaves_pure
  next => exact leaves_raise

theorem asking_leaves {verifierId : String} :
    Leaves adapters graded (Verifiers.asking verifierId ctx) :=
  leaves_bind judge_leaves fun _ => leaves_update fun _ => rfl

theorem test_evidence_leaves : Leaves adapters graded (Verifiers.testEvidence ctx) :=
  leaves_bind (fun _ => Asked.baseTree asked_graded) fun _ => leaves_bind leaves_read fun _ =>
    leaves_bind judge_leaves fun _ => leaves_update fun _ => rfl

theorem triage_raises (s : FlowState) (w : W) (h : History AdapterOp AdapterRep Lbl) :
    (Triage.triage ctx).ensures adapters.system (fun _ s' _ _ =>
      s.riskTier.order ≤ s'.riskTier.order ∧ s'.approvals = s.approvals ∧
        s'.rejectedBy = s.rejectedBy) s w h := by
  refine Task.ensures_read_bind.mpr (Task.ensures_ofExcept_bind.mpr fun _ _ => ?_)
  split
  next =>
    refine Task.ensures_ofExcept_bind.mpr fun provider _ => ?_
    refine Task.ensures_bind (leaves_ask.still s w h) fun ticket s₁ w₁ h₁ same => ?_
    subst same
    refine Task.ensures_update_bind.mpr (Task.ensures_ofExcept_bind.mpr fun admission _ => ?_)
    refine Task.ensures_update_bind.mpr (Task.ensures_update_bind.mpr ?_)
    refine Task.ensures_mono (Leaves.ensures (fun _ => Asked.acknowledge
      (Spared.toAsked spared_ruled)) _ _ _) fun _ s' _ _ same => ?_
    have tier := congrArg (fun kept => kept.1.1) same
    have approvals := congrArg (fun kept => kept.1.2) same
    refine ⟨?_, approvals, congrArg Prod.snd same⟩
    rw [show s'.riskTier = _ from tier]
    exact RiskTier.order_le_raise_to _ _
  next => exact Task.ensures_raise

end

section

variable {W Lbl : Type} {adapters : Adapters W Lbl} {worker : Worker} {nodeId : String}
  {state result : FlowState} {w w' : W}
  {attempts : List (Attempt FlowState AdapterOp AdapterRep Lbl PyError Unit)}

/-- Every node but Triage returns the tier, the approvals and the names it was given. -/
theorem executes_ruled
    (ran : Executes adapters worker nodeId state w attempts (.ok result) w')
    (other : nodeId ≠ "triage") : ruled result = ruled state := by
  have leaves : ∀ fn ctx, nodes nodeId = some fn → Leaves adapters ruled (fn ctx) := by
    intro fn ctx known
    unfold nodes at known
    split at known
    · exact absurd rfl other
    · cases known; exact ruled_of_graded planner_leaves
    · cases known; exact ruled_of_graded coder_leaves
    · cases known; exact fun _ => Spared.push spared_ruled
    · cases known; exact fun _ => Spared.buildTest spared_ruled
    · cases known; exact ruled_of_graded asking_leaves
    · cases known; exact ruled_of_graded asking_leaves
    · cases known; exact ruled_of_graded test_evidence_leaves
    · cases known; exact ruled_of_graded asking_leaves
    · cases known; exact fun _ => Spared.release spared_ruled
    · cases known; exact fun _ => Spared.compensate spared_ruled
    · cases known; exact fun _ => Spared.reporter spared_ruled
    · cases known
  have ensured : ∀ w, (runNode worker nodeId).ensures adapters.system
      (fun _ s' _ _ => ruled s' = ruled state) state w [] := by
    intro w
    cases known : nodes nodeId with
    | none =>
        unfold runNode
        rw [known]
        exact Task.ensures_raise
    | some fn => exact run_node_ensures known fun _ _ _ _ => (leaves _ _ known).ensures _ _ _
  obtain ⟨_, _, _, _, same⟩ := ran.ensured ensured
  exact same

theorem executes_tiered
    (ran : Executes adapters worker nodeId state w attempts (.ok result) w')
    (other : nodeId ≠ "triage") : tiered result = tiered state :=
  congrArg Prod.fst (executes_ruled ran other)

theorem triage_ruled
    (ran : Executes adapters worker "triage" state w attempts (.ok result) w') :
    state.riskTier.order ≤ result.riskTier.order ∧ result.approvals = state.approvals ∧
      result.rejectedBy = state.rejectedBy := by
  obtain ⟨_, _, _, _, raised⟩ := ran.ensured fun w => run_node_ensures rfl fun _ _ _ _ =>
    triage_raises state _ _
  exact raised

theorem executes_triage
    (ran : Executes adapters worker "triage" state w attempts (.ok result) w') :
    state.riskTier.order ≤ result.riskTier.order ∧ result.approvals = state.approvals :=
  ⟨(triage_ruled ran).1, (triage_ruled ran).2.1⟩

/-- No node says whom a change was rejected by. -/
theorem executes_rejected_by
    (ran : Executes adapters worker nodeId state w attempts (.ok result) w') :
    result.rejectedBy = state.rejectedBy := by
  by_cases triage : nodeId = "triage"
  · subst triage
    exact (triage_ruled ran).2.2
  · exact congrArg Prod.snd (executes_ruled ran triage)

end
end KuWarden
