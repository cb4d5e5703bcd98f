import KuWarden.Activities.Nodes

/-!
What the nodes that call no model leave alone, and the stretches of the others that do not:
the tier of a change, its approvals, what it has cost and whom its rejection names.
-/
namespace KuWarden

open Process

/-- The tier of a state, its approvals, its spend and whom it says rejected the change. -/
def ledgerOf (state : FlowState) : RiskTier × List Approval × Option Int × List String :=
  (state.riskTier, state.approvals, state.spendMicroCents, state.rejectedBy)

/-- `P` survives every call but a model's. -/
structure Asked {W Lbl : Type} (adapters : Adapters W Lbl)
    (P : Assertion FlowState W AdapterOp AdapterRep Lbl) : Prop where
  ask : ∀ {op : AdapterOp}, (∀ nodeId request, op ≠ .complete nodeId request) →
    (Node.ask op).Keeps adapters.system P

/-- So it does, and every update that leaves the ledger alone. -/
structure Spared {W Lbl : Type} (adapters : Adapters W Lbl)
    (P : Assertion FlowState W AdapterOp AdapterRep Lbl) : Prop extends Asked adapters P where
  update : ∀ {f : FlowState → FlowState}, (∀ s, ledgerOf (f s) = ledgerOf s) →
    (Task.update f : Node Unit).Keeps adapters.system P

variable {W Lbl : Type} {adapters : Adapters W Lbl} {ctx : NodeContext}
  {P : Assertion FlowState W AdapterOp AdapterRep Lbl}

namespace Asked

theorem withWorkspace {α : Type} (asked : Asked adapters P) {files : List (String × Bytes)}
    {body : WorkspaceRef → Node α} (hbody : ∀ workspace, (body workspace).Keeps adapters.system P) :
    (Node.withWorkspace files body).Keeps adapters.system P :=
  Task.keeps_bind (asked.ask (by simp)) fun workspace =>
    Task.keeps_bind (Task.keeps_attempt (hbody workspace)) fun _ =>
    Task.keeps_bind (asked.ask (by simp)) fun _ => Task.keeps_ofExcept _

theorem pinBase (asked : Asked adapters P) {scm : ScmProvider} {ref : RepoRef} :
    (Coder.pinBase scm ref).Keeps adapters.system P := by
  refine Task.keeps_bind Task.keeps_read fun state => ?_
  cases nonEmpty state.baseBranch with
  | none => exact asked.ask (by simp)
  | some name =>
      cases nonEmpty state.baseCommit with
      | none => exact asked.ask (by simp)
      | some commit => exact Task.keeps_pure _

theorem neighbourhood (asked : Asked adapters P) :
    (Verifiers.neighbourhood ctx).Keeps adapters.system P := by
  refine Task.keeps_bind Task.keeps_read fun state => ?_
  split
  · refine Task.keeps_bind (Task.keeps_attempt (Task.keeps_bind (Task.keeps_ofExcept _) fun _ =>
      Task.keeps_bind (Task.keeps_ofExcept _) fun _ => asked.ask (by simp))) fun outcome => ?_
    split <;> exact Task.keeps_pure _
  · exact Task.keeps_pure _

theorem baseTree (asked : Asked adapters P) :
    (Verifiers.baseTree ctx).Keeps adapters.system P := by
  refine Task.keeps_bind Task.keeps_read fun state => ?_
  split
  · exact Task.keeps_bind (Task.keeps_ofExcept _) fun _ =>
      Task.keeps_bind (Task.keeps_ofExcept _) fun _ =>
      Task.keeps_bind (asked.ask (by simp)) fun _ => Task.keeps_pure _
  · exact Task.keeps_pure _

theorem acknowledge (asked : Asked adapters P) {provider : TicketProvider}
    {trigger : TriggerConfig} :
    (Triage.acknowledge ctx provider trigger).Keeps adapters.system P := by
  have ite : ∀ {c : Prop} [Decidable c] {t t' : Node Unit}, t.Keeps adapters.system P →
      t'.Keeps adapters.system P → (if c then t else t').Keeps adapters.system P := by
    intro c _ t t' ht ht'
    split
    · exact ht
    · exact ht'
  refine Task.keeps_bind Task.keeps_read fun state =>
    Task.keeps_handle ?_ fun _ => Task.keeps_pure _
  exact Task.keeps_bind (asked.ask (by simp)) fun bodies =>
    ite (Task.keeps_pure _) (asked.ask (by simp))

end Asked

namespace Spared

theorem push (spared : Spared adapters P) : (Push.push ctx).Keeps adapters.system P :=
  Task.keeps_bind Task.keeps_read fun _ => Task.keeps_bind (Task.keeps_ofExcept _) fun _ =>
    Task.keeps_bind (Task.keeps_ofExcept _) fun _ =>
    Task.keeps_bind (Task.keeps_ofExcept _) fun _ =>
    Task.keeps_bind (spared.ask (by simp)) fun _ => spared.update fun _ => rfl

theorem anchorToCi (spared : Spared adapters P) :
    (BuildTest.anchorToCi ctx).Keeps adapters.system P :=
  BuildTest.keeps_anchor_to_ci (spared.ask (by simp)) (spared.ask (by simp))
    (spared.update fun _ => rfl) (spared.update fun _ => rfl)

theorem buildTest (spared : Spared adapters P) :
    (BuildTest.buildTest ctx).Keeps adapters.system P := by
  refine Task.keeps_bind Task.keeps_read fun state =>
    Task.keeps_bind (Task.keeps_ofExcept _) fun _ => ?_
  split
  · exact spared.update fun _ => rfl
  · dsimp only
    split
    next =>
      refine Task.keeps_bind (Task.keeps_ofExcept _) fun _ =>
        Task.keeps_bind (Task.keeps_ofExcept _) fun _ =>
        Task.keeps_bind (spared.ask (by simp)) fun _ =>
        Task.keeps_bind (spared.withWorkspace fun _ => spared.ask (by simp)) fun result =>
        Task.keeps_bind (spared.update fun _ => rfl) fun _ => ?_
      split
      case' isTrue => refine Task.keeps_bind spared.anchorToCi fun _ => ?_
      all_goals exact spared.update fun _ => rfl
    next => exact Task.keeps_raise _

theorem release (spared : Spared adapters P) : (Release.release ctx).Keeps adapters.system P := by
  refine Task.keeps_bind Task.keeps_read fun state => ?_
  split
  next =>
    refine Task.keeps_bind (Task.keeps_ofExcept _) fun _ =>
      Task.keeps_bind (Task.keeps_ofExcept _) fun _ =>
      Task.keeps_bind (spared.ask (by simp)) fun _ =>
      Task.keeps_bind (spared.update fun _ => rfl) fun _ => ?_
    dsimp only
    split
    · exact Task.keeps_bind (spared.ask (by simp)) fun _ => spared.update fun _ => rfl
    · exact spared.update fun _ => rfl
  next => exact Task.keeps_raise _

theorem compensate (spared : Spared adapters P) :
    (Compensate.compensate ctx).Keeps adapters.system P := by
  have records : ∀ cleanup,
      (Task.update (Compensate.record cleanup) : Node Unit).Keeps adapters.system P :=
    fun cleanup => spared.update fun _ => rfl
  refine Task.keeps_bind Task.keeps_read fun state => ?_
  split
  next => exact records _
  next =>
    split
    · exact records _
    · refine Task.keeps_bind (Task.keeps_ofExcept _) fun _ =>
        Task.keeps_bind (Task.keeps_attempt (Task.keeps_bind (Task.keeps_ofExcept _) fun _ =>
          spared.ask (by simp))) fun outcome => ?_
      split <;> exact records _

theorem reporter (spared : Spared adapters P) :
    (Reporter.reporter ctx).Keeps adapters.system P := by
  refine Task.keeps_bind Task.keeps_read fun state => ?_
  split
  next => exact spared.update fun _ => rfl
  next =>
    exact Task.keeps_bind (Task.keeps_ofExcept _) fun _ =>
      Task.keeps_bind (spared.ask (by simp)) fun _ => spared.update fun _ => rfl

end Spared
end KuWarden
