import KuWarden.Flows.Passage
import KuWarden.Flows.Play
import Mathlib.Data.List.Dedup

/-!
Separation of duties at the gate: how many people stand behind the approvals it counted.
-/
namespace KuWarden.Flow

open Process

def approvers (signals : List ApprovalSignal) : List String :=
  ((signals.filter ApprovalSignal.approved).map ApprovalSignal.principal).dedup

/-- As many people approved as the tier requires, and nobody rejected. -/
structure Separated (tier : RiskTier) (signals : List ApprovalSignal) : Prop where
  enough : requiredApprovals tier ≤ (approvers signals).length
  unrejected : ∀ a ∈ signals, a.approved = true

/-- The signals a gate has counted that returned `obj`; where nobody is required it counts
none. -/
def Counted (tier : RiskTier) (signals : List ApprovalSignal) (obj : Obj) : Prop :=
  if requiredApprovals tier = 0 then signals = []
  else obj.val.approvals = signals.map (approvalOf tier)

variable {W Lbl : Type}

/-- Some gate at `tier` lets a change pass, having counted `signals`. Whatever signals came
before it, and whatever comes while it waits. -/
def Passes (adapters : Adapters W Lbl) (worker : Worker) (tier : RiskTier)
    (signals : List ApprovalSignal) : Prop :=
  ∃ (obj : Obj) (s : DeliveryFlow) (w : FlowWorld W) (h : FlowHistory),
    obj.val.riskTier = tier ∧ Quiet w.pool ∧
      (gate obj).may (system adapters worker) (fun obj' _ _ _ => Counted tier signals obj')
        s w h

/-- Two people approve, unless the gate asks for fewer or does not pass anyway. -/
def TwoPeople (tier : RiskTier) (signals : List ApprovalSignal) : Prop :=
  tier ≠ .high ∨ (∃ a ∈ signals, a.approved = false) ∨ signals.length < 2 ∨
    ∃ a ∈ signals, ∃ b ∈ signals, a.principal ≠ b.principal

variable {adapters : Adapters W Lbl} {worker : Worker} {tier : RiskTier}
  {signals : List ApprovalSignal}

theorem approvalOf_injective (tier : RiskTier) : Function.Injective (approvalOf tier) := by
  rintro ⟨p, a, d, c⟩ ⟨p', a', d', c'⟩ same
  simp only [approvalOf, Approval.mk.injEq, true_and] at same
  obtain ⟨rfl, rfl, rfl, rfl⟩ := same
  rfl

/-- The signals a gate counted when it passed all approve, and are as many as it needs. -/
theorem counted_approve (passes : Passes adapters worker tier signals) :
    (∀ a ∈ signals, a.approved = true) ∧ requiredApprovals tier ≤ signals.length := by
  obtain ⟨obj, s, w, h, rfl, quiet, c, s', obj', run, final, counts⟩ := passes
  obtain ⟨ms, ran, ⟨passed, -⟩, -⟩ :=
    Task.ensures_sound (Onward.gate s w h quiet) run final
  cases passed with
  | auto none =>
      rw [Counted, if_pos none] at counts
      rw [none, counts]
      exact ⟨by simp, le_rfl⟩
  | approved counted_signals some approve many =>
      rw [Counted, if_neg some] at counts
      have same := (List.map_injective_iff.mpr (approvalOf_injective _)) counts
      exact same ▸ ⟨approve, many⟩

theorem approvers_of_approved (approve : ∀ a ∈ signals, a.approved = true) :
    approvers signals = (signals.map ApprovalSignal.principal).dedup := by
  rw [approvers, List.filter_eq_self.mpr approve]

/-- An event is always recorded. -/
theorem emit_may {kind : String} {payload : Payload} {nodeId mode : Option String}
    {s : DeliveryFlow} {w : FlowWorld W} {h : FlowHistory} :
    (emit kind payload nodeId mode).may (system adapters worker)
      (fun _ s' _ _ => s'.approvals = s.approvals) s w h :=
  Task.may_update_bind (Task.may_read_bind (Task.may_call Serves.recordEvent fun _ => rfl))

theorem set_status_may {status : String} {s : DeliveryFlow} {w : FlowWorld W}
    {h : FlowHistory} : (setStatus status).may (system adapters worker)
      (fun _ s' _ _ => s'.approvals = s.approvals) s w h :=
  Task.may_call Serves.recordRunStatus fun _ => rfl

theorem decided_of_approved {needed : Nat} (approve : ∀ a ∈ signals, a.approved = true)
    (many : needed ≤ signals.length) : decided needed signals = true := by
  unfold decided
  rw [List.filter_eq_self.mpr approve, decide_eq_true many, Bool.or_true]

/-- A gate that has enough signals by the time it suspends resumes on them. -/
theorem suspend_may {needed : Nat} {state : FlowState} {s : DeliveryFlow} {w : FlowWorld W}
    {h : FlowHistory} (enough : decided needed s.approvals = true) :
    (suspend needed state).may (system adapters worker)
      (fun signals _ _ _ => signals = s.approvals) s w h := by
  refine Task.may_update_bind (Task.may_bind set_status_may fun _ s₁ w₁ h₁ same₁ => ?_)
  refine Task.may_bind (R := fun notified s' _ _ => notified = .ok 1 ∧
    s'.approvals = s.approvals)
    (Task.may_call (Serves.notifyGateReached (.ok 1)) fun _ => ⟨rfl, same₁⟩) ?_
  rintro _ s₂ w₂ h₂ ⟨rfl, same₂⟩
  refine Task.may_bind (R := fun _ s' _ _ => s'.approvals = s.approvals)
    (Task.may_call (Serves.waitCondition (by rw [same₂]; exact enough)) fun _ => same₂) ?_
  intro _ s₃ w₃ h₃ same₃
  refine Task.may_update_bind (Task.may_bind set_status_may fun _ s₄ w₄ h₄ same₄ => ?_)
  exact Task.may_read_bind (Task.may_pure (same₄.trans same₃))

/-- A gate at the highest tier counts approvals, not people. -/
theorem passes_high (a : W) (approve : ∀ a ∈ signals, a.approved = true)
    (many : 2 ≤ signals.length) : Passes adapters worker .high signals := by
  let obj : Obj := ⟨0, { (default : FlowState) with riskTier := .high }⟩
  have unrejected : ¬ (signals.any fun a => !a.approved) = true := by simpa using approve
  refine ⟨obj, { approvals := signals }, ⟨a, {}, .empty⟩, [], rfl, quiet_empty, ?_⟩
  refine Task.may_bind (R := fun _ s _ _ => s.approvals = signals) (Task.may_pure rfl) ?_
  intro _ s₁ w₁ h₁ same₁
  refine Task.may_bind emit_may fun _ s₂ w₂ h₂ same₂ => ?_
  have enough : decided 2 s₂.approvals = true := by
    rw [same₂, same₁]
    exact decided_of_approved approve many
  refine Task.may_bind (suspend_may enough) ?_
  rintro counted s₃ w₃ h₃ rfl
  rw [same₂, same₁]
  refine Task.may_bind (R := fun obj' _ _ _ => obj' = { obj with val := counted obj.val signals })
    (Task.may_update_bind (Task.may_pure rfl)) ?_
  rintro _ s₄ w₄ h₄ rfl
  rw [if_neg unrejected]
  exact Task.may_bind emit_may fun _ _ _ _ _ => Task.may_pure rfl

/-- One person may have given both approvals that the highest tier asks for. -/
theorem separated_iff (a : W) (tier : RiskTier) (signals : List ApprovalSignal) :
    (Passes adapters worker tier signals → Separated tier signals) ↔
      TwoPeople tier signals := by
  constructor
  · intro separates
    by_contra alone
    simp only [TwoPeople, not_or, not_not, not_exists, not_and, not_lt,
      Bool.not_eq_false] at alone
    obtain ⟨rfl, approve, many, one⟩ := alone
    have enough := (separates (passes_high a approve many)).enough
    rw [approvers_of_approved approve] at enough
    obtain ⟨first, rest, rfl⟩ := List.exists_cons_of_ne_nil
      (List.ne_nil_of_length_pos (by omega : 0 < signals.length))
    have sole : ((first :: rest).map ApprovalSignal.principal).dedup ⊆ [first.principal] := by
      intro p mem
      obtain ⟨signal, listed, rfl⟩ := List.mem_map.mp (List.mem_dedup.mp mem)
      exact List.mem_singleton.mpr (one _ listed _ List.mem_cons_self)
    have few := (List.nodup_dedup _).subperm sole |>.length_le
    simp only [requiredApprovals, List.length_singleton] at enough few
    omega
  · intro two passes
    obtain ⟨approve, many⟩ := counted_approve passes
    refine ⟨?_, approve⟩
    rw [approvers_of_approved approve]
    cases tier with
    | low => exact Nat.zero_le _
    | medium =>
        obtain ⟨first, rest, rfl⟩ := List.exists_cons_of_ne_nil
          (List.ne_nil_of_length_pos many)
        exact List.length_pos_of_mem (List.mem_dedup.mpr
          (List.mem_map_of_mem List.mem_cons_self : first.principal ∈ _))
    | high =>
        rcases two with other | ⟨x, mem, rejects⟩ | few | ⟨x, memX, y, memY, differ⟩
        · exact absurd rfl other
        · simp [approve x mem] at rejects
        · exact absurd many (not_le.mpr few)
        · have both : [x.principal, y.principal] ⊆
              (signals.map ApprovalSignal.principal).dedup := by
            intro p mem
            simp only [List.mem_cons, List.not_mem_nil, or_false] at mem
            rcases mem with rfl | rfl
            · exact List.mem_dedup.mpr (List.mem_map_of_mem memX)
            · exact List.mem_dedup.mpr (List.mem_map_of_mem memY)
          exact (List.Nodup.subperm (by simp [differ]) both).length_le

def adaTwice : List ApprovalSignal := [⟨"ada", true, "d1", ""⟩, ⟨"ada", true, "d1", ""⟩]

theorem one_person_passes_high :
    ¬ (Passes obliging plainWorker .high adaTwice → Separated .high adaTwice) := by
  intro separates
  have enough := (separates (passes_high () (by decide) (by decide))).enough
  exact absurd enough (by decide)

end KuWarden.Flow
