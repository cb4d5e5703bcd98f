import KuWarden.Activities.Frames
import KuWarden.Policy.Spending

/-!
What an execution of a node adds to the spend: the calls of its models, but for the one the
Coder selects its files with.
-/
namespace KuWarden

open Process Node

structure ModelCall where
  request : LLMRequest
  completion : Completion

namespace ModelCall

def cost (call : ModelCall) : Option Int :=
  microCents call.completion.model call.completion.usage

/-- The Coder's question which files it needs. -/
def selects (call : ModelCall) : Bool := call.request.system = .coderSelect

end ModelCall

/-- What calls cost together, or `none` if one of them used a model without a rate. -/
def bill (calls : List ModelCall) : Option Int := combine (calls.map ModelCall.cost)

def modelCall {Lbl : Type} : Label AdapterOp AdapterRep Lbl → Option ModelCall
  | .reply (.complete _ request) reply =>
      match (show Except PyError Completion from reply) with
      | .ok completion => some ⟨request, completion⟩
      | .error _ => none
  | _ => none

def modelCalls {Lbl : Type} (h : History AdapterOp AdapterRep Lbl) : List ModelCall :=
  h.filterMap modelCall

def accrued (calls : List ModelCall) : List ModelCall := calls.filter fun call => !call.selects

def selections (calls : List ModelCall) : List ModelCall := calls.filter ModelCall.selects

/-! ## Bills -/

theorem bill_append (a b : List ModelCall) : bill (a ++ b) = combine [bill a, bill b] := by
  unfold bill
  rw [List.map_append, combine_append]

theorem bill_perm {a b : List ModelCall} (perm : a.Perm b) : bill a = bill b :=
  combine_perm (perm.map _)

theorem bill_eq_none_iff {calls : List ModelCall} :
    bill calls = none ↔ ∃ call ∈ calls, rates.lookup call.completion.model = none := by
  unfold bill
  rw [combine_eq_none_iff, List.mem_map]
  simp only [ModelCall.cost, microCents, Option.map_eq_none_iff]

/-- What the selections cost is all that is missing. -/
theorem bill_split (calls : List ModelCall) :
    bill calls = combine [bill (accrued calls), bill (selections calls)] := by
  rw [← bill_append]
  refine bill_perm (List.Perm.trans ?_ List.perm_append_comm)
  simpa [selections, accrued] using
    (List.filter_append_perm ModelCall.selects calls).symm

section

variable {W Lbl : Type} {adapters : Adapters W Lbl} {ctx : NodeContext} {α : Type}
  {b : Option Int} {s : FlowState} {w : W} {h : History AdapterOp AdapterRep Lbl}

theorem modelCalls_append (h h' : History AdapterOp AdapterRep Lbl) :
    modelCalls (h ++ h') = modelCalls h ++ modelCalls h' :=
  List.filterMap_append

theorem modelCalls_moves (moves : List Lbl) :
    modelCalls (moves.map (Label.env : Lbl → Label AdapterOp AdapterRep Lbl)) = [] := by
  induction moves with
  | nil => rfl
  | cons _ _ ih => exact ih

/-- What the state carries is what it had and what was accrued since. -/
def Billed (b : Option Int) (s : FlowState) (_ : W) (h : History AdapterOp AdapterRep Lbl) :
    Prop :=
  s.spendMicroCents = combine [b, bill (accrued (modelCalls h))]

theorem Billed.later {h' : History AdapterOp AdapterRep Lbl} {w' : W} (billed : Billed b s w h)
    (quiet : modelCalls h' = modelCalls h) : Billed b s w' h' := by
  unfold Billed
  rw [quiet]
  exact billed

theorem spared_billed : Spared adapters (Billed b) where
  ask := by
    intro op other s w h billed
    refine wp_ask.mpr fun s' w' h' drift => ?_
    cases drift_state drift
    obtain ⟨moves, rfl⟩ := drift.extends
    have quiet : modelCalls (h ++ [.call op] ++ moves.map .env) = modelCalls h := by
      rw [modelCalls_append, modelCalls_append, modelCalls_moves, List.append_nil]
      exact List.append_nil _
    refine ⟨billed.later quiet, fun r s'' w'' served => ?_⟩
    obtain ⟨rfl, -⟩ := served
    have silent : modelCalls ([.reply op r] : History AdapterOp AdapterRep Lbl) = [] := by
      cases op with
      | complete => exact absurd rfl (other _ _)
      | _ => rfl
    refine billed.later ?_
    rw [modelCalls_append, silent, List.append_nil, quiet]
  update same := Task.keeps_update fun s _ _ billed => by
    have spend := congrArg (fun ledger => ledger.2.2.1) (same s)
    exact spend.trans billed

theorem asked_billed : Asked adapters (Billed b) := Spared.toAsked spared_billed

/-- A model that answers adds one call to the record. -/
theorem ensures_complete {nodeId : String} {request : LLMRequest} :
    (ask (.complete nodeId request)).ensures adapters.system (fun completion s' _ h' =>
      s' = s ∧ modelCalls h' = modelCalls h ++ [⟨request, completion⟩]) s w h := by
  refine ensures_ask fun completion w' moves => ⟨rfl, ?_⟩
  rw [List.append_assoc, modelCalls_append, List.cons_append,
    show modelCalls (Label.call (AdapterOp.complete nodeId request) :: (moves.map .env ++
      [.reply (.complete nodeId request) (.ok completion)])) =
      modelCalls (moves.map .env ++ [.reply (.complete nodeId request) (.ok completion)]) from
      rfl, modelCalls_append, modelCalls_moves]
  rfl

theorem Billed.paid {h' : History AdapterOp AdapterRep Lbl} {call : ModelCall} {s' : FlowState}
    {w' : W} (billed : Billed b s w h) (answered : modelCalls h' = modelCalls h ++ [call])
    (edits : call.selects = false)
    (accrues : s'.spendMicroCents =
      accrue s.spendMicroCents call.completion.model call.completion.usage) :
    Billed b s' w' h' := by
  have before : s.spendMicroCents = combine [b, bill (accrued (modelCalls h))] := billed
  have one : bill (accrued [call]) = microCents call.completion.model call.completion.usage := by
    simp [accrued, edits, bill, ModelCall.cost]
  have counted : accrued (modelCalls h') = accrued (modelCalls h) ++ accrued [call] := by
    rw [answered]
    exact List.filter_append _ _
  unfold Billed
  rw [accrues, accrue_eq, before, counted, bill_append, one, combine_assoc]

theorem Billed.selected {h' : History AdapterOp AdapterRep Lbl} {call : ModelCall} {w' : W}
    (billed : Billed b s w h) (answered : modelCalls h' = modelCalls h ++ [call])
    (selects : call.selects = true) : Billed b s w' h' := by
  have before : s.spendMicroCents = combine [b, bill (accrued (modelCalls h))] := billed
  have counted : accrued (modelCalls h') = accrued (modelCalls h) := by
    rw [answered]
    simp [accrued, selects]
  unfold Billed
  rw [counted, before]

/-! ## The nodes that call models -/

variable {settings : NodeModel} {files : List (String × Bytes)}

theorem planner_bills (billed : Billed b s w h) :
    (Planner.planner ctx).ensures adapters.system (fun _ => Billed b) s w h := by
  unfold Planner.planner
  dsimp only
  split
  next llm _ =>
    refine Task.ensures_ofExcept_bind.mpr fun settings _ =>
      Task.ensures_ofExcept_bind.mpr fun _ _ => Task.ensures_read_bind.mpr ?_
    refine Task.ensures_bind ensures_complete fun completion s₁ w₁ h₁ answer => ?_
    obtain ⟨rfl, answered⟩ := answer
    refine Task.ensures_ofExcept_bind.mpr fun planned _ => ?_
    exact Task.ensures_update_bind.mpr (Task.ensures_update (billed.paid answered rfl rfl))
  next => exact Task.ensures_raise

/-- The selection is asked for, and left out of the spend. -/
theorem select_bills (billed : Billed b s w h) :
    (Coder.select ctx files).ensures adapters.system (fun _ s' w' h' =>
      Billed b s' w' h' ∧ selections (modelCalls h') ≠ []) s w h := by
  refine Task.ensures_read_bind.mpr ?_
  refine Task.ensures_bind ensures_complete fun completion s₁ w₁ h₁ answer => ?_
  obtain ⟨rfl, answered⟩ := answer
  refine Task.ensures_ofExcept_bind.mpr fun wanted _ => ?_
  have asked : Billed b s₁ w₁ h₁ ∧ selections (modelCalls h₁) ≠ [] := by
    refine ⟨billed.selected answered rfl, ?_⟩
    rw [answered]
    simp [selections, ModelCall.selects]
  dsimp only
  split
  · exact Task.ensures_pure asked
  · exact Task.ensures_pure asked

theorem attempts_bill {selected : List String} {workspace : WorkspaceRef} {rounds : List Nat}
    {log : Coder.Log} (billed : Billed b s w h) :
    (Coder.attempts ctx settings files selected workspace rounds log).ensures adapters.system
      (fun _ => Billed b) s w h := by
  induction rounds generalizing log s w h with
  | nil => exact Task.ensures_pure billed
  | cons attempt rest ih =>
      refine Task.ensures_update_bind.mpr (Task.ensures_read_bind.mpr ?_)
      refine Task.ensures_bind ensures_complete fun completion s₁ w₁ h₁ answer => ?_
      obtain ⟨rfl, answered⟩ := answer
      refine Task.ensures_update_bind.mpr ?_
      refine Task.ensures_bind ((Asked.ask asked_billed (by simp)).ensures
        (billed.paid answered rfl rfl)) fun proposed s₂ w₂ h₂ billed => ?_
      refine Task.ensures_bind ((Asked.ask asked_billed (by simp)).ensures billed)
        fun result s₃ w₃ h₃ billed => ?_
      dsimp only
      split
      · exact Task.ensures_pure billed
      · exact ih billed

theorem withWorkspace_bills {body : WorkspaceRef → Node α}
    (hbody : ∀ workspace s w h, Billed b s w h →
      (body workspace).ensures adapters.system (fun _ => Billed b) s w h)
    (billed : Billed b s w h) :
    (withWorkspace files body).ensures adapters.system (fun _ => Billed b) s w h := by
  refine Task.ensures_bind ((Asked.ask asked_billed (by simp)).ensures billed)
    fun workspace s₁ w₁ h₁ billed => ?_
  refine Task.ensures_bind (Task.ensures_attempt (hbody workspace s₁ w₁ h₁ billed))
    fun outcome s₂ w₂ h₂ billed => ?_
  cases outcome with
  | ok a =>
      refine Task.ensures_bind ((Asked.ask asked_billed (by simp)).ensures (billed a rfl))
        fun _ s₃ w₃ h₃ billed => ?_
      exact Task.ensures_pure billed
  | error e => exact Task.ensures_then fun _ _ _ _ => Task.ensures_raise

theorem selections_past {h' : History AdapterOp AdapterRep Lbl} (past : h <+: h')
    (asked : selections (modelCalls h) ≠ []) : selections (modelCalls h') ≠ [] := by
  obtain ⟨rest, rfl⟩ := past
  rw [modelCalls_append, selections, List.filter_append]
  intro none
  exact asked (List.append_eq_nil_iff.mp none).1

theorem coder_bills (billed : Billed b s w h) :
    (Coder.coder ctx).ensures adapters.system (fun _ s' w' h' =>
      Billed b s' w' h' ∧ selections (modelCalls h') ≠ []) s w h := by
  unfold Coder.coder
  dsimp only
  split
  next llm _ =>
    split
    case' isTrue =>
      refine Task.ensures_bind (R := fun _ => Billed b)
        (show (Node.fail _ _ : Node Unit).ensures adapters.system _ s w h from Task.ensures_raise)
        fun _ s w h billed => ?_
    all_goals
      refine Task.ensures_ofExcept_bind.mpr fun settings _ =>
        Task.ensures_ofExcept_bind.mpr fun repo _ =>
        Task.ensures_ofExcept_bind.mpr fun scm _ => ?_
      refine Task.ensures_bind ((Asked.pinBase asked_billed).ensures billed)
        fun base s₁ w₁ h₁ billed => Task.ensures_update_bind.mpr ?_
      refine Task.ensures_bind ((Asked.ask asked_billed (by simp)).ensures (show Billed b _ w₁ h₁ from billed))
        fun tree s₂ w₂ h₂ billed => Task.ensures_update_bind.mpr
        (Task.ensures_ofExcept_bind.mpr fun _ _ => ?_)
      refine Task.ensures_bind (select_bills (show Billed b _ w₂ h₂ from billed))
        fun chosen s₃ w₃ h₃ selected => ?_
      refine Task.ensures_bind (Task.ensures_past (withWorkspace_bills (fun workspace s w h
        billed => Task.ensures_bind (attempts_bill billed) fun log s w h billed =>
        Task.ensures_bind ((Asked.ask asked_billed (by simp)).ensures billed) fun changed s w h billed =>
        Task.ensures_pure billed) selected.1)) fun changed s₄ w₄ h₄ worked => ?_
      exact Task.ensures_update_bind.mpr (Task.ensures_update
        ⟨worked.1, selections_past worked.2 selected.2⟩)
  next => exact Task.ensures_raise

theorem judge_bills {verifierId extra : String} (billed : Billed b s w h) :
    (Verifiers.judge ctx verifierId extra).ensures adapters.system (fun _ => Billed b) s w h := by
  unfold Verifiers.judge
  dsimp only
  split
  next llm _ =>
    refine Task.ensures_ofExcept_bind.mpr fun settings _ =>
      Task.ensures_ofExcept_bind.mpr fun _ _ => ?_
    refine Task.ensures_bind ((Asked.neighbourhood asked_billed).ensures billed)
      fun shown s₁ w₁ h₁ billed => Task.ensures_read_bind.mpr ?_
    refine Task.ensures_bind (Task.ensures_attempt ensures_complete)
      fun reply s₂ w₂ h₂ answer => ?_
    cases reply with
    | error exc =>
        dsimp only
        split <;> exact Task.ensures_raise
    | ok completion =>
        obtain ⟨rfl, answered⟩ := answer completion rfl
        exact Task.ensures_update_bind.mpr (Task.ensures_pure (billed.paid answered rfl rfl))
  next => exact Task.ensures_raise

theorem asking_bills {verifierId : String} (billed : Billed b s w h) :
    (Verifiers.asking verifierId ctx).ensures adapters.system (fun _ => Billed b) s w h :=
  Task.ensures_bind (judge_bills billed) fun _ _ _ _ billed => Task.ensures_update billed

theorem test_evidence_bills (billed : Billed b s w h) :
    (Verifiers.testEvidence ctx).ensures adapters.system (fun _ => Billed b) s w h :=
  Task.ensures_bind ((Asked.baseTree asked_billed).ensures billed) fun _ _ _ _ billed =>
    Task.ensures_read_bind.mpr (Task.ensures_bind (judge_bills billed) fun _ _ _ _ billed =>
      Task.ensures_update billed)

theorem triage_bills (billed : Billed b s w h) :
    (Triage.triage ctx).ensures adapters.system (fun _ => Billed b) s w h := by
  refine Task.ensures_read_bind.mpr (Task.ensures_ofExcept_bind.mpr fun _ _ => ?_)
  split
  next =>
    refine Task.ensures_ofExcept_bind.mpr fun provider _ => ?_
    refine Task.ensures_bind ((Asked.ask asked_billed (by simp)).ensures billed)
      fun ticket s₁ w₁ h₁ billed => ?_
    refine Task.ensures_update_bind.mpr (Task.ensures_ofExcept_bind.mpr fun admission _ => ?_)
    exact Task.ensures_update_bind.mpr (Task.ensures_update_bind.mpr
      ((Asked.acknowledge asked_billed).ensures billed))
  next => exact Task.ensures_raise

/-! ## Executions -/

variable {worker : Worker} {nodeId : String} {state result : FlowState}

theorem node_bills (fn : NodeContext → Node Unit) (known : nodes nodeId = some fn)
    (billed : Billed b s w h) : (fn ctx).ensures adapters.system (fun _ s' w' h' =>
      Billed b s' w' h' ∧ (nodeId = "coder" → selections (modelCalls h') ≠ [])) s w h := by
  have plain : nodeId ≠ "coder" → ∀ {t : Node Unit},
      t.ensures adapters.system (fun _ => Billed b) s w h →
      t.ensures adapters.system (fun _ s' w' h' =>
        Billed b s' w' h' ∧ (nodeId = "coder" → selections (modelCalls h') ≠ [])) s w h :=
    fun other _ ht => Task.ensures_mono ht fun _ _ _ _ billed =>
      ⟨billed, fun same => absurd same other⟩
  unfold nodes at known
  split at known
  · cases known; exact plain (by simp) (triage_bills billed)
  · cases known; exact plain (by simp) (planner_bills billed)
  · cases known; exact Task.ensures_mono (coder_bills billed) fun _ _ _ _ both => ⟨both.1, fun _ => both.2⟩
  · cases known; exact plain (by simp) ((Spared.push spared_billed).ensures billed)
  · cases known; exact plain (by simp) ((Spared.buildTest spared_billed).ensures billed)
  · cases known; exact plain (by simp) (asking_bills billed)
  · cases known; exact plain (by simp) (asking_bills billed)
  · cases known; exact plain (by simp) (test_evidence_bills billed)
  · cases known; exact plain (by simp) (asking_bills billed)
  · cases known; exact plain (by simp) ((Spared.release spared_billed).ensures billed)
  · cases known; exact plain (by simp) ((Spared.compensate spared_billed).ensures billed)
  · cases known; exact plain (by simp) ((Spared.reporter spared_billed).ensures billed)
  · cases known

/-- The spend a node returns is the spend it was given and what it accrued; the Coder has
also made its selection. -/
theorem run_node_bills {c : Config FlowState W AdapterOp AdapterRep Lbl (Except PyError Unit)}
    (run : adapters.system.Reaches (.launch (runNode worker nodeId state) w []) c)
    (final : c.proc = .done result (.ok ())) :
    result.spendMicroCents =
        combine [state.spendMicroCents, bill (accrued (modelCalls c.history))] ∧
      (nodeId = "coder" → selections (modelCalls c.history) ≠ []) := by
  have billed : Billed state.spendMicroCents state w ([] : History AdapterOp AdapterRep Lbl) := by
    cases known : state.spendMicroCents <;> simp [Billed, known, bill, accrued, modelCalls, combine]
  have ensured : (runNode worker nodeId).ensures adapters.system (fun _ s' w' h' =>
      Billed state.spendMicroCents s' w' h' ∧
        (nodeId = "coder" → selections (modelCalls h') ≠ [])) state w [] := by
    unfold runNode
    cases known : nodes nodeId with
    | none => exact Task.ensures_raise
    | some fn =>
        exact Task.ensures_bind ((Asked.ask asked_billed (by simp)).ensures billed)
          fun config s₁ w₁ h₁ billed => node_bills fn known billed
  exact Task.ensures_sound ensured run final

end
end KuWarden
