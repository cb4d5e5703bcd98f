import KuWarden.Api.Governing
import KuWarden.Flows.Frames
import KuWarden.Flows.Play
import KuWarden.Process.Outcomes

/-!
Whose objection aborts a run: the verdicts a run recorded, the verifiers its rejection
names, and the configuration both go back to.
-/
namespace KuWarden

/-- The verifiers an exception blames; only a rejection names any. -/
def FlowExc.falsifiedBy : FlowExc → List String
  | .rejected _ falsifiedBy => falsifiedBy
  | .failure _ _ => []

def Payload.verdicts : Payload → List VerdictRow
  | .verifiersCompleted _ _ _ verifications => verifications
  | _ => []

/-- The verifiers a row of the trail blames. -/
def Payload.falsifiedBy : Payload → List String
  | .aborting _ falsifiedBy => falsifiedBy
  | _ => []

namespace Flow

open Process

/-- A verdict on record says that this verifier falsified the change. -/
def Objected (h : FlowHistory) (name : String) : Prop :=
  ∃ payload ∈ recorded "verifiers_completed" h, ∃ row ∈ payload.verdicts,
    row.verifier = name ∧ row.blocks = true

/-- The run was aborted, and this verifier is named as the reason. -/
def AbortedBy (h : FlowHistory) (name : String) : Prop :=
  ∃ payload ∈ recorded "aborting" h, name ∈ payload.falsifiedBy

/-- The verifiers whose objection aborted the run are those that may block. -/
def AbortedExactly (mayBlock : String → Bool) (h : FlowHistory) : Prop :=
  ∀ name ∈ allVerifiers, AbortedBy h name ↔ Objected h name ∧ mayBlock name = true

/-- An exception that blames nobody. -/
def Blameless (e : FlowExc) : Prop := e.falsifiedBy = []

variable {W Lbl : Type} {adapters : Adapters W Lbl} {worker : Worker} {params : FlowInput}

/-! ## What blames nobody -/

theorem mutate_blameless {obj : Obj} {f : FlowState → FlowState} :
    (mutate obj f).raises Blameless :=
  Task.raises_bind (Task.raises_update _) fun _ => Task.raises_pure _

theorem emit_blameless {kind : String} {payload : Payload} {nodeId mode : Option String} :
    (emit kind payload nodeId mode).raises Blameless :=
  Task.raises_bind (Task.raises_update _) fun _ =>
    Task.raises_bind Task.raises_read fun _ => Task.raises_call _

theorem node_outcome_blameless {nodeId : String} {record : Bool}
    {reply : Except PyError FlowState} :
    (nodeOutcome nodeId record reply).raises Blameless := by
  cases reply with
  | error exc => exact Task.raises_bind emit_blameless fun _ => Task.raises_raise rfl
  | ok state =>
      have published : (publish state).raises Blameless :=
        Task.raises_bind Task.raises_read fun _ =>
          Task.raises_bind (Task.raises_update _) fun _ => Task.raises_pure _
      refine Task.raises_bind published fun result => ?_
      split
      · exact Task.raises_bind emit_blameless fun _ => mutate_blameless
      · exact Task.raises_pure _

theorem node_step_blameless {nodeId : String} {state : FlowState} {record : Bool} :
    (nodeStep nodeId state record).raises Blameless := by
  have executed : (execute nodeId state).raises Blameless :=
    Task.raises_bind Task.raises_read fun _ => Task.raises_call _
  refine Task.raises_bind (Task.raises_update _) fun _ => ?_
  dsimp only
  split
  · exact Task.raises_bind emit_blameless fun _ =>
      Task.raises_bind executed fun _ => node_outcome_blameless
  · exact Task.raises_bind executed fun _ => node_outcome_blameless

theorem cycle_blameless {attempts : List Nat} {obj : Obj} :
    (cycle attempts obj).raises Blameless := by
  have passes : ∀ attempt obj, (pass attempt obj).raises Blameless := by
    intro attempt obj
    refine Task.raises_bind mutate_blameless fun _ =>
      Task.raises_bind node_step_blameless fun _ =>
      Task.raises_bind node_step_blameless fun _ =>
      Task.raises_bind emit_blameless fun _ => Task.raises_bind (Task.raises_call _) fun _ =>
      Task.raises_bind node_step_blameless fun _ => ?_
    split
    · exact Task.raises_pure _
    · exact Task.raises_bind emit_blameless fun _ => Task.raises_pure _
  induction attempts generalizing obj with
  | nil => exact Task.raises_raise rfl
  | cons attempt rest ih =>
      refine Task.raises_bind (passes attempt obj) fun _ => ?_
      split
      · exact Task.raises_pure _
      · exact ih

theorem collect_blameless {results : List (String × Obj)} {obj : Obj} :
    (collect results obj).raises Blameless := by
  induction results generalizing obj with
  | nil => exact Task.raises_pure _
  | cons result rest ih =>
      refine Task.raises_bind mutate_blameless fun _ => ?_
      dsimp only
      split
      · exact Task.raises_bind emit_blameless fun _ =>
          Task.raises_bind mutate_blameless fun _ => ih
      · exact Task.raises_bind mutate_blameless fun _ => ih

theorem settle_tier_blameless {obj : Obj} : (settleTier params obj).raises Blameless :=
  Task.raises_bind mutate_blameless fun _ =>
    Task.raises_bind emit_blameless fun _ => Task.raises_pure _

theorem report_isolation_blameless {state : FlowState} :
    (reportIsolation state).raises Blameless := by
  unfold reportIsolation
  split
  · exact Task.raises_pure _
  · exact emit_blameless

theorem report_effect_blameless {state : FlowState} :
    (reportEffect state).raises Blameless := by
  unfold reportEffect
  split
  · exact Task.raises_pure _
  · exact emit_blameless

theorem suspend_blameless {needed : Nat} {state : FlowState} :
    (suspend needed state).raises Blameless := by
  refine Task.raises_bind (Task.raises_update _) fun _ =>
    Task.raises_bind (Task.raises_call _) fun _ =>
    Task.raises_bind (Task.raises_call _) fun notified => ?_
  cases notified with
  | error exc => exact Task.raises_raise rfl
  | ok _ =>
      exact Task.raises_bind (Task.raises_call _) fun _ =>
        Task.raises_bind (Task.raises_update _) fun _ =>
        Task.raises_bind (Task.raises_call _) fun _ =>
        Task.raises_bind Task.raises_read fun _ => Task.raises_pure _

/-- An approver who rejects is no verifier. -/
theorem gate_blameless {obj : Obj} : (gate obj).raises Blameless := by
  have previewed : (publishPreview obj.val).raises Blameless := by
    unfold publishPreview
    split
    · exact Task.raises_pure _
    · refine Task.raises_bind (Task.raises_call _) fun preview => ?_
      split
      · exact emit_blameless
      · exact Task.raises_pure _
  refine Task.raises_bind previewed fun _ => Task.raises_bind emit_blameless fun _ => ?_
  split
  · exact Task.raises_bind emit_blameless fun _ => Task.raises_pure _
  · refine Task.raises_bind suspend_blameless fun signals =>
      Task.raises_bind mutate_blameless fun _ => ?_
    split
    · exact Task.raises_bind emit_blameless fun _ => Task.raises_raise rfl
    · exact Task.raises_bind emit_blameless fun _ => Task.raises_pure _

/-! ## What the record holds -/

/-- The verdicts and abortions on record, and verifiers beside the flow that blame nobody. -/
structure Stands (verdicts abortions : List Payload) (_ : DeliveryFlow) (w : FlowWorld W)
    (h : FlowHistory) : Prop where
  pool : w.pool.Raises Blameless
  verdicts : recorded "verifiers_completed" h = verdicts
  abortions : recorded "aborting" h = abortions

variable {vs as : List Payload} {s s' : DeliveryFlow} {w w' : FlowWorld W} {h : FlowHistory}

theorem Stands.concat {l : Label FlowOp FlowRep FlowMove} (stands : Stands vs as s w h)
    (pool : w'.pool.Raises Blameless) :
    Stands (vs ++ recordOf "verifiers_completed" l) (as ++ recordOf "aborting" l) s' w'
      (h ++ [l]) where
  pool := pool
  verdicts := by rw [recorded_concat, stands.verdicts]
  abortions := by rw [recorded_concat, stands.abortions]

/-- A label that is no record of the main line. -/
theorem Stands.past {l : Label FlowOp FlowRep FlowMove} (stands : Stands vs as s w h)
    (pool : w'.pool.Raises Blameless) (silent : ∀ kind, recordOf kind l = []) :
    Stands vs as s' w' (h ++ [l]) := by
  have next : Stands (vs ++ recordOf "verifiers_completed" l) (as ++ recordOf "aborting" l)
    s' w' (h ++ [l]) := stands.concat pool
  rwa [silent, silent, List.append_nil, List.append_nil] at next

theorem Stands.moved {l : FlowMove} (stands : Stands vs as s w h)
    (moved : (system adapters worker).env s w l s' w') :
    Stands vs as s' w' (h ++ [.env l]) := by
  refine stands.past ?_ fun _ => rfl
  cases moved with
  | signal a => exact stands.pool
  | verifier move => exact stands.pool.move move

/-- What an answer does to the verifiers beside the flow. -/
theorem Stands.served {op : FlowOp} {r : FlowRep op} (stands : Stands vs as s w h)
    (served : (system adapters worker).serve s w op r s' w') :
    w'.pool.Raises Blameless := by
  cases served with
  | startVerifiers => exact Pool.raises_start (fun _ => node_step_blameless) _ _
  | _ => exact stands.pool

theorem call_stands {op : FlowOp} (event : ∀ event, op ≠ .recordEvent event) :
    (Task.call op : Flow (FlowRep op)).Keeps (system adapters worker) (Stands vs as) := by
  refine Task.keeps_call (fun stands => stands.past stands.pool fun _ => rfl)
    (fun stands moved => stands.moved moved) ?_
  intro s w h r s' w' stands served
  refine stands.past (stands.served served) fun kind => ?_
  cases op with
  | recordEvent e => exact absurd rfl (event e)
  | _ => rfl

/-- An event goes on record, and nothing else does. -/
theorem emit_stands {kind : String} {payload : Payload} {nodeId mode : Option String}
    (stands : Stands vs as s w h) :
    (emit kind payload nodeId mode).wp (system adapters worker) (Stands vs as)
      (fun r s w h => r = .ok () ∧ Stands
        (vs ++ if kind = "verifiers_completed" then [payload] else [])
        (as ++ if kind = "aborting" then [payload] else []) s w h) s w h := by
  refine Task.wp_bind.mpr ((Task.wp_update _).mpr (Task.wp_bind.mpr
    (Task.wp_read.mpr (Task.wp_call.mpr ?_))))
  intro s' w' h' drift
  have stands' : Stands vs as s' w' h' :=
    Task.keeps_drift (fun stands moved => stands.moved moved)
      (stands.past stands.pool fun _ => rfl) drift
  refine ⟨stands', fun r s'' w'' served => ⟨rfl, ?_⟩⟩
  exact Stands.concat (l := .reply (.recordEvent ⟨s.seq + 1, kind, nodeId, payload, mode⟩) r)
    stands' (stands'.served served)

theorem emit_stands_still {kind : String} {payload : Payload} {nodeId mode : Option String}
    (verdicts : kind ≠ "verifiers_completed") (abortions : kind ≠ "aborting") :
    (emit kind payload nodeId mode).Keeps (system adapters worker) (Stands vs as) := by
  intro s w h stands
  refine Task.wp_mono (emit_stands stands) ?_
  rintro r s w h ⟨-, kept⟩
  simpa only [if_neg verdicts, if_neg abortions, List.append_nil] using kept

/-- What decides nothing about the run keeps the record. -/
theorem undisturbed_stands :
    Undisturbed adapters worker (fun _ => True) (Stands (W := W) vs as) := by
  refine undisturbed_of_calls
    (fun _ _ _ _ _ _ stands => ⟨stands.pool, stands.verdicts, stands.abortions⟩) ?_
    fun _ event _ _ _ => call_stands event
  intro kind payload nodeId mode other
  simp only [decisive, List.mem_cons, not_or] at other
  exact emit_stands_still other.1 other.2.2.1

theorem finish_stands : finish.Keeps (system adapters worker) (Stands vs as) :=
  Task.keeps_bind Task.keeps_read fun _ =>
    Task.keeps_bind (emit_stands_still (by decide) (by decide)) fun _ =>
    Task.keeps_bind Task.keeps_read fun _ => call_stands (by simp)

/-! ## How the delivery of a change ends -/

def Blocked (params : FlowInput) (vs : List Payload) (name : String) : Prop :=
  (∃ payload ∈ vs, ∃ row ∈ payload.verdicts, row.verifier = name ∧ row.blocks = true) ∧
    name ∈ blockingSet params

def blamed {α : Type} : Except FlowExc α → List String
  | .ok _ => []
  | .error e => e.falsifiedBy

/-- Nothing was aborted yet, and the outcome blames those who may block and did. -/
def Outcome {α : Type} (params : FlowInput) (r : Except FlowExc α) (s : DeliveryFlow)
    (w : FlowWorld W) (h : FlowHistory) : Prop :=
  ∃ vs, Stands vs [] s w h ∧ ∀ name, name ∈ blamed r ↔ Blocked params vs name

theorem blamed_of_raised {α : Type} {r : Except FlowExc α} (raised : Process.Raised Blameless r) :
    blamed r = [] := by
  cases r with
  | ok a => rfl
  | error e => exact raised e rfl

theorem outcome_of_blameless {α : Type} {r : Except FlowExc α}
    (unblocked : ∀ name, ¬ Blocked params vs name) (stands : Stands vs [] s w h)
    (raised : Process.Raised Blameless r) : Outcome params r s w h := by
  refine ⟨vs, stands, fun name => ?_⟩
  rw [blamed_of_raised raised]
  constructor
  · intro nobody
    cases nobody
  · intro blocked
    exact absurd blocked (unblocked name)

theorem unblocked_nil (name : String) : ¬ Blocked params [] name := by
  rintro ⟨⟨payload, mem, -⟩, -⟩
  cases mem

section Rules

variable {α β : Type} {t : Flow α} {f : α → Flow β}

/-- Go past a task that keeps the record and blames nobody. -/
theorem stands_bind {Q : Except FlowExc β → Assertion DeliveryFlow (FlowWorld W) FlowOp FlowRep
    FlowMove} (stands : Stands vs as s w h)
    (kept : t.Keeps (system adapters worker) (Stands vs as)) (raises : t.raises Blameless)
    (failed : ∀ e s w h, Stands vs as s w h → Blameless e → Q (.error e) s w h)
    (rest : ∀ a s w h, Stands vs as s w h →
      (f a).wp (system adapters worker) (fun _ _ _ => True) Q s w h) :
    (t >>= f).wp (system adapters worker) (fun _ _ _ => True) Q s w h := by
  have both := Proc.wp_and _ _ _ (kept s w h stands) (Task.raises_wp raises s w h)
  refine Task.wp_bind.mpr (Proc.wp_mono _ _ _ both (fun _ _ _ _ => trivial) ?_)
  rintro (e | a) s' w' h' ⟨stands', raised⟩
  · exact failed e s' w' h' stands' (raised e rfl)
  · exact rest a s' w' h' stands'

theorem outcome_bind (unblocked : ∀ name, ¬ Blocked params vs name)
    (stands : Stands vs [] s w h) (kept : t.Keeps (system adapters worker) (Stands vs []))
    (raises : t.raises Blameless)
    (rest : ∀ a s w h, Stands vs [] s w h →
      (f a).wp (system adapters worker) (fun _ _ _ => True) (Outcome params) s w h) :
    (t >>= f).wp (system adapters worker) (fun _ _ _ => True) (Outcome params) s w h :=
  stands_bind stands kept raises
    (fun _ _ _ _ stands blameless =>
      outcome_of_blameless unblocked stands (raised_error blameless)) rest

end Rules

/-- The join fails as one of the verifiers failed, and blames nobody. -/
theorem gather_stands (stands : Stands vs as s w h) :
    (Task.call FlowOp.gatherVerifiers : Flow (Except FlowExc (List Obj))).wp
      (system adapters worker) (fun _ _ _ => True)
      (fun r s w h => Stands vs as s w h ∧
        ∃ gathered, r = .ok gathered ∧ Process.Raised Blameless gathered) s w h := by
  refine Task.wp_call.mpr ?_
  intro s' w' h' drift
  have stands' : Stands vs as s' w' h' :=
    Task.keeps_drift (fun stands moved => stands.moved moved)
      (stands.past stands.pool fun _ => rfl) drift
  refine ⟨trivial, fun gathered s'' w'' served => ?_⟩
  refine ⟨stands'.past (stands'.served served) fun _ => rfl, gathered, rfl, ?_⟩
  cases served with
  | gatherVerifiers joins => exact stands'.pool.joins joins

/-- What the fan-out concluded goes on record as the state holds it. -/
theorem verify_bind {β : Type} {obj : Obj} {f : Obj → Flow β} (stands : Stands [] [] s w h)
    (rest : ∀ obj payload s w h, payload.verdicts = obj.val.verifications.map verdictRow →
      Stands [payload] [] s w h →
      (f obj).wp (system adapters worker) (fun _ _ _ => True) (Outcome params) s w h) :
    (verify obj >>= f).wp (system adapters worker) (fun _ _ _ => True)
      (Outcome params) s w h := by
  have kept : Undisturbed adapters worker (fun _ => True) (Stands (W := W) [] []) :=
    undisturbed_stands
  have failed : ∀ e s w h, Stands (W := W) [] [] s w h → Blameless e →
      Outcome (α := β) params (.error e) s w h := fun e s w h stands blameless =>
    outcome_of_blameless unblocked_nil stands (raised_error blameless)
  refine Task.wp_bind.mpr (stands_bind stands (kept.emit (by simp [decisive])) emit_blameless
    failed fun _ s₁ w₁ h₁ stands₁ => ?_)
  refine stands_bind stands₁ (call_stands (by simp)) (Task.raises_call _) failed
    fun _ s₂ w₂ h₂ stands₂ => ?_
  refine Task.wp_bind.mpr (Task.wp_mono (gather_stands stands₂) ?_)
  rintro _ s₃ w₃ h₃ ⟨stands₃, gathered, rfl, raised⟩
  refine Task.wp_bind.mpr ((Task.wp_ofExcept _).mpr ?_)
  cases gathered with
  | error e => exact failed e _ _ _ stands₃ (raised e rfl)
  | ok objs =>
      refine stands_bind stands₃ kept.bookkeeping.mutate mutate_blameless failed
        fun _ s₄ w₄ h₄ stands₄ => ?_
      refine stands_bind stands₄ kept.collect collect_blameless failed
        fun obj' s₅ w₅ h₅ stands₅ => ?_
      refine Task.wp_bind.mpr (Proc.wp_mono _ _ _ (emit_stands stands₅)
        (fun _ _ _ _ => trivial) ?_)
      rintro _ s₆ w₆ h₆ ⟨rfl, stands₆⟩
      exact rest obj' _ _ _ _ rfl ⟨stands₆.pool, stands₆.verdicts, stands₆.abortions⟩

/-- Whom `judge` rejects the change for. -/
def falsifiers (params : FlowInput) (verifications : List Verification) : List String :=
  ((verifications.filter fun v => !v.passed).filter
    fun v => (blockingSet params).contains v.verifier).map Verification.verifier

theorem mem_falsifiers {verifications : List Verification} {payload : Payload}
    (reported : payload.verdicts = verifications.map verdictRow) (name : String) :
    name ∈ falsifiers params verifications ↔ Blocked params [payload] name := by
  unfold falsifiers Blocked
  simp only [List.mem_singleton, exists_eq_left, reported, List.mem_map, List.mem_filter,
    Bool.not_eq_true', List.contains_iff_mem, verdictRow]
  constructor
  · rintro ⟨v, ⟨⟨mem, failed⟩, blocks⟩, rfl⟩
    exact ⟨⟨_, ⟨v, mem, rfl⟩, rfl, by simp [failed]⟩, blocks⟩
  · rintro ⟨⟨_, ⟨v, mem, rfl⟩, rfl, failed⟩, blocks⟩
    exact ⟨v, ⟨⟨mem, by simpa using failed⟩, blocks⟩, rfl⟩

theorem judge_bind {β : Type} {obj : Obj} {payload : Payload} {f : Obj → Flow β}
    (reported : payload.verdicts = obj.val.verifications.map verdictRow)
    (stands : Stands [payload] [] s w h)
    (rest : (∀ name, ¬ Blocked params [payload] name) → ∀ obj s w h,
      Stands [payload] [] s w h →
      (f obj).wp (system adapters worker) (fun _ _ _ => True) (Outcome params) s w h) :
    (judge params obj >>= f).wp (system adapters worker) (fun _ _ _ => True)
      (Outcome params) s w h := by
  have passes : (obj.val.verifications.filter fun v => !v.passed).filter
      (fun v => (blockingSet params).contains v.verifier) = [] →
      ∀ name, ¬ Blocked params [payload] name := by
    intro none name blocked
    have mem := (mem_falsifiers reported name).mpr blocked
    rw [falsifiers, none] at mem
    cases mem
  -- What is left once those overridden are on record.
  have ends : ∀ (obj' : Obj) (s : DeliveryFlow) (w : FlowWorld W) (h : FlowHistory),
      Stands [payload] [] s w h →
      (if (obj.val.verifications.filter fun v => !v.passed).filter
          (fun v => (blockingSet params).contains v.verifier) ≠ [] then
        (Task.raise (.rejected "a verifier falsified the change"
          (falsifiers params obj.val.verifications)) : Flow Unit) >>= fun _ => pure obj'
      else (pure obj' : Flow Obj)).wp (system adapters worker) (fun _ _ _ => True)
        (Task.andThen (fun a => (f a).wp (system adapters worker) (fun _ _ _ => True)
          (Outcome params)) (Outcome (α := β) params)) s w h := by
    intro obj' s w h stands
    split
    · exact ⟨_, stands, mem_falsifiers reported⟩
    next none => exact rest (passes (not_not.mp none)) obj' s w h stands
  refine Task.wp_bind.mpr (Task.wp_bind.mpr (Task.wp_bind.mpr ((Task.wp_update _).mpr ?_)))
  refine (Task.wp_pure _).mpr ?_
  simp only [Task.andThen_ok]
  have mutated : ∀ s', Stands [payload] [] s' w h := fun _ =>
    ⟨stands.pool, stands.verdicts, stands.abortions⟩
  split
  · refine Task.wp_bind.mpr (Proc.wp_mono _ _ _ (emit_stands (mutated _))
      (fun _ _ _ _ => trivial) ?_)
    rintro _ s' w' h' ⟨rfl, stands'⟩
    exact ends _ s' w' h' ⟨stands'.pool, stands'.verdicts, stands'.abortions⟩
  · exact ends _ _ w h (mutated _)

/-- How the delivery of a change ends, and what is on record then. -/
theorem deliver_outcome {obj : Obj} (stands : Stands [] [] s w h) :
    (deliver params obj).wp (system adapters worker) (fun _ _ _ => True) (Outcome params)
      s w h := by
  have kept : ∀ vs, Undisturbed adapters worker (fun _ => True) (Stands (W := W) vs []) :=
    fun _ => undisturbed_stands
  unfold deliver approach
  simp only [Task.bind_assoc]
  refine outcome_bind unblocked_nil stands ((kept _).nodeStep trivial) node_step_blameless
    fun obj s w h stands => ?_
  refine outcome_bind unblocked_nil stands ((kept _).nodeStep trivial) node_step_blameless
    fun obj s w h stands => ?_
  refine outcome_bind unblocked_nil stands ((kept _).cycle trivial trivial trivial)
    cycle_blameless fun obj s w h stands => ?_
  refine outcome_bind unblocked_nil stands (kept _).reportIsolation
    report_isolation_blameless fun _ s w h stands => ?_
  refine outcome_bind unblocked_nil stands (kept _).settleTier settle_tier_blameless
    fun obj s w h stands => ?_
  refine verify_bind stands fun obj payload s w h reported stands => ?_
  refine judge_bind reported stands fun unblocked obj s w h stands => ?_
  refine outcome_bind unblocked stands (kept _).gate gate_blameless
    fun obj s w h stands => ?_
  refine outcome_bind unblocked stands ((kept _).nodeStep trivial) node_step_blameless
    fun obj s w h stands => ?_
  have reported : (reportEffect obj.val).Keeps (system adapters worker)
      (Stands (W := W) [payload] []) := by
    unfold reportEffect
    split
    · exact Task.keeps_pure _
    · intro s w h stands
      refine Task.wp_mono (emit_stands stands) ?_
      rintro r s w h ⟨-, kept⟩
      simpa using kept
  refine outcome_bind unblocked stands reported report_effect_blameless
    fun _ s w h stands => ?_
  exact outcome_of_blameless unblocked stands (raised_ok obj)

/-- The rows say of the verifiers what the run did with them. -/
def Settled (params : FlowInput) (vs as : List Payload) : Prop :=
  ∀ name, (∃ payload ∈ as, name ∈ payload.falsifiedBy) ↔ Blocked params vs name

theorem ending_settled {obj : Obj} {outcome : Except FlowExc Obj}
    (held : Outcome params outcome s w h) :
    (ending params obj outcome).wp (system adapters worker) (fun _ _ _ => True)
      (fun _ s w h => ∃ vs as, Stands vs as s w h ∧ Settled params vs as) s w h := by
  obtain ⟨vs, stands, blames⟩ := held
  have kept : ∀ as, Undisturbed adapters worker (fun _ => True) (Stands (W := W) vs as) :=
    fun _ => undisturbed_stands
  have settled : ∀ {t : Flow FlowResult} {as : List Payload} {s : DeliveryFlow}
      {w : FlowWorld W} {h : FlowHistory}, t.Keeps (system adapters worker) (Stands vs as) →
      Settled params vs as → Stands vs as s w h →
      t.wp (system adapters worker) (fun _ _ _ => True)
        (fun _ s w h => ∃ vs as, Stands vs as s w h ∧ Settled params vs as) s w h := by
    intro t as s w h keeps settles stands
    exact Proc.wp_mono _ _ _ (keeps s w h stands) (fun _ _ _ _ => trivial)
      fun _ _ _ _ stands => ⟨vs, as, stands, settles⟩
  have nobody : ∀ name, (∃ payload ∈ ([] : List Payload), name ∈ payload.falsifiedBy) ↔
      name ∈ ([] : List String) := by simp
  rcases outcome with (⟨reason, falsifiedBy⟩ | ⟨error, message⟩) | obj'
  · refine Task.wp_bind.mpr (Proc.wp_mono _ _ _ (emit_stands stands)
      (fun _ _ _ _ => trivial) ?_)
    rintro _ s' w' h' ⟨rfl, stands'⟩
    have stands' : Stands vs [.aborting reason falsifiedBy] s' w' h' := by
      simpa using stands'
    refine settled ((kept _).aborted trivial trivial finish_stands) (fun name => ?_) stands'
    rw [← blames name]
    simp [Payload.falsifiedBy, blamed, FlowExc.falsifiedBy]
  · exact settled ((kept _).failed trivial trivial finish_stands)
      (fun name => (nobody name).trans (blames name)) stands
  · exact settled ((kept _).succeeded trivial finish_stands)
      (fun name => (nobody name).trans (blames name)) stands

theorem stands_start (a : W) (s : DeliveryFlow) : Stands [] [] s ⟨a, {}, .empty⟩ [] :=
  ⟨Pool.raises_empty, rfl, rfl⟩

theorem settled_nil : Settled params [] [] := by
  intro name
  constructor
  · rintro ⟨payload, mem, -⟩
    cases mem
  · intro blocked
    exact absurd blocked (unblocked_nil name)

/-- In every run that ended, whoever may block and objected is named, and nobody else. -/
theorem run_settled {a : W} {c : FlowConfig W} {s : DeliveryFlow}
    {r : Except FlowExc FlowResult} (run : Runs adapters worker params a c)
    (done : c.proc = .done s r) (name : String) :
    AbortedBy c.history name ↔ Objected c.history name ∧ name ∈ blockingSet params := by
  have kept : Undisturbed adapters worker (fun _ => True) (Stands (W := W) [] []) :=
    undisturbed_stands
  have whole : (Flow.run params).wp (system adapters worker) (fun _ _ _ => True)
      (fun _ s w h => ∃ vs as, Stands vs as s w h ∧ Settled params vs as)
      {} ⟨a, {}, .empty⟩ [] := by
    refine Task.wp_bind.mpr ((Task.wp_read).mpr (Task.wp_bind.mpr ((Task.wp_update _).mpr ?_)))
    refine Task.wp_bind.mpr (Proc.wp_mono _ _ _
      (call_stands (by simp) _ _ _ (stands_start a _)) (fun _ _ _ _ => trivial) ?_)
    rintro (e | _) s₁ w₁ h₁ stands
    · exact ⟨[], [], stands, settled_nil⟩
    · refine Task.wp_bind.mpr (Task.wp_attempt.mpr (Task.wp_mono (deliver_outcome stands) ?_))
      exact fun outcome s₂ w₂ h₂ held => ending_settled held
  have held := wp_sound whole run
  rw [done] at held
  obtain ⟨vs, as, stands, settled⟩ := held
  rw [AbortedBy, Objected, stands.verdicts, stands.abortions]
  exact settled name

/-! ## The configuration behind it -/

/-- The verifiers that may block a launched run. Where the configuration declares none, all
of them may: naming none is how the input says that nothing was declared. -/
theorem blockingSet_launched {config : AppConfig} {raw : Dict}
    {converter : Value → Except PyError (Option Int)} {request : Api.Request}
    (accepted : Config.parseDict raw = .ok config)
    (launched : Api.launch converter (.ok config) request = .ok params) {name : String}
    (known : name ∈ allVerifiers) : name ∈ blockingSet params ↔
      Config.blocking raw name = true ∨ ∀ other ∈ allVerifiers, Config.blocking raw other = false := by
  have carried := Api.launch_blocking launched
  rw [Config.parseDict_blocking accepted] at carried
  have mem : ∀ other, other ∈ params.blockingVerifiers ↔
      other ∈ allVerifiers ∧ Config.blocking raw other = true := by
    intro other
    rw [carried, List.mem_insertionSort, List.mem_filter]
  unfold blockingSet
  split
  next empty =>
    refine ⟨fun _ => .inr fun other among => ?_, fun _ => known⟩
    by_contra blocks
    have named := (mem other).mpr ⟨among, by simpa using blocks⟩
    rw [empty] at named
    cases named
  next some =>
    rw [mem, and_iff_right known]
    refine ⟨.inl, ?_⟩
    rintro (blocks | none)
    · exact blocks
    · obtain ⟨other, named⟩ := List.exists_mem_of_ne_nil _ some
      have blocks := (mem other).mp named
      rw [none other blocks.1] at blocks
      cases blocks.2

/-- The configured verifiers decide, except that a configuration in which none may block is
read as one in which all of them do. -/
theorem aborted_exactly_iff {safeLoad : String → Except String Value} {text : String}
    {raw : Dict} {config : AppConfig} {converter : Value → Except PyError (Option Int)}
    {request : Api.Request} {a : W} {c : FlowConfig W} {s : DeliveryFlow}
    {r : Except FlowExc FlowResult} (loaded : safeLoad text = .ok (.dict raw))
    (accepted : Config.parse safeLoad text = .ok config)
    (launched : Api.launch converter (Config.parse safeLoad text) request = .ok params)
    (run : Runs adapters worker params a c) (done : c.proc = .done s r) :
    AbortedExactly (Config.blocking raw) c.history ↔
      (∃ name ∈ allVerifiers, Config.blocking raw name = true) ∨
        ∀ name ∈ allVerifiers, ¬ Objected c.history name := by
  rw [accepted] at launched
  have parsed : Config.parseDict raw = .ok config := by
    rw [Config.parse, loaded] at accepted
    exact accepted
  have blocks : ∀ name ∈ allVerifiers, AbortedBy c.history name ↔ Objected c.history name ∧
      (Config.blocking raw name = true ∨
        ∀ other ∈ allVerifiers, Config.blocking raw other = false) := by
    intro name known
    rw [run_settled run done name, blockingSet_launched parsed launched known]
  constructor
  · intro exactly
    by_contra neither
    simp only [not_or, not_exists, not_and, not_forall, not_not, Bool.not_eq_true] at neither
    obtain ⟨advisory, name, known, objected⟩ := neither
    have aborted := (blocks name known).mpr ⟨objected, .inr advisory⟩
    have configured := ((exactly name known).mp aborted).2
    rw [advisory name known] at configured
    cases configured
  · intro either name known
    rw [blocks name known]
    refine and_congr_right fun objected => ⟨?_, .inl⟩
    rintro (configured | advisory)
    · exact configured
    · rcases either with ⟨other, among, configured⟩ | nobody
      · rw [advisory other among] at configured
        cases configured
      · exact absurd objected (nobody name known)

/-! ## A shop in which nobody may block -/

def entry (key : String) (value : Value) : Value × Value := (.str key, value)

/-- A declaration that says of each verifier whether it may block. -/
def declaring (mayBlock : String → Bool) : Dict := [
  entry "version" (.int 1),
  entry "app" (.dict [entry "name" (.str "shop")]),
  entry "workspace" (.dict [entry "repos" (.list [.dict [
    entry "name" (.str "shop"), entry "provider" (.str "github"),
    entry "org" (.str "acme"), entry "repo" (.str "shop")]])]),
  entry "delivery" (.dict [entry "integration_model" (.str "gated_merge")]),
  entry "sandbox" (.dict [
    entry "toolchain_image" (.str "python"), entry "test_command" (.list [.str "pytest"])]),
  entry "verification" (.dict [entry "verifiers" (.dict
    (allVerifiers.map fun name => entry name (.bool (mayBlock name))))])]

/-- A reader that has only this to read. -/
def reads (raw : Dict) (_ : String) : Except String Value := .ok (.dict raw)

/-- Thresholds that are absent stay absent. -/
def unconverted (_ : Value) : Except PyError (Option Int) := .ok none

def shopRequest : Api.Request where
  runId := ⟨1⟩
  appId := ⟨2⟩
  ticketId := "SHOP-1"
  provider := "jira"
  appName := "shop"

/-- What every model is asked, it answers with a blocking finding. -/
def objection : Completion where
  parsed := some [entry "findings" (.list [.dict [
    entry "detail" (.str "off by one"), entry "severity" (.str "blocking")]])]
  usage := {}
  model := "m"

def object : (op : AdapterOp) → AdapterRep op
  | .complete _ _ => .ok objection
  | op => oblige op

def objecting : Adapters Unit Empty where
  serve _ op r _ := r = object op
  env _ _ _ := False

def objectingScript : Script objecting where
  reply w op := (object op, w)
  served _ _ := rfl

def launched (mayBlock : String → Bool) : Except PyError FlowInput :=
  Api.launch unconverted (Config.parse (reads (declaring mayBlock)) "") shopRequest

def objectedRun (params : FlowInput) : FlowConfig Unit :=
  objectingScript.run plainWorker [] params () 100

/-- Whether a run has ended, and whom its record blames. -/
def blames (c : FlowConfig Unit) : Option (List String) :=
  match c.proc with
  | .done _ _ => some ((recorded "aborting" c.history).flatMap Payload.falsifiedBy)
  | .await _ _ _ => none

/-- A run of the shop that ends, and whom its record blames then. -/
theorem objectedRun_blames (mayBlock : String → Bool) (names : List String)
    (played : (launched mayBlock).toOption.bind (fun params => blames (objectedRun params)) =
      some names) : ∃ params c s r, launched mayBlock = .ok params ∧
      Runs objecting plainWorker params () c ∧ c.proc = .done s r ∧
        ∀ name, AbortedBy c.history name ↔ name ∈ names := by
  obtain ⟨params, ok, ended⟩ := Option.bind_eq_some_iff.mp played
  have ready : launched mayBlock = .ok params := by
    cases found : launched mayBlock with
    | error e => rw [found] at ok; cases ok
    | ok params => rw [found] at ok; cases ok; rfl
  unfold blames at ended
  split at ended
  next s r done =>
    refine ⟨params, _, s, r, ready, Script.run_runs _ _ _ _ _ _, done, fun name => ?_⟩
    rw [← Option.some_inj.mp ended, AbortedBy]
    exact List.mem_flatMap.symm
  next => cases ended

theorem aborted_exactly_iff_one : ∃ params c s r,
    launched (· == "security") = .ok params ∧ Runs objecting plainWorker params () c ∧
      c.proc = .done s r ∧
      (AbortedExactly (Config.blocking (declaring (· == "security"))) c.history ↔
        (∃ name ∈ allVerifiers, Config.blocking (declaring (· == "security")) name = true) ∨
          ∀ name ∈ allVerifiers, ¬ Objected c.history name) := by
  obtain ⟨params, c, s, r, ready, run, done, -⟩ :=
    objectedRun_blames (· == "security") ["security"] (by decide +kernel)
  have accepted : ∃ config, Config.parse (reads (declaring (· == "security"))) "" = .ok config := by
    cases found : Config.parse (reads (declaring (· == "security"))) "" with
    | ok config => exact ⟨config, rfl⟩
    | error e =>
        have parsed : (Config.parse (reads (declaring (· == "security"))) "").toOption.isSome =
          true := by decide +kernel
        rw [found] at parsed
        cases parsed
  obtain ⟨config, accepted⟩ := accepted
  exact ⟨params, c, s, r, ready, run, done, aborted_exactly_iff rfl accepted ready run done⟩

/-- Advisory verifiers abort a run, once all of them are advisory. -/
theorem advisory_verifiers_abort : ∃ params c s r,
    launched (fun _ => false) = .ok params ∧ Runs objecting plainWorker params () c ∧
      c.proc = .done s r ∧
      (∀ name ∈ allVerifiers, Config.blocking (declaring fun _ => false) name = false) ∧
      ¬ AbortedExactly (Config.blocking (declaring fun _ => false)) c.history := by
  obtain ⟨params, c, s, r, ready, run, done, blamed⟩ :=
    objectedRun_blames (fun _ => false) allVerifiers (by decide +kernel)
  have advisory : ∀ name ∈ allVerifiers,
      Config.blocking (declaring fun _ => false) name = false := by decide +kernel
  refine ⟨params, c, s, r, ready, run, done, advisory, fun exactly => ?_⟩
  have known : "security" ∈ allVerifiers := by decide
  have configured := ((exactly _ known).mp ((blamed _).mpr known)).2
  rw [advisory _ known] at configured
  cases configured

end Flow
end KuWarden
