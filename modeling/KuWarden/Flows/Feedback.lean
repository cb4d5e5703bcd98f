import KuWarden.Activities.Prompts
import KuWarden.Flows.Calls
import KuWarden.Flows.Clearance

/-!
What a run says of its verdicts, to the record and to the next Coder: whose they are, and
which commit their detail and their url describe.
-/
namespace KuWarden.Flow

open Process

variable {W Lbl : Type} {adapters : Adapters W Lbl} {worker : Worker}

/-! ## Calls made against the executions before them -/

variable (adapters worker) in
/-- While no verifier runs and `before` is what was executed, each call of `t` may be made, and
a return of it leaves executions that satisfy `Q`. -/
def Traces (G : FlowHistory → FlowOp → Prop) (before : List Execution) {α : Type} (t : Flow α)
    (Q : α → List Execution → Prop) : Prop :=
  ∀ s w h, Quiet w.pool → CallsMeet G h → executions h = before →
    t.wp (system adapters worker) (fun _ _ h => CallsMeet G h) (fun r _ w' h' =>
      CallsMeet G h' ∧ ∀ a, r = .ok a → Quiet w'.pool ∧
        ∃ ran, Q a ran ∧ executions h' = before ++ ran) s w h

namespace Traces

variable {G : FlowHistory → FlowOp → Prop} {before : List Execution} {α β : Type} {t : Flow α}
  {f : α → Flow β} {P Q : α → List Execution → Prop} {R : β → List Execution → Prop}

theorem mono (ht : Traces adapters worker G before t P) (hQ : ∀ a ran, P a ran → Q a ran) :
    Traces adapters worker G before t Q := by
  intro s w h quiet met past
  refine Task.wp_mono (ht s w h quiet met past) fun r _ _ _ left => ⟨left.1, fun a same => ?_⟩
  obtain ⟨quiet, ran, held, grown⟩ := left.2 a same
  exact ⟨quiet, ran, hQ a ran held, grown⟩

theorem pure {a : α} (held : Q a []) : Traces adapters worker G before (Pure.pure a) Q := by
  intro s w h quiet met past
  refine ⟨met, ?_⟩
  rintro b ⟨⟩
  exact ⟨quiet, [], held, by rw [past, List.append_nil]⟩

theorem raise {e : FlowExc} : Traces adapters worker G before (Task.raise e : Flow α) Q :=
  fun _ _ _ _ met _ => ⟨met, fun _ absurd => by cases absurd⟩

theorem bind (ht : Traces adapters worker G before t P)
    (hf : ∀ a ran, P a ran → Traces adapters worker G (before ++ ran) (f a)
      fun b ran' => R b (ran ++ ran')) :
    Traces adapters worker G before (t >>= f) R := by
  intro s w h quiet met past
  refine Task.wp_bind.mpr (Task.wp_mono (ht s w h quiet met past) ?_)
  rintro (e | a) s₁ w₁ h₁ ⟨met₁, left⟩
  · exact ⟨met₁, fun _ absurd => by cases absurd⟩
  obtain ⟨quiet₁, ran, held, grown⟩ := left a rfl
  refine Task.wp_mono (hf a ran held s₁ w₁ h₁ quiet₁ met₁ grown) ?_
  intro r _ _ _ left' 
  refine ⟨left'.1, fun b same => ?_⟩
  obtain ⟨quiet₂, ran', held', grown'⟩ := left'.2 b same
  exact ⟨quiet₂, ran ++ ran', held', by rw [grown', List.append_assoc]⟩

theorem read {f : DeliveryFlow → Flow β} (hf : ∀ s, Traces adapters worker G before (f s) R) :
    Traces adapters worker G before (Task.read >>= f) R := by
  intro s w h quiet met past
  exact Task.wp_bind.mpr (Task.wp_read.mpr (hf s s w h quiet met past))

theorem update {g : DeliveryFlow → DeliveryFlow} {t : Unit → Flow β}
    (ht : Traces adapters worker G before (t ()) R) :
    Traces adapters worker G before (Task.update g >>= t) R := by
  intro s w h quiet met past
  exact Task.wp_bind.mpr ((Task.wp_update _).mpr (ht (g s) w h quiet met past))

theorem call {op : FlowOp} {Q : FlowRep op → List Execution → Prop}
    (other : ∀ brief, op ≠ .startVerifiers brief)
    (allowed : ∀ h, executions h = before → G h op)
    (held : ∀ r, Q r (executed (.reply op r)).toList) :
    Traces adapters worker G before (Task.call op : Flow (FlowRep op)) Q := by
  intro s w h quiet met past
  refine Task.wp_call.mpr fun s' w' h' drift => ?_
  have met' : CallsMeet G h' :=
    (callsMeet_drift drift).mpr (callsMeet_append_call.mpr ⟨met, allowed h past⟩)
  refine ⟨met', fun r s'' w'' served => ⟨(callsMeet_append_other (by simp)).mpr met', ?_⟩⟩
  rintro _ ⟨⟩
  obtain ⟨signals, rfl, rfl, rfl⟩ := drift_of_quiet quiet drift
  obtain ⟨rfl, pool⟩ := serves_calm served other
  refine ⟨pool ▸ quiet, _, held r, ?_⟩
  have called : executed (.call op) = none := rfl
  simp only [executions_append, executions_signals, executions_singleton, called, past,
    Option.toList_none, List.append_nil]

theorem emit {kind : String} {payload : Payload} {nodeId mode : Option String}
    (allowed : ∀ h seq, executions h = before →
      G h (.recordEvent ⟨seq, kind, nodeId, payload, mode⟩)) :
    Traces adapters worker G before (Flow.emit kind payload nodeId mode) fun _ ran => ran = [] :=
  update (read fun flow => call (by simp) (fun h past => allowed h _ past) fun _ => rfl)

theorem emit_bind {kind : String} {payload : Payload} {nodeId mode : Option String}
    {t : Unit → Flow β} (allowed : ∀ h seq, executions h = before →
      G h (.recordEvent ⟨seq, kind, nodeId, payload, mode⟩))
    (ht : Traces adapters worker G before (t ()) R) :
    Traces adapters worker G before (Flow.emit kind payload nodeId mode >>= t) R := by
  refine (emit allowed).bind ?_
  rintro _ ran rfl
  rw [List.append_nil]
  exact ht

theorem mutate {obj : Obj} {g : FlowState → FlowState} :
    Traces adapters worker G before (Flow.mutate obj g)
      fun obj' ran => obj' = { obj with val := g obj.val } ∧ ran = [] :=
  update (pure ⟨rfl, rfl⟩)

theorem mutate_bind {obj : Obj} {g : FlowState → FlowState} {t : Obj → Flow β}
    (ht : Traces adapters worker G before (t { obj with val := g obj.val }) R) :
    Traces adapters worker G before (Flow.mutate obj g >>= t) R := by
  refine mutate.bind ?_
  rintro _ _ ⟨rfl, rfl⟩
  rw [List.append_nil]
  exact ht

theorem publish {state : FlowState} :
    Traces adapters worker G before (Flow.publish state)
      fun obj ran => obj.val = state ∧ ran = [] :=
  read fun _ => update (pure ⟨rfl, rfl⟩)

/-- A node that this past allows, in a flow that may say how it went. -/
theorem nodeStep {nodeId : String} {state : FlowState}
    (events : ∀ h event, event.kind ≠ "build_test_verdict" → G h (.recordEvent event))
    (allowed : ∀ h activityId, executions h = before → G h (.runNode nodeId activityId state)) :
    Traces adapters worker G before (nodeStep nodeId state) fun obj ran =>
      ∃ result, ran = [⟨nodeId, state, result⟩] ∧ obj.val = unnoted result := by
  refine update (emit_bind (fun h _ _ => events h _ (by simp)) ?_)
  refine bind (P := fun reply ran => ∀ result, reply = .ok result →
    ran = [⟨nodeId, state, result⟩]) ?_ ?_
  · refine read fun flow => call (by simp) (fun h past => allowed h _ past) fun reply => ?_
    rintro result rfl
    rfl
  · intro reply ran found
    cases reply with
    | error exc => exact emit_bind (fun h _ _ => events h _ (by simp)) raise
    | ok result =>
        cases found result rfl
        refine publish.bind ?_
        rintro obj _ ⟨rfl, rfl⟩
        refine emit_bind (fun h _ _ => events h _ (by simp)) (mutate.mono ?_)
        rintro _ _ ⟨rfl, rfl⟩
        exact ⟨_, rfl, rfl⟩

end Traces

/-! ## What the main line may say -/

def Pass.grading (p : Pass) : Execution := ⟨"build_test", unnoted p.pushed, p.graded⟩

/-- The first Coder is called with what Triage and Planner left. -/
def Opens (params : FlowInput) (ran : List Execution) (state : FlowState) : Prop :=
  ∃ (triaged planned : FlowState) (attempt : Int),
    ran = [⟨"triage", initial params, triaged⟩, ⟨"planner", unnoted triaged, planned⟩] ∧
      state = { unnoted planned with pushAttempt := attempt }

/-- A later one is called with what the pass before it left, which was not the last that the
budget allows. -/
def Resumes (params : FlowInput) (ran : List Execution) (state : FlowState) : Prop :=
  ∃ (before : List Execution) (p : Pass) (attempt : Int), ran = before ++ p.executions ∧
    state = { unnoted p.graded with pushAttempt := attempt } ∧
      p.given.pushAttempt < params.maxCoderRetries

/-- What a past must hold for the main line to make this call. -/
def MayTell (params : FlowInput) (h : FlowHistory) : FlowOp → Prop
  | .runNode nodeId _ state => nodeId = "coder" →
      Opens params (executions h) state ∨ Resumes params (executions h) state
  | .recordEvent event => event.kind = "build_test_verdict" →
      ∃ (before : List Execution) (p : Pass) (verdict : CIResult), executions h =
        before ++ p.executions ∧ p.graded.ciResult = some verdict ∧
        event.payload = verdictPayload p.graded verdict
  | _ => True

section Main

variable {params : FlowInput} {before : List Execution} {obj : Obj}

theorem mayTell_event (h : FlowHistory) (event : EventRecorded)
    (other : event.kind ≠ "build_test_verdict") : MayTell params h (.recordEvent event) :=
  fun same => absurd same other

theorem traces_step {nodeId : String} {state : FlowState}
    (coder : nodeId = "coder" → Opens params before state ∨ Resumes params before state) :
    Traces adapters worker (MayTell params) before (nodeStep nodeId state) fun obj ran =>
      ∃ result, ran = [⟨nodeId, state, result⟩] ∧ obj.val = unnoted result :=
  .nodeStep mayTell_event fun _ _ past is => past ▸ coder is

theorem traces_pass {attempt : Nat}
    (follows : Opens params before { obj.val with pushAttempt := attempt } ∨
      Resumes params before { obj.val with pushAttempt := attempt }) :
    Traces adapters worker (MayTell params) before (pass attempt obj) fun obj' ran =>
      ∃ p : Pass, ran = p.executions ∧ obj'.val = unnoted p.graded ∧ p.given.pushAttempt = attempt := by
  refine .mutate_bind ((traces_step fun _ => follows).bind ?_)
  rintro coder _ ⟨coded, rfl, coderDid⟩
  refine (traces_step (by simp)).bind ?_
  rintro push _ ⟨pushed, rfl, pushDid⟩
  refine .emit_bind (fun h _ _ => mayTell_event h _ (by simp)) ?_
  refine Traces.bind (P := fun _ ran => ran = [])
    (.call (by simp) (fun _ _ => trivial) fun _ => rfl) ?_
  rintro _ _ rfl
  refine (traces_step (by simp)).bind ?_
  rintro build _ ⟨graded, rfl, buildDid⟩
  rw [coderDid, pushDid, List.append_nil]
  let p : Pass := ⟨{ obj.val with pushAttempt := attempt }, coded, pushed, graded⟩
  have known : build.val.ciResult = graded.ciResult := by rw [buildDid]; rfl
  rw [known]
  cases found : graded.ciResult with
  | none => exact .pure ⟨p, rfl, buildDid, rfl⟩
  | some verdict =>
      refine .emit_bind (fun h _ past _ => ⟨before, p, verdict, ?_, found, ?_⟩)
        (.pure ⟨p, rfl, buildDid, rfl⟩)
      · rw [past]
        simp [Pass.executions, p]
      · rw [buildDid]
        rfl

/-- The state in hand before the passes that are left: Planner's, or that of the pass before. -/
def Hands (params : FlowInput) (ran : List Execution) (state : FlowState)
    (attempts : List Nat) : Prop :=
  (∃ triaged planned : FlowState,
    ran = [⟨"triage", initial params, triaged⟩, ⟨"planner", unnoted triaged, planned⟩] ∧
      state = unnoted planned) ∨
    ∃ (before : List Execution) (p : Pass), ran = before ++ p.executions ∧
      state = unnoted p.graded ∧
      ∀ attempt ∈ attempts, p.given.pushAttempt < (attempt : Int)

theorem Hands.follows {attempt : Nat} {rest : List Nat} {state : FlowState}
    (hands : Hands params before state (attempt :: rest))
    (within : (attempt : Int) ≤ params.maxCoderRetries) :
    Opens params before { state with pushAttempt := attempt } ∨
      Resumes params before { state with pushAttempt := attempt } := by
  rcases hands with ⟨triaged, planned, ran, rfl⟩ | ⟨earlier, p, ran, rfl, earlierThan⟩
  · exact .inl ⟨triaged, planned, attempt, ran, rfl⟩
  · exact .inr ⟨earlier, p, attempt, ran, rfl,
      (earlierThan attempt List.mem_cons_self).trans_le within⟩

/-- Over the passes that are left, which are numbered upwards and within the budget. -/
theorem traces_cycle {attempts : List Nat} (hands : Hands params before obj.val attempts)
    (upwards : attempts.Pairwise (· < ·))
    (within : ∀ attempt ∈ attempts, (attempt : Int) ≤ params.maxCoderRetries) :
    Traces adapters worker (MayTell params) before (cycle attempts obj) fun _ _ => True := by
  induction attempts generalizing obj before with
  | nil => exact .raise
  | cons attempt rest ih =>
      obtain ⟨least, upwards⟩ := List.pairwise_cons.mp upwards
      refine (traces_pass (hands.follows (within _ List.mem_cons_self))).bind ?_
      rintro obj' _ ⟨p, rfl, did, numbered⟩
      split
      · exact .pure trivial
      · refine (ih (.inr ⟨before, p, rfl, did, fun later mem => ?_⟩) upwards fun later mem =>
          within later (List.mem_cons_of_mem _ mem)).mono fun _ _ _ => trivial
        rw [numbered]
        exact_mod_cast least later mem

theorem range_within {retries : Int} {attempt : Nat}
    (mem : attempt ∈ List.range (retries + 1).toNat) : (attempt : Int) ≤ retries := by
  have := List.mem_range.mp mem
  omega

/-! ## A run -/

/-- Any past allows what is called outside the cycle. -/
def Elsewhere (params : FlowInput) (op : FlowOp) : Prop := ∀ h, MayTell params h op

theorem elsewhere_of_plain : ∀ op, Plain op → Elsewhere params op := by
  intro op plain h
  cases op with
  | recordEvent event => exact mayTell_event h event plain
  | runNode nodeId _ _ => exact fun coder => absurd coder plain.2
  | _ => trivial

theorem elsewhere_of_other {op : FlowOp} (event : ∀ event, op ≠ .recordEvent event)
    (coder : ∀ activityId state, op ≠ .runNode "coder" activityId state) :
    Elsewhere params op := by
  intro h
  cases op with
  | recordEvent row => exact absurd rfl (event row)
  | runNode nodeId activityId state =>
      rintro rfl
      exact absurd rfl (coder activityId state)
  | _ => trivial

theorem keeps_elsewhere {α : Type} {t : Flow α} (only : t.Only (Elsewhere params)) :
    t.Keeps (system adapters worker) fun _ (_ : FlowWorld W) h => CallsMeet (MayTell params) h :=
  only.keeps (fun allowed met => callsMeet_append_call.mpr ⟨met, allowed _⟩)
    (fun met _ => (callsMeet_append_other (by simp)).mpr met)
    fun _ met _ => (callsMeet_append_other (by simp)).mpr met

/-- What follows a stretch is called anywhere. -/
theorem Traces.wp_tail {α β : Type} {t : Flow α} {f : α → Flow β}
    {Q : α → List Execution → Prop} {s : DeliveryFlow} {w : FlowWorld W} {h : FlowHistory}
    (ht : Traces adapters worker (MayTell params) before t Q) (quiet : Quiet w.pool)
    (met : CallsMeet (MayTell params) h) (past : executions h = before)
    (only : ∀ a, (f a).Only (Elsewhere params)) :
    (t >>= f).wp (system adapters worker) (fun _ _ h => CallsMeet (MayTell params) h)
      (fun _ _ _ h => CallsMeet (MayTell params) h) s w h := by
  refine Task.wp_bind.mpr (Task.wp_mono (ht s w h quiet met past) ?_)
  rintro (e | a) s₁ w₁ h₁ ⟨met₁, -⟩
  · exact met₁
  · exact keeps_elsewhere (only a) s₁ w₁ h₁ met₁

theorem elsewhere_of_fansOut : ∀ op, FansOut op → Elsewhere params op := fun _ fans =>
  elsewhere_of_other (by rintro _ rfl; exact fans) (by rintro _ _ rfl; exact fans)

theorem elsewhere_of_suspends : ∀ op, Suspends op → Elsewhere params op := fun _ suspends =>
  elsewhere_of_other (by rintro _ rfl; exact suspends) (by rintro _ _ rfl; exact suspends)

theorem elsewhere_of_endsRun : ∀ op, EndsRun op → Elsewhere params op := fun _ ends =>
  elsewhere_of_other (by rintro _ rfl; exact ends) (by rintro _ _ rfl; exact ends)

theorem elsewhere_node {nodeId : String} (other : nodeId ≠ "coder") (activityId : String)
    (state : FlowState) : Elsewhere params (.runNode nodeId activityId state) :=
  fun _ coder => absurd coder other

/-- Up to the gate: the passes follow each other, and nothing after them is a pass. -/
theorem approach_told {s : DeliveryFlow} {w : FlowWorld W} {h : FlowHistory}
    (quiet : Quiet w.pool) (met : CallsMeet (MayTell params) h) (past : executions h = []) :
    (approach params ⟨0, initial params⟩).wp (system adapters worker)
      (fun _ _ h => CallsMeet (MayTell params) h) (fun _ _ _ h => CallsMeet (MayTell params) h)
      s w h := by
  have plain : ∀ op, Plain op → Elsewhere params op := elsewhere_of_plain
  refine Task.wp_bind.mpr (Task.wp_mono (traces_step (by simp) s w h quiet met past) ?_)
  rintro (e | triage) s₁ w₁ h₁ ⟨met₁, left⟩
  · exact met₁
  obtain ⟨quiet₁, _, ⟨triaged, rfl, triageDid⟩, past₁⟩ := left triage rfl
  rw [Task.andThen_ok]
  refine Task.wp_bind.mpr (Task.wp_mono (traces_step (by simp) s₁ w₁ h₁ quiet₁ met₁ past₁) ?_)
  rintro (e | planner) s₂ w₂ h₂ ⟨met₂, left⟩
  · exact met₂
  obtain ⟨quiet₂, _, ⟨planned, rfl, plannerDid⟩, past₂⟩ := left planner rfl
  rw [triageDid] at past₂
  rw [Task.andThen_ok]
  refine Traces.wp_tail (traces_cycle (.inl ⟨triaged, planned, rfl, plannerDid⟩)
    List.pairwise_lt_range fun _ => range_within) quiet₂ met₂ past₂ fun built => ?_
  exact Task.only_bind (report_isolation_only plain) fun _ =>
    Task.only_bind (settle_tier_only plain) fun _ =>
    Task.only_bind (verify_only plain elsewhere_of_fansOut) fun _ =>
    Task.only_bind (judge_only plain) fun _ => gate_only plain elsewhere_of_suspends

theorem run_told (params : FlowInput) (a : W) :
    (run params).wp (system adapters worker) (fun _ _ h => CallsMeet (MayTell params) h)
      (fun _ _ _ h => CallsMeet (MayTell params) h) {} ⟨a, {}, .empty⟩ [] := by
  have plain : ∀ op, Plain op → Elsewhere params op := elsewhere_of_plain
  have began : Traces adapters worker (MayTell params) []
      (Task.call (FlowOp.recordRunStarted (started params))) fun _ ran => ran = [] :=
    .call (by simp) (fun _ _ => trivial) fun _ => rfl
  refine Task.wp_bind.mpr (Task.wp_bind.mpr (Task.wp_bind.mpr (Task.wp_mono
    (began _ ⟨a, {}, .empty⟩ [] quiet_empty (callsMeet_nil _) rfl) ?_)))
  rintro (e | _) s₁ w₁ h₁ ⟨met₁, left⟩
  · exact met₁
  obtain ⟨quiet₁, _, rfl, past₁⟩ := left _ rfl
  have releases : ∀ obj : Obj, (nodeStep "release" obj.val >>= fun obj =>
      reportEffect obj.val >>= fun _ => pure obj : Flow Obj).Only (Elsewhere params) := fun _ =>
    Task.only_bind (any_step_only plain fun _ => elsewhere_node (by simp) _ _) fun _ =>
      Task.only_bind (report_effect_only plain) fun _ => Task.only_pure _
  rw [Task.andThen_ok]
  refine Task.wp_bind.mpr (Task.wp_attempt.mpr (Task.wp_bind.mpr (Task.wp_mono
    (approach_told quiet₁ met₁ past₁) ?_)))
  have ends : ∀ outcome s (w : FlowWorld W) h, CallsMeet (MayTell params) h →
      (ending params ⟨0, initial params⟩ outcome).wp (system adapters worker)
        (fun _ _ h => CallsMeet (MayTell params) h) (fun _ _ _ h => CallsMeet (MayTell params) h)
        s w h := fun outcome s w h met =>
    keeps_elsewhere (ending_only plain elsewhere_of_endsRun (elsewhere_node (by simp))) s w h met
  rintro (e | gated) s w h met
  · exact ends _ s w h met
  · exact Task.wp_mono (keeps_elsewhere (releases gated) s w h met) fun outcome s w h met =>
      ends outcome s w h met

end Main
/-! ## What the executions on record were told -/

variable (adapters worker) in
/-- Some run of this execution took this history. -/
def AccountsFor (x : Execution) (h : History AdapterOp AdapterRep Lbl) : Prop :=
  ∃ w c, adapters.system.Reaches (.launch (runNode worker x.nodeId x.given) w []) c ∧
    c.proc = .done x.returned (.ok ()) ∧ c.history = h

variable (adapters worker) in
/-- The histories that the executions of Build & Test on record took. -/
def Accounted (h : FlowHistory) (account : Execution → History AdapterOp AdapterRep Lbl) : Prop :=
  ∀ x ∈ executions h, x.nodeId = "build_test" → AccountsFor adapters worker x (account x)

/-- This verdict and this detail are the last pass's own: they describe what it pushed. -/
def Spoken (account : Execution → History AdapterOp AdapterRep Lbl) (ran : List Execution)
    (verdict : CIResult) (detail : Option String) : Prop :=
  ∃ (before : List Execution) (p : Pass), ran = before ++ p.executions ∧
    p.graded.ciResult = some verdict ∧ p.graded.ciDetail = detail ∧
      BuildTest.Describes p.pushed.headCommit (account p.grading) detail verdict.url

variable (adapters worker) in
/-- Every verdict on record, and every one that a Coder is told of, is the last pass's own; and
a Coder is told only of the pipeline's. -/
structure Described (account : Execution → History AdapterOp AdapterRep Lbl) (h : FlowHistory) :
    Prop where
  events : ∀ before event rest, h = before ++ .call (.recordEvent event) :: rest →
    event.kind = "build_test_verdict" → ∃ graded verdict,
      event.payload = verdictPayload graded verdict ∧
        Spoken account (executions before) verdict graded.ciDetail
  prompts : ∀ before activityId state rest,
    h = before ++ .call (.runNode "coder" activityId state) :: rest →
    ∀ w c, adapters.system.Reaches (.launch (runNode worker "coder" state) w []) c →
    ∀ nodeId request, .call (.complete nodeId request) ∈ c.history →
      Coder.Asks state request ∧ (Coder.rejectedBefore state ≠ [] → ∃ verdict,
        state.ciResult = some verdict ∧ verdict.source = .ci ∧
          Spoken account (executions before) verdict state.ciDetail)

theorem exists_accounted {h : FlowHistory} (honest : (system adapters worker).Honest h) :
    ∃ account, Accounted adapters worker h account := by
  have each : ∀ x, ∃ taken, x ∈ executions h → AccountsFor adapters worker x taken := by
    intro x
    by_cases mem : x ∈ executions h
    · obtain ⟨_, _, _, executed⟩ := executed_honest honest mem
      obtain ⟨w, c, reached, final⟩ := executed.returned
      exact ⟨c.history, fun _ => ⟨w, c, reached, final, rfl⟩⟩
    · exact ⟨[], fun absurd => (mem absurd).elim⟩
  choose account accounts using each
  exact ⟨account, fun x mem _ => accounts x mem⟩

/-- A pass that nothing earlier reached was graded for what it pushed. -/
theorem graded_of_unmixed {p : Pass} {retries : Int} {h : History AdapterOp AdapterRep Lbl}
    (accounts : AccountsFor adapters worker p.grading h)
    (unmixed : BuildTest.Unmixed retries (unnoted p.pushed) h) :
    BuildTest.Graded retries (unnoted p.pushed) p.graded h := by
  obtain ⟨w, c, reached, final, rfl⟩ := accounts
  have graded := Task.ensures_sound (run_node_ensures rfl fun config w h resolved =>
    BuildTest.build_test_describes retries (unnoted p.pushed) rfl resolved) reached final
  exact graded unmixed

theorem rejectedBefore_ne_nil {state : FlowState} (told : Coder.rejectedBefore state ≠ []) :
    ∃ verdict, state.ciResult = some verdict ∧ verdict.exitCode ≠ 0 := by
  unfold Coder.rejectedBefore at told
  split at told
  next verdict found =>
    refine ⟨verdict, found, fun zero => told ?_⟩
    rw [if_pos zero]
  next => exact absurd rfl told

section Run

variable {params : FlowInput} {a : W} {c : FlowConfig W}
  {account : Execution → History AdapterOp AdapterRep Lbl}

/-- A pass on record, and what Build & Test made of it. -/
theorem spoken_of_pass {ran before later : List Execution} {p : Pass} {verdict : CIResult}
    (accounts : ∀ x ∈ ran, x.nodeId = "build_test" → AccountsFor adapters worker x (account x))
    (unmixed : ∀ x ∈ ran, x.nodeId = "build_test" →
      BuildTest.Unmixed params.maxCoderRetries x.given (account x))
    (split : ran = (before ++ p.executions) ++ later) (found : p.graded.ciResult = some verdict) :
    BuildTest.Graded params.maxCoderRetries (unnoted p.pushed) p.graded (account p.grading) ∧
      Spoken account (before ++ p.executions) verdict p.graded.ciDetail := by
  have mem : p.grading ∈ ran := by rw [split]; simp [Pass.executions, Pass.grading]
  have graded := graded_of_unmixed (accounts _ mem rfl) (unmixed _ mem rfl)
  refine ⟨graded, before, p, rfl, found, rfl, ?_⟩
  have describes := graded.describes
  rw [found] at describes
  exact describes

/-- The number of a pass is the one its Coder was called with. -/
theorem numbered_of_honest {h : FlowHistory} {before : List Execution} {p : Pass}
    (honest : (system adapters worker).Honest h) (ran : executions h = before ++ p.executions) :
    p.pushed.pushAttempt = p.given.pushAttempt := by
  have did : ∀ x ∈ p.executions, ∃ w attempts w',
      Executes adapters worker x.nodeId x.given w attempts (.ok x.returned) w' := fun x mem =>
    executed_honest honest (ran ▸ List.mem_append_right _ mem)
  obtain ⟨_, _, _, coded⟩ := did ⟨"coder", p.given, p.coded⟩ (by simp [Pass.executions])
  obtain ⟨_, _, _, pushed⟩ := did ⟨"push", unnoted p.coded, p.pushed⟩
    (by simp [Pass.executions])
  have coder := congrArg (fun kept => kept.2.2.2) (executes_coder_fed coded)
  have push := congrArg (fun kept => kept.2.2.2) (executes_push_fed pushed)
  exact push.trans coder

/-- The first Coder is told of no verdict. -/
theorem opens_untold {h : FlowHistory} {state : FlowState}
    (honest : (system adapters worker).Honest h) (opens : Opens params (executions h) state) :
    Coder.rejectedBefore state = [] := by
  obtain ⟨triaged, planned, attempt, ran, rfl⟩ := opens
  obtain ⟨_, _, _, triage⟩ := executed_honest honest
    (x := ⟨"triage", initial params, triaged⟩) (by simp [ran])
  obtain ⟨_, _, _, planner⟩ := executed_honest honest
    (x := ⟨"planner", unnoted triaged, planned⟩) (by simp [ran])
  have first := congrArg Prod.fst (executes_triage_told triage)
  have second := congrArg Prod.fst (executes_planner_told planner)
  have none : planned.ciResult = none := second.trans first
  show Coder.rejectedBefore { unnoted planned with pushAttempt := attempt } = []
  simp only [Coder.rejectedBefore, unnoted, none]

/-! ## Runs that try again -/

/-- The tests pass, and the pipeline finds them to fail. -/
def reject : (op : AdapterOp) → AdapterRep op
  | .runsFor _ commit =>
      .ok [⟨"1", "ci", "ci.yml", "https://ci/1", commit, some false, "failure"⟩]
  | op => oblige op

def falter : (op : AdapterOp) → AdapterRep op
  | .exec _ _ _ _ =>
      .ok ({ exitCode := 1, stdout := "", stderr := "", durationMs := 1 } : ExecResult)
  | op => oblige op

def rejectedRun : FlowConfig Unit :=
  (answeringScript reject).run plainWorker [] shopParams () 40

def falteringRun : FlowConfig Unit :=
  (answeringScript falter).run plainWorker [] shopParams () 24

theorem rejectedRun_runs : Runs (answering reject) plainWorker shopParams () rejectedRun :=
  Script.run_runs _ _ _ _ _ _

theorem falteringRun_runs : Runs (answering falter) plainWorker shopParams () falteringRun :=
  Script.run_runs _ _ _ _ _ _

def coderCalls (h : FlowHistory) : List FlowState := h.filterMap (callOf "coder")

theorem split_of_coderCalls {h : FlowHistory} {state : FlowState} (mem : state ∈ coderCalls h) :
    ∃ before activityId after,
      h = before ++ .call (.runNode "coder" activityId state) :: after := by
  obtain ⟨l, listed, called⟩ := List.mem_filterMap.mp mem
  exact split_of_callOf listed called

/-- What adapters that always answer alike told a run of a node. -/
theorem AccountsFor.answered {reply : (op : AdapterOp) → AdapterRep op} {x : Execution}
    {h : History AdapterOp AdapterRep Empty} (accounts : AccountsFor (answering reply) plainWorker x h)
    {op : AdapterOp} {r : AdapterRep op} (mem : .reply op r ∈ h) : r = reply op := by
  obtain ⟨w, c, reached, final, rfl⟩ := accounts
  exact answering_replied reached mem

/-- Whatever is built in that run was edited, and its Coder is told of a verdict. -/
theorem rejectedRun_plays :
    (executions rejectedRun.history).all (fun x => x.nodeId ≠ "build_test" ||
        !x.given.proposedEdits.isEmpty) = true ∧
      (coderCalls rejectedRun.history).any
        (fun state => !(Coder.rejectedBefore state).isEmpty) = true := by
  decide +kernel

theorem rejectedRun_unmixed {x : Execution} {h : History AdapterOp AdapterRep Empty}
    (mem : x ∈ executions rejectedRun.history) (build : x.nodeId = "build_test")
    (accounts : AccountsFor (answering reject) plainWorker x h) :
    BuildTest.Unmixed shopParams.maxCoderRetries x.given h := by
  have zero : ∀ result, BuildTest.Tested h result → result.exitCode = 0 := by
    rintro result ⟨workspace, image, command, limits, tested⟩
    cases accounts.answered tested
    rfl
  refine ⟨.inr ⟨?_, ?_, zero⟩, fun result tested fails => absurd (zero result tested) fails⟩
  · simpa [build] using List.all_eq_true.mp rejectedRun_plays.1 x mem
  · intro config resolved
    cases accounts.answered resolved
    decide

/-- Wherever a run stands, and whatever Build & Test was told in it, its verdicts are told of
the commits they were reached for, as long as each pass asks the pipeline once an earlier one
did, and the tests of none but the last fail in the sandbox. -/
theorem verdicts_described (run : Runs adapters worker params a c) :
    (∃ account, Accounted adapters worker c.history account) ∧
      ∀ account, Accounted adapters worker c.history account →
        (∀ x ∈ executions c.history, x.nodeId = "build_test" →
          BuildTest.Unmixed params.maxCoderRetries x.given (account x)) →
        Described adapters worker account c.history := by
  have honest : (system adapters worker).Honest c.history :=
    System.Reaches.honest run (System.honest_launch System.honest_nil)
  have met : CallsMeet (MayTell params) c.history := wp_invariant (run_told params a) run
  refine ⟨exists_accounted honest, fun account accounts unmixed => ⟨?_, ?_⟩⟩
  · intro before event rest split verdictEvent
    obtain ⟨earlier, p, verdict, ran, found, payload⟩ := met before _ rest split verdictEvent
    have whole := congrArg executions split
    rw [executions_append, ran] at whole
    obtain ⟨-, spoken⟩ := spoken_of_pass accounts unmixed whole found
    exact ⟨p.graded, verdict, payload, ran ▸ spoken⟩
  · intro before activityId state rest split w c' reached nodeId request asked
    refine ⟨Coder.coder_asks reached asked, fun told => ?_⟩
    have early : (system adapters worker).Honest before :=
      (System.honest_append.mp (split ▸ honest)).1
    have whole := congrArg executions split
    rw [executions_append] at whole
    rcases met before _ rest split rfl with opens | ⟨earlier, p, attempt, ran, rfl, more⟩
    · exact absurd (opens_untold early opens) told
    · obtain ⟨verdict, found, fails⟩ := rejectedBefore_ne_nil told
      have found : p.graded.ciResult = some verdict := found
      rw [ran] at whole
      obtain ⟨graded, spoken⟩ := spoken_of_pass accounts unmixed whole found
      refine ⟨verdict, found, graded.source verdict found fails ?_, ran ▸ spoken⟩
      rw [show (unnoted p.pushed).pushAttempt = _ from numbered_of_honest early ran]
      exact more.ne

theorem verdicts_described_rejected :
    (∃ account, Accounted (answering reject) plainWorker rejectedRun.history account ∧
      Described (answering reject) plainWorker account rejectedRun.history) ∧
    ∃ state ∈ coderCalls rejectedRun.history, Coder.rejectedBefore state ≠ [] := by
  obtain ⟨⟨account, accounted⟩, described⟩ := verdicts_described rejectedRun_runs
  refine ⟨⟨account, accounted, described account accounted fun x mem build => ?_⟩, ?_⟩
  · exact rejectedRun_unmixed mem build (accounted x mem build)
  · simpa using rejectedRun_plays.2

/-- A verdict of the sandbox that a Coder is told of as the pipeline's. -/
def misattributed (state : FlowState) : Bool :=
  match state.ciResult with
  | some verdict => verdict.exitCode ≠ 0 && verdict.source = .sandbox
  | none => false

def asksModel : Label AdapterOp AdapterRep Empty → Bool
  | .call (.complete _ _) => true
  | _ => false

/-- The tests of the first pass fail in the sandbox, and the Coder reads that the project's own
pipeline rejected them. -/
theorem sandbox_misattributed : ∃ c account,
    Runs (answering falter) plainWorker shopParams () c ∧
      Accounted (answering falter) plainWorker c.history account ∧
      ¬ Described (answering falter) plainWorker account c.history := by
  have honest := System.Reaches.honest falteringRun_runs
    (System.honest_launch System.honest_nil)
  obtain ⟨account, accounted⟩ := exists_accounted honest
  refine ⟨_, account, falteringRun_runs, accounted, fun described => ?_⟩
  let asking (state : FlowState) := (answeringScript falter).node.play 20
    (.launch (runNode plainWorker "coder" state) () [])
  obtain ⟨state, listed, wrong, asks⟩ : ∃ state ∈ coderCalls falteringRun.history,
      misattributed state = true ∧ (asking state).history.any asksModel = true := by
    have some : (coderCalls falteringRun.history).any (fun state =>
        misattributed state && (asking state).history.any asksModel) = true := by decide +kernel
    obtain ⟨state, listed, both⟩ := List.any_eq_true.mp some
    exact ⟨state, listed, Bool.and_eq_true_iff.mp both⟩
  obtain ⟨before, activityId, rest, split⟩ := split_of_coderCalls listed
  obtain ⟨l, logged, asked⟩ := List.any_eq_true.mp asks
  unfold asksModel at asked
  split at asked
  next nodeId request =>
    have reached := (answeringScript falter).node.play_reaches 20
      (.launch (runNode plainWorker "coder" state) () [])
    obtain ⟨-, told⟩ := described.prompts before activityId state rest split () _ reached
      nodeId request logged
    unfold misattributed at wrong
    split at wrong
    next verdict found =>
      simp only [ne_eq, decide_not, Bool.and_eq_true, Bool.not_eq_true', decide_eq_false_iff_not,
        decide_eq_true_eq] at wrong
      obtain ⟨verdict', found', ci, -⟩ := told (by
        simp only [Coder.rejectedBefore, found, wrong.1, if_false]
        exact List.cons_ne_nil _ _)
      cases found.symm.trans found'
      cases wrong.2.symm.trans ci
    next => cases wrong
  next => cases asked

end Run
end KuWarden.Flow
