import KuWarden.Activities.Pins
import KuWarden.Flows.Frames
import KuWarden.Flows.Passage
import KuWarden.Flows.Play

/-!
What stands between a run and its Release: the last green pass, all four verifiers after
it, nobody in the way, and the gate.
-/
namespace KuWarden.Flow

open Process

variable {W Lbl : Type} {adapters : Adapters W Lbl} {worker : Worker}

/-- What the main line has on record, and which state it holds, when it turns to Release. -/
structure Approached (params : FlowInput) (ms : List (String × Payload))
    (ran : List Execution) (state : FlowState) (p : Pass) (verdict : CIResult)
    (objs : List Obj) : Prop where
  /-- The last pass, and the fan-out after it. -/
  ran : ∃ before later, ran = before ++ p.executions ++ later ∧
    AllRan (verifierBrief (settled params (unnoted p.graded))) later objs
  carried : p.graded.ciResult = some verdict
  green : verdict.exitCode = 0
  unopposed : Unopposed params state.verifications
  /-- The last verdict, the final tier and a gate that passed, and no gate before. -/
  marks : ∃ before gated obj obj', ms = before ++ [verdictMark p.graded verdict,
      tierMark params p.graded] ++ gated ∧
    (∀ m ∈ before, m.1 = "build_test_verdict") ∧ GatePassed obj obj' gated ∧
    obj'.val = state ∧ obj.val.riskTier = (finalTier p.graded params).1
  /-- Nothing the last pass established was changed since. -/
  headCommit : state.headCommit = p.graded.headCommit
  ciResult : state.ciResult = p.graded.ciResult
  diff : state.diff = p.graded.diff
  verifications : state.verifications =
    p.graded.verifications ++ objs.flatMap fun r => r.val.verifications

theorem gatePassed_state {obj obj' : Obj} {ms : List (String × Payload)}
    (passed : GatePassed obj obj' ms) :
    ∃ approvals, obj'.val = { obj.val with approvals := approvals } := by
  cases passed with
  | auto _ => exact ⟨_, rfl⟩
  | approved signals _ _ _ => exact ⟨_, rfl⟩

namespace Onward

theorem approach {params : FlowInput} {obj : Obj} :
    Onward adapters worker (approach params obj) fun obj' ms ran =>
      ∃ p verdict objs, Approached params ms ran obj'.val p verdict objs := by
  refine node_step_bind fun triage triaged _ => node_step_bind fun planner planned _ => ?_
  refine cycle.bind ?_
  rintro built ms₁ ran₁ ⟨p, verdict, last⟩
  refine reportIsolation.bind ?_
  rintro _ _ _ ⟨rfl, rfl⟩
  refine settleTier.bind ?_
  rintro tiered _ _ ⟨tieredIs, rfl, rfl⟩
  refine verify.bind ?_
  rintro checked _ ran₂ ⟨rfl, objs, all, checkedIs⟩
  refine judge.bind ?_
  rintro judged _ _ ⟨unopposed, ⟨overridden, judgedIs⟩, rfl, rfl⟩
  refine gate.mono ?_
  rintro obj' gated _ ⟨passed, rfl⟩
  obtain ⟨approvals, final⟩ := gatePassed_state passed
  obtain ⟨before, ranIs⟩ := last.ran
  obtain ⟨marks, msIs, verdicts⟩ := last.verdicts
  have after : obj'.val = { verified (settled params (unnoted p.graded)) objs with
      advisoryObjections := overridden
      approvals := approvals } := by
    rw [final, judgedIs, checkedIs, tieredIs, last.returned]
  rw [tieredIs, last.returned] at all
  refine ⟨p, verdict, objs, ⟨⟨"triage", obj.val, triaged⟩ ::
      ⟨"planner", triage.val, planned⟩ :: before, ran₂, ?_, all⟩, last.carried, last.green, ?_,
    ⟨marks, gated, judged, obj', ?_, verdicts, passed, rfl, ?_⟩, ?_, ?_, ?_, ?_⟩
  · simp only [ranIs, List.nil_append, List.append_nil, List.cons_append]
  · rw [checkedIs] at unopposed
    rw [final, judgedIs, checkedIs]
    exact unopposed
  · have tier : tierMark params built.val = tierMark params p.graded := by
      rw [last.returned]
      rfl
    simp only [msIs, tier, List.nil_append, List.append_assoc, List.cons_append]
  · rw [judgedIs, checkedIs, tieredIs, last.returned]
    rfl
  all_goals rw [after]; rfl

end Onward

/-! ## Every call of Release -/

/-- What a past must hold for the main line to make this call. -/
def MayCall (params : FlowInput) (h : FlowHistory) (op : FlowOp) : Prop :=
  ∀ activityId state, op = .runNode "release" activityId state →
    ∃ p verdict objs, Approached params (milestones h) (executions h) state p verdict objs

/-- Every call so far was one the main line may make. -/
abbrev Answered (params : FlowInput) :
    Assertion DeliveryFlow (FlowWorld W) FlowOp FlowRep FlowMove :=
  fun _ _ h => CallsMeet (MayCall params) h

variable {params : FlowInput}

theorem answered_call {op : FlowOp}
    (other : ∀ activityId state, op ≠ .runNode "release" activityId state) :
    (Task.call op : Flow (FlowRep op)).Keeps (system adapters worker) (Answered params) := by
  refine Task.keeps_call ?_ ?_ ?_
  · intro s w h met
    exact callsMeet_append_call.mpr ⟨met, fun _ _ same => absurd same (other _ _)⟩
  · intro s w h l s' w' met _
    exact (callsMeet_append_other (by simp)).mpr met
  · intro s w h r s' w' met _
    exact (callsMeet_append_other (by simp)).mpr met

theorem answered_emit {kind : String} {payload : Payload} {nodeId mode : Option String} :
    (emit kind payload nodeId mode).Keeps (system adapters worker) (Answered params) :=
  Task.keeps_bind (Task.keeps_update fun _ _ _ met => met) fun _ =>
    Task.keeps_bind Task.keeps_read fun _ => answered_call (by simp)

theorem undisturbed_answered :
    Undisturbed adapters worker (· ≠ "release") (Answered (W := W) params) := by
  refine undisturbed_of_calls (fun _ _ _ _ _ _ met => met)
    (fun _ _ _ _ _ => answered_emit) fun op _ _ nodes _ => answered_call ?_
  rintro activityId state rfl
  exact nodes _ _ _ rfl rfl

theorem fan_out_answered (brief : FlowState) :
    (fanOut brief).Keeps (system adapters worker) (Answered params) :=
  Task.keeps_bind answered_emit fun _ => answered_call (by simp)

theorem finish_answered : finish.Keeps (system adapters worker) (Answered params) :=
  Task.keeps_bind Task.keeps_read fun _ => Task.keeps_bind answered_emit fun _ =>
    Task.keeps_bind Task.keeps_read fun _ => answered_call (by simp)

theorem report_effect_answered {state : FlowState} :
    (reportEffect state).Keeps (system adapters worker) (Answered params) := by
  unfold reportEffect
  split
  · exact Task.keeps_pure _
  · exact answered_emit

/-- Release is called on the past that the main line approached it with. -/
theorem release_answered {state : FlowState} {p : Pass} {verdict : CIResult}
    {objs : List Obj} {s : DeliveryFlow} {w : FlowWorld W} {h : FlowHistory}
    (approached : Approached params (milestones h) (executions h) state p verdict objs)
    (met : CallsMeet (MayCall params) h) (quiet : Quiet w.pool) :
    (nodeStep "release" state).wp (system adapters worker) (Answered params)
      (fun _ => Answered params) s w h := by
  have kept : Undisturbed adapters worker _ (Answered params) := undisturbed_answered
  refine Task.wp_bind.mpr (Task.wp_bind.mpr (Task.wp_mono
    (answered_emit.wp_with met (Onward.emit _ w h quiet)) ?_))
  rintro (e | _) s₁ w₁ h₁ ⟨met₁, emitted⟩
  · exact met₁
  · obtain ⟨ms, ran, ⟨rfl, rfl⟩, advance⟩ := emitted _ rfl
    refine Task.wp_bind.mpr (Task.wp_bind.mpr (Task.wp_read.mpr (Task.wp_call.mpr ?_)))
    intro s₂ w₂ h₂ drift
    have same : Approached params (milestones h₁) (executions h₁) state p verdict objs := by
      rw [advance.milestones, advance.executions, List.append_nil]
      simpa [milestoneOf, milestoneKinds] using approached
    have met₂ : CallsMeet (MayCall params) h₂ := by
      refine (callsMeet_drift drift).mpr (callsMeet_append_call.mpr ⟨met₁, ?_⟩)
      rintro activityId state' called
      cases called
      exact ⟨p, verdict, objs, same⟩
    refine ⟨met₂, ?_⟩
    intro reply s₃ w₃ _
    exact keeps_node_outcome kept.bookkeeping (fun _ _ _ _ => answered_emit) s₃ w₃ _ ((callsMeet_append_other (by simp)).mpr met₂)

theorem deliver_answered {obj : Obj} {s : DeliveryFlow} {w : FlowWorld W} {h : FlowHistory}
    (met : CallsMeet (MayCall params) h) (quiet : Quiet w.pool) (unmarked : milestones h = [])
    (unexecuted : executions h = []) :
    (deliver params obj).wp (system adapters worker) (Answered params)
      (fun _ => Answered params) s w h := by
  have kept : Undisturbed adapters worker (· ≠ "release") (Answered params) :=
    undisturbed_answered
  have prepared : (approach params obj).Keeps (system adapters worker) (Answered params) :=
    kept.approach (by decide) (by decide) (by decide) (by decide) (by decide) fan_out_answered
      answered_emit
  refine Task.wp_bind.mpr (Task.wp_mono
    (prepared.wp_with met (Onward.approach s w h quiet)) ?_)
  rintro (e | obj₁) s₁ w₁ h₁ ⟨met₁, ready⟩
  · exact met₁
  · obtain ⟨ms, ran, ⟨p, verdict, objs, approached⟩, advance⟩ := ready _ rfl
    have here : Approached params (milestones h₁) (executions h₁) obj₁.val p verdict objs := by
      rw [advance.milestones, advance.executions, unmarked, unexecuted]
      exact approached
    refine Task.wp_bind.mpr (Task.wp_mono (release_answered here met₁ advance.quiet) ?_)
    rintro (e | obj₂) s₂ w₂ h₂ met₂
    · exact met₂
    · exact Task.keeps_bind report_effect_answered (fun _ => Task.keeps_pure _) s₂ w₂ h₂ met₂

theorem run_answered (a : W) :
    (run params).wp (system adapters worker) (Answered params)
      (fun _ => Answered params) {} ⟨a, {}, .empty⟩ [] := by
  have kept : Undisturbed adapters worker (· ≠ "release") (Answered params) :=
    undisturbed_answered
  have began : (Task.call (FlowOp.recordRunStarted (started params)) : Flow Unit).Keeps
      (system adapters worker) (Answered params) := answered_call (by simp)
  have quietly : Onward adapters worker (Task.call (FlowOp.recordRunStarted (started params)) :
      Flow Unit) fun _ ms ran => ms = [] ∧ ran = [] :=
    Onward.call (by simp) fun _ => ⟨rfl, rfl⟩
  refine Task.wp_bind.mpr (Task.wp_bind.mpr (Task.wp_bind.mpr (Task.wp_mono
    (began.wp_with (callsMeet_nil _) (quietly _ ⟨a, {}, .empty⟩ [] quiet_empty)) ?_)))
  rintro (e | _) s₁ w₁ h₁ ⟨met₁, started⟩
  · exact met₁
  · obtain ⟨_, _, ⟨rfl, rfl⟩, advance⟩ := started _ rfl
    refine Task.wp_bind.mpr (Task.wp_attempt.mpr (Task.wp_mono (deliver_answered met₁
      advance.quiet advance.milestones advance.executions) ?_))
    intro outcome s₂ w₂ h₂ met₂
    exact kept.ending (by decide) (by decide) finish_answered answered_emit s₂ w₂ h₂ met₂

/-! ## What the executions on record did -/

theorem executed_honest {h : FlowHistory} (honest : (system adapters worker).Honest h)
    {x : Execution} (mem : x ∈ executions h) : ∃ w attempts w',
      Executes adapters worker x.nodeId x.given w attempts (.ok x.returned) w' := by
  obtain ⟨l, logged, ran⟩ := List.mem_filterMap.mp mem
  have accounted := honest l logged
  have served : ∀ {L : Type} {op : FlowOp} {r : FlowRep op} {s s' : DeliveryFlow}
      {w w' : FlowWorld W}, executionOf (L := L) (.reply op r) = some x →
      Serves adapters worker s w op r s' w' → ∃ w attempts w',
        Executes adapters worker x.nodeId x.given w attempts (.ok x.returned) w' := by
    intro L op r s s' w w' ran served
    cases served with
    | runNode executes =>
        rename_i result _
        cases result with
        | error e => cases ran
        | ok result => cases ran; exact ⟨_, _, _, executes⟩
    | _ => cases ran
  cases l with
  | call op => cases ran
  | reply op r =>
      obtain ⟨_, _, _, _, answered⟩ := accounted
      exact served (L := FlowMove) ran answered
  | env move =>
      obtain ⟨_, _, _, _, moved⟩ := accounted
      cases moved with
      | signal a => cases ran
      | verifier moved =>
          cases moved with
          | answer _ answered => exact served (L := Empty) ran answered

theorem verifier_adds {name : String} (mem : name ∈ allVerifiers) {given returned : FlowState}
    {w w' : W} {attempts : List (Attempt FlowState AdapterOp AdapterRep Lbl PyError Unit)}
    (ran : Executes adapters worker ("verifier." ++ name) given w attempts (.ok returned) w') :
    Verifiers.AddsVerdict name given returned := by
  have adds : ∃ w₀ c, adapters.system.Reaches
      (.launch (runNode worker ("verifier." ++ name) given) w₀ []) c ∧
      c.proc = .done returned (.ok ()) ∧ Verifiers.AddsVerdict name given returned := by
    simp only [allVerifiers, List.mem_cons, List.not_mem_nil, or_false] at mem
    rcases mem with rfl | rfl | rfl | rfl
    · exact ran.ensured fun w => run_node_ensures rfl fun _ _ _ _ =>
        Verifiers.asking_ensures given
    · exact ran.ensured fun w => run_node_ensures rfl fun _ _ _ _ =>
        Verifiers.asking_ensures given
    · exact ran.ensured fun w => run_node_ensures rfl fun _ _ _ _ =>
        Verifiers.test_evidence_ensures given
    · exact ran.ensured fun w => run_node_ensures rfl fun _ _ _ _ =>
        Verifiers.asking_ensures given
  obtain ⟨_, _, _, _, added⟩ := adds
  exact added

/-- Build & Test ran on some world, and ended in this state with this history. -/
theorem build_test_graded {given returned : FlowState} {w w' : W}
    {attempts : List (Attempt FlowState AdapterOp AdapterRep Lbl PyError Unit)}
    (ran : Executes adapters worker "build_test" given w attempts (.ok returned) w') :
    ∃ w₀ c, adapters.system.Reaches (.launch (runNode worker "build_test" given) w₀ []) c ∧
      c.proc = .done returned (.ok ()) ∧ returned.headCommit = given.headCommit ∧
      ∃ config, .reply .resolveConfig (.ok config) ∈ c.history ∧
        BuildTest.Anchored adapters config returned c.history := by
  have established := ran.ensured fun w => run_node_ensures
    (Q := fun _ s' _ h' => s'.headCommit = given.headCommit ∧
      ∃ config, .reply .resolveConfig (.ok config) ∈ h' ∧ BuildTest.Anchored adapters config s' h')
    rfl fun config w h resolved => by
      refine Task.ensures_mono (Task.ensures_past (BuildTest.build_test_ensures given)) ?_
      rintro _ s' w' h' ⟨⟨same, anchored⟩, past⟩
      exact ⟨same, config, past.subset resolved, anchored⟩
  exact established

/-! ## A run that turns to Release -/

variable (adapters worker) in
/-- `commit` is what the Push of a pass was answered, which sent what the Coder of that pass had
left. -/
def Pass.PushedAs (p : Pass) (commit : String) : Prop :=
  ∃ w d scm ref branch base name,
    adapters.system.Reaches (.launch (runNode worker "push" (unnoted p.coded)) w []) d ∧
    d.proc = .done p.pushed (.ok ()) ∧ Push.pinned p.coded = some (branch, base) ∧
    .reply (.pushChange scm ref base branch (Push.commitMessage (unnoted p.coded))
      (p.coded.proposedEdits.map fun edit => ⟨edit.path, edit.content, edit.deleted⟩)
      p.coded.headCommit) (.ok (⟨name, commit⟩ : BranchRef)) ∈ d.history

variable (adapters worker) in
/-- What the past `h` of a run holds when Release is called with `state`. -/
structure Cleared (params : FlowInput) (h : FlowHistory) (state : FlowState) (p : Pass)
    (verdict : CIResult) : Prop where
  /-- `p` is the last pass; after it came the verifiers, on what it had pushed, and each of
  them left its verdict on the state. -/
  executions : ∃ before later, executions h = before ++ p.executions ++ later ∧
    (∀ x ∈ later, x.nodeId ∈ verifierIds ∧ x.given.headCommit = state.headCommit) ∧
    ∀ name ∈ allVerifiers, ∃ x ∈ later, x.nodeId = "verifier." ++ name ∧
      ∃ v ∈ x.returned.verifications, v.verifier = name ∧ v ∈ state.verifications
  /-- The head commit is the one that the Push of `p` was answered. -/
  pushed : ∃ commit, state.headCommit = some commit ∧ p.pushed.headCommit = some commit ∧
    p.PushedAs adapters worker commit
  graded : p.graded.ciResult = some verdict
  green : verdict.exitCode = 0
  unopposed : Unopposed params state.verifications
  /-- The last verdict on record is that of `p`, and the one gate of the run passed. -/
  milestones : ∃ before, milestones h = before ++ [verdictMark p.graded verdict,
      tierMark params p.graded,
      ("gate_reached", .gateReached state.riskTier (requiredApprovals state.riskTier)),
      ("gate_passed", .gatePassed (requiredApprovals state.riskTier = 0))] ∧
    ∀ m ∈ before, m.1 = "build_test_verdict"
  tier : state.riskTier = (finalTier p.graded params).1
  approved : requiredApprovals state.riskTier ≠ 0 →
    requiredApprovals state.riskTier ≤ state.approvals.length ∧
      ∀ a ∈ state.approvals, a.approved = true

theorem AllRan.each_name {brief : FlowState} {ran : List Execution} {objs : List Obj}
    (all : AllRan brief ran objs) {name : String} (mem : name ∈ allVerifiers) :
    ∃ obj ∈ objs, ⟨"verifier." ++ name, brief, obj.val⟩ ∈ ran := by
  have each := all.each
  simp only [verifierIds, List.forall₂_cons_left_iff, List.forall₂_nil_left_iff] at each
  obtain ⟨a, _, ranA, ⟨b, _, ranB, ⟨c, _, ranC, ⟨d, _, ranD, rfl, rfl⟩, rfl⟩, rfl⟩, rfl⟩ := each
  simp only [allVerifiers, List.mem_cons, List.not_mem_nil, or_false] at mem
  rcases mem with rfl | rfl | rfl | rfl
  · exact ⟨a, by simp, ranA⟩
  · exact ⟨b, by simp, ranB⟩
  · exact ⟨c, by simp, ranC⟩
  · exact ⟨d, by simp, ranD⟩

theorem cleared_of_approached {params : FlowInput} {h : FlowHistory} {state : FlowState}
    {p : Pass} {verdict : CIResult} {objs : List Obj}
    (honest : (system adapters worker).Honest h)
    (approached : Approached params (milestones h) (executions h) state p verdict objs) :
    Cleared adapters worker params h state p verdict := by
  obtain ⟨before, later, ran, all⟩ := approached.ran
  obtain ⟨marks, gated, obj, obj', marked, verdicts, passed, rfl, tier⟩ := approached.marks
  have did : ∀ x ∈ before ++ p.executions ++ later, ∃ w attempts w',
      Executes adapters worker x.nodeId x.given w attempts (.ok x.returned) w' :=
    fun x mem => executed_honest honest (ran ▸ mem)
  have graded : p.graded.headCommit = p.pushed.headCommit := by
    obtain ⟨_, _, _, executed⟩ := did ⟨"build_test", unnoted p.pushed, p.graded⟩
      (by simp [Pass.executions])
    obtain ⟨_, _, _, _, same, _⟩ := build_test_graded executed
    exact same
  have pushed : ∃ commit, obj'.val.headCommit = some commit ∧
      p.pushed.headCommit = some commit ∧ p.PushedAs adapters worker commit := by
    obtain ⟨_, _, _, executed⟩ := did ⟨"push", unnoted p.coded, p.pushed⟩
      (by simp [Pass.executions])
    obtain ⟨w, d, reached, final, -, -, scm, ref, branch, base, name, commit, known, left,
      answered⟩ := executes_push_lands executed
    refine ⟨commit, ?_, left, w, d, scm, ref, branch, base, name, reached, final, known, answered⟩
    rw [approached.headCommit, graded, left]
  have gate : gated = [("gate_reached", .gateReached obj'.val.riskTier
      (requiredApprovals obj'.val.riskTier)), ("gate_passed", .gatePassed
      (requiredApprovals obj'.val.riskTier = 0))] ∧
      obj'.val.riskTier = obj.val.riskTier ∧
      (requiredApprovals obj'.val.riskTier ≠ 0 →
        requiredApprovals obj'.val.riskTier ≤ obj'.val.approvals.length ∧
          ∀ a ∈ obj'.val.approvals, a.approved = true) := by
    cases passed with
    | auto none => exact ⟨by simp [none], rfl, fun some => absurd none some⟩
    | approved signals some approves many =>
        refine ⟨?_, rfl, fun _ => ⟨by simpa [counted] using many, ?_⟩⟩
        · simp [counted, some]
        · intro a mem
          obtain ⟨signal, counted, rfl⟩ := List.mem_map.mp mem
          exact approves signal counted
  obtain ⟨gated, same_tier, approved⟩ := gate
  refine ⟨⟨before, later, ran, ?_, ?_⟩, pushed, approached.carried, approached.green,
    approached.unopposed, ⟨marks, ?_, verdicts⟩, same_tier.trans tier, approved⟩
  · intro x mem
    obtain ⟨node, given⟩ := all.only x mem
    refine ⟨node, ?_⟩
    rw [given, approached.headCommit]
    rfl
  · intro name mem
    obtain ⟨r, listed, ran_here⟩ := all.each_name mem
    obtain ⟨_, _, _, executed⟩ := did _ (List.mem_append_right _ ran_here)
    obtain ⟨v, named, added⟩ := verifier_adds mem executed
    have alone : r.val.verifications = [v] := added
    refine ⟨_, ran_here, rfl, v, by simp [alone], named, ?_⟩
    rw [approached.verifications]
    exact List.mem_append_right _ (List.mem_flatMap.mpr ⟨r, listed, by simp [alone]⟩)
  · rw [marked, gated, List.append_assoc]
    rfl

theorem approached_of_called {params : FlowInput} {a : W} {c : FlowConfig W}
    (run : Runs adapters worker params a c) {h rest : FlowHistory} {activityId : String}
    {state : FlowState}
    (called : c.history = h ++ .call (.runNode "release" activityId state) :: rest) :
    (system adapters worker).Honest h ∧ ∃ p verdict objs,
      Approached params (milestones h) (executions h) state p verdict objs := by
  have met : CallsMeet (MayCall params) c.history := wp_invariant (run_answered a) run
  have honest := System.Reaches.honest run (System.honest_launch System.honest_nil)
  exact ⟨(System.honest_append.mp (called ▸ honest)).1,
    met h _ rest called activityId state rfl⟩

/-- Whatever the nodes return or raise and in whatever order signals and verifiers come in,
no run calls Release otherwise. -/
theorem release_cleared {params : FlowInput} {a : W} {c : FlowConfig W}
    (run : Runs adapters worker params a c) {h rest : FlowHistory} {activityId : String}
    {state : FlowState}
    (called : c.history = h ++ .call (.runNode "release" activityId state) :: rest) :
    ∃ p verdict, Cleared adapters worker params h state p verdict := by
  obtain ⟨honest, p, verdict, objs, approached⟩ := approached_of_called run called
  exact ⟨p, verdict, cleared_of_approached honest approached⟩

theorem release_cleared_obliged : ∃ h state p verdict,
    (∃ activityId rest, obligedRun.history =
      h ++ .call (.runNode "release" activityId state) :: rest) ∧
    Cleared obliging plainWorker shopParams h state p verdict := by
  obtain ⟨state, found⟩ :=
    Option.isSome_iff_exists.mp (show obligedState.isSome = true by decide +kernel)
  obtain ⟨h, activityId, rest, called⟩ := called_of_findSome found
  obtain ⟨p, verdict, cleared⟩ := release_cleared obligedRun_runs called
  exact ⟨h, state, p, verdict, ⟨activityId, rest, called⟩, cleared⟩

end KuWarden.Flow
