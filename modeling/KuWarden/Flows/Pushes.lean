import KuWarden.Activities.Pins
import KuWarden.Flows.Feedback

/-!
The pushes of a run belong to one plan: one branch on one base, a state for each pass, and each
push on top of what the one before it was answered. It is such a plan whose exchanges the
platform is shown to serve, whatever becomes of their requests.
-/
namespace KuWarden.Flow

open Process

variable {W Lbl : Type} {adapters : Adapters W Lbl} {worker : Worker} {params : FlowInput}

/-! ## Passes that follow each other -/

/-- What is in hand after these passes. -/
def handed (state : FlowState) (ps : List Pass) : FlowState :=
  (ps.getLast?.map fun p => unnoted p.graded).getD state

/-- What the Coder of the pass after these is called with. -/
def resumed (state : FlowState) (ps : List Pass) : FlowState :=
  { handed state ps with pushAttempt := ps.length }

inductive Chained (state : FlowState) : List Pass → Prop
  | nil : Chained state []
  | concat {ps : List Pass} {p : Pass} : Chained state ps → p.given = resumed state ps →
      Chained state (ps ++ [p])

theorem handed_concat {state : FlowState} {ps : List Pass} {p : Pass} :
    handed state (ps ++ [p]) = unnoted p.graded := by
  simp [handed]

/-- Each of them was given what those before it left. -/
theorem Chained.given {state : FlowState} {ps : List Pass} (chained : Chained state ps) {m : Nat}
    {p : Pass} (at_ : ps[m]? = some p) :
    Chained state (ps.take m) ∧ p.given = resumed state (ps.take m) := by
  induction chained with
  | nil => cases at_
  | @concat ps last earlier follows ih =>
      by_cases inside : m < ps.length
      · rw [List.getElem?_append_left inside] at at_
        rw [List.take_append_of_le_length inside.le]
        exact ih at_
      · rw [List.getElem?_append_right (not_lt.mp inside), List.getElem?_singleton] at at_
        split_ifs at at_ with here
        obtain rfl : m = ps.length := by omega
        cases at_
        rw [List.take_left]
        exact ⟨earlier, follows⟩

/-! ## What the main line has pushed -/

/-- The commits that were pushed, in the order of the passes. -/
def pushed (ran : List Execution) : List String :=
  ran.filterMap fun x => if x.nodeId = "push" then x.returned.headCommit else none

/-- What the Coders handed to Push, in the order of the passes. -/
def coded (ran : List Execution) : List FlowState :=
  ran.filterMap fun x => if x.nodeId = "coder" then some (unnoted x.returned) else none

theorem pushed_append (ran ran' : List Execution) :
    pushed (ran ++ ran') = pushed ran ++ pushed ran' := List.filterMap_append

theorem coded_append (ran ran' : List Execution) : coded (ran ++ ran') = coded ran ++ coded ran' :=
  List.filterMap_append

theorem pushed_passes (ps : List Pass) :
    pushed (ps.flatMap Pass.executions) = ps.filterMap fun p => p.pushed.headCommit := by
  induction ps with
  | nil => rfl
  | cons p rest ih =>
      rw [List.flatMap_cons, pushed_append, ih, List.filterMap_cons]
      cases found : p.pushed.headCommit with
      | none => simp [pushed, Pass.executions, found]
      | some commit => simp [pushed, Pass.executions, found]

theorem coded_passes (ps : List Pass) :
    coded (ps.flatMap Pass.executions) = ps.map fun p => unnoted p.coded := by
  induction ps with
  | nil => rfl
  | cons p rest ih =>
      rw [List.flatMap_cons, coded_append, ih]
      rfl

def planning (params : FlowInput) (triaged planned : FlowState) : List Execution :=
  [⟨"triage", initial params, triaged⟩, ⟨"planner", unnoted triaged, planned⟩]

/-- What was executed when a pass is due after `ps`. -/
def course (params : FlowInput) (triaged planned : FlowState) (ps : List Pass) : List Execution :=
  planning params triaged planned ++ ps.flatMap Pass.executions

theorem course_concat {triaged planned : FlowState} {ps : List Pass} {p : Pass} :
    course params triaged planned ps ++ p.executions =
      course params triaged planned (ps ++ [p]) := by
  simp [course]

theorem pushed_course {triaged planned : FlowState} {ps : List Pass} :
    pushed (course params triaged planned ps) = ps.filterMap fun p => p.pushed.headCommit := by
  rw [course, pushed_append, pushed_passes]
  rfl

theorem coded_course {triaged planned : FlowState} {ps : List Pass} :
    coded (course params triaged planned ps) = ps.map fun p => unnoted p.coded := by
  rw [course, coded_append, coded_passes]
  rfl

/-- A push is called with what the Coder left that went on from these passes. -/
structure Pushable (params : FlowInput) (ran : List Execution) (state : FlowState)
    (triaged planned : FlowState) (ps : List Pass) (left : FlowState) : Prop where
  chained : Chained (unnoted planned) ps
  ran : ran = course params triaged planned ps ++ [⟨"coder", resumed (unnoted planned) ps, left⟩]
  state : state = unnoted left

def MayPush (params : FlowInput) (h : FlowHistory) (op : FlowOp) : Prop :=
  ∀ activityId state, op = .runNode "push" activityId state →
    ∃ triaged planned ps left, Pushable params (executions h) state triaged planned ps left

theorem mayPush_other {h : FlowHistory} {op : FlowOp}
    (other : ∀ activityId state, op ≠ .runNode "push" activityId state) : MayPush params h op :=
  fun _ _ same => absurd same (other _ _)

/-! ## Over a run -/

section Main

variable {before : List Execution} {obj : Obj}

theorem pushes_step {nodeId : String} {state : FlowState}
    (may : nodeId = "push" → ∃ triaged planned ps left,
      Pushable params before state triaged planned ps left) :
    Traces adapters worker (MayPush params) before (nodeStep nodeId state) fun obj ran =>
      ∃ result, ran = [⟨nodeId, state, result⟩] ∧ obj.val = unnoted result := by
  refine .nodeStep (fun _ _ _ => mayPush_other (by simp)) ?_
  rintro h activityId rfl _ _ ⟨⟩
  exact may rfl

theorem pushes_pass {triaged planned : FlowState} {ps : List Pass}
    (chained : Chained (unnoted planned) ps) (hands : obj.val = handed (unnoted planned) ps) :
    Traces adapters worker (MayPush params) (course params triaged planned ps)
      (pass ps.length obj) fun obj' ran => ∃ p, ran = p.executions ∧
        obj'.val = unnoted p.graded ∧ Chained (unnoted planned) (ps ++ [p]) := by
  refine .mutate_bind ?_
  rw [hands]
  refine (pushes_step (by simp)).bind ?_
  rintro coder _ ⟨left, rfl, coderDid⟩
  refine (pushes_step fun _ => ⟨triaged, planned, ps, left, chained, rfl, coderDid⟩).bind ?_
  rintro push _ ⟨pushed, rfl, pushDid⟩
  refine .emit_bind (fun _ _ _ => mayPush_other (by simp)) ?_
  refine Traces.bind (P := fun _ ran => ran = [])
    (.call (by simp) (fun _ _ => mayPush_other (by simp)) fun _ => rfl) ?_
  rintro _ _ rfl
  refine (pushes_step (by simp)).bind ?_
  rintro build _ ⟨graded, rfl, buildDid⟩
  rw [coderDid, pushDid]
  let p : Pass := ⟨resumed (unnoted planned) ps, left, pushed, graded⟩
  have whole : Chained (unnoted planned) (ps ++ [p]) := chained.concat rfl
  cases build.val.ciResult with
  | none => exact .pure ⟨p, rfl, buildDid, whole⟩
  | some verdict =>
      exact .emit_bind (fun _ _ _ => mayPush_other (by simp)) (.pure ⟨p, rfl, buildDid, whole⟩)

/-- Over the passes that are left. -/
theorem pushes_cycle {triaged planned : FlowState} {ps : List Pass} {more : Nat}
    (chained : Chained (unnoted planned) ps) (hands : obj.val = handed (unnoted planned) ps) :
    Traces adapters worker (MayPush params) (course params triaged planned ps)
      (cycle (List.range' ps.length more) obj) fun _ _ => True := by
  induction more generalizing obj ps with
  | zero => exact .raise
  | succ more ih =>
      refine (pushes_pass chained hands).bind ?_
      rintro obj' _ ⟨p, rfl, did, whole⟩
      split
      · exact .pure trivial
      · rw [course_concat, show ps.length + 1 = (ps ++ [p]).length by simp]
        exact (ih whole (did.trans handed_concat.symm)).mono fun _ _ _ => trivial

abbrev Pushed (params : FlowInput) :
    Assertion DeliveryFlow (FlowWorld W) FlowOp FlowRep FlowMove :=
  fun _ _ h => CallsMeet (MayPush params) h

theorem pushed_call {op : FlowOp}
    (other : ∀ activityId state, op ≠ .runNode "push" activityId state) :
    (Task.call op : Flow (FlowRep op)).Keeps (system adapters worker) (Pushed params) := by
  refine Task.keeps_call ?_ ?_ ?_
  · intro s w h met
    exact callsMeet_append_call.mpr ⟨met, mayPush_other other⟩
  · intro s w h l s' w' met _
    exact (callsMeet_append_other (by simp)).mpr met
  · intro s w h r s' w' met _
    exact (callsMeet_append_other (by simp)).mpr met

theorem pushed_emit {kind : String} {payload : Payload} {nodeId mode : Option String} :
    (emit kind payload nodeId mode).Keeps (system adapters worker) (Pushed params) :=
  Task.keeps_bind (Task.keeps_update fun _ _ _ met => met) fun _ =>
    Task.keeps_bind Task.keeps_read fun _ => pushed_call (by simp)

theorem undisturbed_pushed :
    Undisturbed adapters worker (· ≠ "push") (Pushed (W := W) params) := by
  refine undisturbed_of_calls (fun _ _ _ _ _ _ met => met)
    (fun _ _ _ _ _ => pushed_emit) fun op _ _ nodes _ => pushed_call ?_
  rintro activityId state rfl
  exact nodes _ _ _ rfl rfl

theorem fan_out_pushed (brief : FlowState) :
    (fanOut brief).Keeps (system adapters worker) (Pushed params) :=
  Task.keeps_bind pushed_emit fun _ => pushed_call (by simp)

theorem finish_pushed : finish.Keeps (system adapters worker) (Pushed params) :=
  Task.keeps_bind Task.keeps_read fun _ => Task.keeps_bind pushed_emit fun _ =>
    Task.keeps_bind Task.keeps_read fun _ => pushed_call (by simp)

/-- What comes after the cycle, up to the end of the main line, pushes nothing. -/
theorem after_cycle_pushed :
    (do
      reportIsolation obj.val
      let obj ← settleTier params obj
      let obj ← verify obj
      let obj ← judge params obj
      gate obj : Flow Obj).Keeps (system adapters worker) (Pushed params) := by
  have kept : Undisturbed adapters worker (· ≠ "push") (Pushed (W := W) params) :=
    undisturbed_pushed
  exact Task.keeps_bind kept.reportIsolation fun _ => Task.keeps_bind kept.settleTier fun _ =>
    Task.keeps_bind (kept.verify fan_out_pushed pushed_emit) fun _ =>
    Task.keeps_bind kept.judge fun _ => kept.gate

theorem approach_pushed {s : DeliveryFlow} {w : FlowWorld W} {h : FlowHistory}
    (quiet : Quiet w.pool) (met : CallsMeet (MayPush params) h) (past : executions h = []) :
    (approach params ⟨0, initial params⟩).wp (system adapters worker) (Pushed params)
      (fun _ => Pushed params) s w h := by
  refine Task.wp_bind.mpr (Task.wp_mono (pushes_step (by simp) s w h quiet met past) ?_)
  rintro (e | triage) s₁ w₁ h₁ ⟨met₁, left⟩
  · exact met₁
  obtain ⟨quiet₁, _, ⟨triaged, rfl, triageDid⟩, past₁⟩ := left triage rfl
  rw [Task.andThen_ok]
  refine Task.wp_bind.mpr (Task.wp_mono (pushes_step (by simp) s₁ w₁ h₁ quiet₁ met₁ past₁) ?_)
  rintro (e | planner) s₂ w₂ h₂ ⟨met₂, left⟩
  · exact met₂
  obtain ⟨quiet₂, _, ⟨planned, rfl, plannerDid⟩, past₂⟩ := left planner rfl
  have opened : executions h₂ = course params triaged planned [] := by
    rw [past₂, triageDid]
    simp [course, planning]
  have cycled : Traces adapters worker (MayPush params) (course params triaged planned [])
      (cycle (List.range' 0 (params.maxCoderRetries + 1).toNat) planner) fun _ _ => True :=
    pushes_cycle .nil plannerDid
  rw [Task.andThen_ok, List.range_eq_range']
  refine Task.wp_bind.mpr (Task.wp_mono (cycled s₂ w₂ h₂ quiet₂ met₂ opened) ?_)
  rintro (e | built) s₃ w₃ h₃ ⟨met₃, -⟩
  · exact met₃
  · exact after_cycle_pushed s₃ w₃ h₃ met₃

theorem run_pushed (params : FlowInput) (a : W) :
    (run params).wp (system adapters worker) (Pushed params) (fun _ => Pushed params)
      {} ⟨a, {}, .empty⟩ [] := by
  have kept : Undisturbed adapters worker (· ≠ "push") (Pushed (W := W) params) :=
    undisturbed_pushed
  have began : Traces adapters worker (MayPush params) []
      (Task.call (FlowOp.recordRunStarted (started params))) fun _ ran => ran = [] :=
    .call (by simp) (fun _ _ => mayPush_other (by simp)) fun _ => rfl
  refine Task.wp_bind.mpr (Task.wp_bind.mpr (Task.wp_bind.mpr (Task.wp_mono
    (began _ ⟨a, {}, .empty⟩ [] quiet_empty (callsMeet_nil _) rfl) ?_)))
  rintro (e | _) s₁ w₁ h₁ ⟨met₁, left⟩
  · exact met₁
  obtain ⟨quiet₁, _, rfl, past₁⟩ := left _ rfl
  have releases : ∀ obj : Obj, (nodeStep "release" obj.val >>= fun obj =>
      reportEffect obj.val >>= fun _ => pure obj : Flow Obj).Keeps (system adapters worker)
        (Pushed params) := fun _ => Task.keeps_bind (kept.nodeStep (by decide)) fun obj => by
    refine Task.keeps_bind ?_ fun _ => Task.keeps_pure _
    unfold reportEffect
    split
    · exact Task.keeps_pure _
    · exact pushed_emit
  have ends : ∀ outcome, (ending params ⟨0, initial params⟩ outcome).Keeps
      (system adapters worker) (Pushed (W := W) params) := fun _ =>
    kept.ending (by decide) (by decide) finish_pushed pushed_emit
  rw [Task.andThen_ok]
  refine Task.wp_bind.mpr (Task.wp_attempt.mpr (Task.wp_bind.mpr (Task.wp_mono
    (approach_pushed quiet₁ met₁ past₁) ?_)))
  rintro (e | gated) s w h met
  · exact ends _ s w h met
  · exact Task.wp_mono (releases gated s w h met) fun outcome s w h met => ends outcome s w h met

end Main

/-! ## What the passes on record did -/

variable (adapters worker) in
/-- What the nodes of a pass made of where its change goes. -/
structure Ran (p : Pass) : Prop where
  coded : landed p.coded = landed p.given
  kept : ∀ x, Push.pinned p.given = some x → Push.pinned p.coded = some x
  pushed : ∃ w d, adapters.system.Reaches
    (.launch (runNode worker "push" (unnoted p.coded)) w []) d ∧
      Lands (unnoted p.coded) p.pushed d.history
  graded : placed p.graded = placed p.pushed

theorem ran_of_honest {h : FlowHistory} (honest : (system adapters worker).Honest h) {p : Pass}
    (did : ∀ x ∈ p.executions, x ∈ executions h) : Ran adapters worker p := by
  obtain ⟨_, _, _, coder⟩ := executed_honest honest
    (did ⟨"coder", p.given, p.coded⟩ (by simp [Pass.executions]))
  obtain ⟨_, _, _, push⟩ := executed_honest honest
    (did ⟨"push", unnoted p.coded, p.pushed⟩ (by simp [Pass.executions]))
  obtain ⟨_, _, _, build⟩ := executed_honest honest
    (did ⟨"build_test", unnoted p.pushed, p.graded⟩ (by simp [Pass.executions]))
  obtain ⟨landing, kept⟩ := executes_coder_pins coder
  obtain ⟨w, d, reached, -, lands⟩ := executes_push_lands push
  have graded : placed p.graded = placed (unnoted p.pushed) := executes_placed build (by simp)
  exact ⟨landing, kept, ⟨w, d, reached, lands⟩, graded⟩

namespace Ran

variable {p : Pass}

/-- What is pinned once a pass has pushed, and was before. -/
theorem pins (ran : Ran adapters worker p) :
    ∃ x, Push.pinned p.coded = some x ∧ Push.pinned p.graded = some x := by
  obtain ⟨_, _, -, where_, -, _, _, branch, base, _, _, known, -, -⟩ := ran.pushed
  refine ⟨(branch, base), known, ?_⟩
  rw [pinned_of_placed ran.graded]
  simp only [placed, Prod.mk.injEq] at where_
  have known : Push.pinned p.coded = some (branch, base) := known
  simp only [Push.pinned] at known ⊢
  rw [where_.1, where_.2.1, where_.2.2]
  exact known

theorem pins_eq (ran : Ran adapters worker p) {x : String × BranchRef}
    (known : Push.pinned p.given = some x) : Push.pinned p.graded = some x := by
  obtain ⟨y, coded, graded⟩ := ran.pins
  rw [graded, ← coded, ran.kept x known]

theorem commit (ran : Ran adapters worker p) : ∃ commit, p.pushed.headCommit = some commit := by
  obtain ⟨_, _, -, -, -, _, _, _, _, _, commit, -, is, -⟩ := ran.pushed
  exact ⟨commit, is⟩

theorem head (ran : Ran adapters worker p) : p.graded.headCommit = p.pushed.headCommit :=
  congrArg (fun kept => kept.2.1) ran.graded

end Ran

section Passes

variable {state : FlowState} {ps : List Pass}

/-- The commits of passes that did push are one for each. -/
theorem commits_of_ran (ran : ∀ p ∈ ps, Ran adapters worker p) :
    (ps.filterMap fun p => p.pushed.headCommit) =
      ps.map fun p => p.pushed.headCommit.getD "" := by
  rw [← List.filterMap_eq_map]
  refine List.filterMap_congr fun p mem => ?_
  obtain ⟨commit, is⟩ := (ran p mem).commit
  simp only [Function.comp_apply, is, Option.getD_some]

/-- Once a pass is pinned, so are all that follow, to the same branch and base. -/
theorem Chained.pins (chained : Chained state ps) (ran : ∀ p ∈ ps, Ran adapters worker p)
    {first : Pass} (head : ps.head? = some first) {x : String × BranchRef}
    (known : Push.pinned first.coded = some x) : Push.pinned (handed state ps) = some x := by
  induction chained with
  | nil => cases head
  | @concat ps p earlier follows ih =>
      rw [handed_concat]
      have last := ran p (by simp)
      by_cases alone : ps = []
      · subst alone
        cases head
        obtain ⟨y, coded, graded⟩ := last.pins
        rw [show Push.pinned (unnoted first.graded) = _ from graded, ← coded, known]
      · rw [List.head?_append_of_ne_nil _ alone] at head
        have before := ih (fun q mem => ran q (by simp [mem])) head
        refine last.pins_eq ?_
        rw [follows]
        exact before

/-- The Coder of the next pass is called with the last commit. -/
theorem resumed_head (ran : ∀ p ∈ ps, Ran adapters worker p) (fresh : state.headCommit = none) :
    (resumed state ps).headCommit = (ps.filterMap fun p => p.pushed.headCommit).getLast? := by
  rw [commits_of_ran ran, List.getLast?_map]
  show (handed state ps).headCommit = _
  unfold handed
  cases last : ps.getLast? with
  | none => exact fresh
  | some p =>
      have mem := ran p (List.mem_of_getLast? last)
      obtain ⟨commit, is⟩ := mem.commit
      show p.graded.headCommit = some (p.pushed.headCommit.getD "")
      rw [mem.head, is]
      rfl

end Passes

/-! ## The plan of a run -/

/-- What an attempt of the plan asks of the platform, on whichever repository. -/
def asks (plan : GitHub.Plan) (scm : ScmProvider) (ref : RepoRef)
    (attempt : Nat × Option String) : AdapterOp :=
  .pushChange scm ref plan.base plan.branch (plan.message attempt.1) (plan.edits attempt.1)
    attempt.2

/-- The plan of a run whose Coders handed these states to Push: the branch and the base are
those that the first of them pinned. -/
def planOf (ref : RepoRef) (params : FlowInput) (left : List FlowState) : GitHub.Plan where
  ref := ref
  base := ((left.head?.bind Push.pinned).map Prod.snd).getD ⟨"", ""⟩
  branch := ((left.head?.bind Push.pinned).map Prod.fst).getD ""
  given n := { (left[n]?).getD (initial params) with pushAttempt := n }
  numbered _ := rfl

/-- This state is what the plan gives to its attempt `m`, on top of `parent`. -/
structure InPlan (plan : GitHub.Plan) (m : Nat) (parent : Option String) (state : FlowState) :
    Prop where
  given : plan.given m = state
  parent : state.headCommit = parent
  pinned : ∀ x, Push.pinned state = some x → x = (plan.branch, plan.base)

section Plan

variable {plan : GitHub.Plan} {m : Nat} {parent : Option String} {state : FlowState}

theorem InPlan.sends (stands : InPlan plan m parent state) {op : AdapterOp}
    (sends : Sends state op) : ∃ scm ref, op = asks plan scm ref (m, parent) := by
  obtain ⟨scm, ref, branch, base, known, rfl⟩ := sends
  obtain ⟨rfl, rfl, pinned⟩ := stands
  obtain ⟨rfl, rfl⟩ := Prod.mk.inj (pinned _ known)
  exact ⟨scm, ref, rfl⟩

theorem InPlan.lands (stands : InPlan plan m parent state) {result : FlowState}
    {h : History AdapterOp AdapterRep Lbl} (lands : Lands state result h) :
    ∃ scm ref name commit, result.headCommit = some commit ∧
      .reply (asks plan scm ref (m, parent)) (.ok (⟨name, commit⟩ : BranchRef)) ∈ h := by
  obtain ⟨-, -, scm, ref, branch, base, name, commit, known, is, answered⟩ := lands
  obtain ⟨rfl, rfl, pinned⟩ := stands
  obtain ⟨rfl, rfl⟩ := Prod.mk.inj (pinned _ known)
  exact ⟨scm, ref, name, commit, is, answered⟩

/-- What a Coder left stands in the plan that is made of what all of them did. -/
theorem inPlan_of_split {ref : RepoRef} {states tail : List FlowState} {start left : FlowState}
    {ps : List Pass} (split : states = ps.map (fun p => unnoted p.coded) ++ unnoted left :: tail)
    (chained : Chained start ps) (ran : ∀ p ∈ ps, Ran adapters worker p)
    (fresh : start.headCommit = none) (landing : landed left = landed (resumed start ps))
    (kept : ∀ x, Push.pinned (resumed start ps) = some x → Push.pinned left = some x) :
    InPlan (planOf ref params states) ps.length
      (ps.filterMap fun p => p.pushed.headCommit).getLast? (unnoted left) := by
  have attempt : left.pushAttempt = ps.length := congrArg Prod.snd landing
  refine ⟨?_, ?_, fun x known => ?_⟩
  · have here : states[ps.length]? = some (unnoted left) := by
      rw [split, List.getElem?_append_right (by simp)]
      simp
    show { (states[ps.length]?).getD (initial params) with pushAttempt := (ps.length : Int) } = _
    rw [here, ← attempt]
    rfl
  · rw [← resumed_head ran fresh]
    exact congrArg Prod.fst landing
  · have first : states.head?.bind Push.pinned = some x := by
      cases ps with
      | nil =>
          rw [split]
          exact known
      | cons p rest =>
          obtain ⟨y, coded, -⟩ := (ran p List.mem_cons_self).pins
          have same : Push.pinned left = some y := kept y (chained.pins ran rfl coded)
          rw [split]
          exact coded.trans (same.symm.trans known)
    rw [planOf, first]
    rfl

/-- The commit an attempt is built on is the last of those before it. -/
theorem parent_eq {g : GitHub.Pushing} (m : Nat) (within : m ≤ g.returned.length) :
    g.parent m = (g.returned.take m).getLast? := by
  cases m with
  | zero => rfl
  | succ m =>
      have some : g.parent (m + 1) = g.returned[m]? := rfl
      rw [some, List.getLast?_take]
      simp [List.getElem?_eq_getElem (show m < g.returned.length by omega)]

end Plan

variable (adapters worker) in
/-- A push from this state is the next of the plan, on top of what was returned so far: every
try of it asks just that. And what was returned answers the pushes of the plan before it. -/
structure Planned (plan : GitHub.Plan) (g : GitHub.Pushing) (state : FlowState) : Prop where
  given : plan.given g.returned.length = state
  sent : ∀ w d, adapters.system.Reaches (.launch (runNode worker "push" state) w []) d →
    ∀ op, .call op ∈ d.history → op ≠ .resolveConfig → ∃ scm ref,
      op = asks plan scm ref (g.returned.length, g.parent g.returned.length)
  answered : ∀ m commit, g.returned[m]? = some commit → ∃ w d scm ref name,
    adapters.system.Reaches (.launch (runNode worker "push" (plan.given m)) w []) d ∧
      .reply (asks plan scm ref (m, g.parent m)) (.ok (⟨name, commit⟩ : BranchRef)) ∈ d.history

/-- Whatever a run calls Push with is of one plan. -/
theorem planned_of_pushable {g : GitHub.Pushing} {ref : RepoRef} {ran : List Execution}
    {state triaged planned left : FlowState} {ps : List Pass} {states tail : List FlowState}
    (did : ∀ x ∈ ran, ∃ w attempts w',
      Executes adapters worker x.nodeId x.given w attempts (.ok x.returned) w')
    (passes : ∀ p ∈ ps, Ran adapters worker p)
    (due : Pushable params ran state triaged planned ps left)
    (split : states = coded ran ++ tail) (so_far : g.returned = pushed ran) :
    Planned adapters worker (planOf ref params states) g state := by
  obtain ⟨chained, rfl, rfl⟩ := due
  obtain ⟨_, _, _, triage⟩ := did ⟨"triage", initial params, triaged⟩ (by simp [course, planning])
  obtain ⟨_, _, _, planner⟩ := did ⟨"planner", unnoted triaged, planned⟩
    (by simp [course, planning])
  obtain ⟨_, _, _, coder⟩ := did ⟨"coder", resumed (unnoted planned) ps, left⟩ (by simp)
  have routed : placed triaged = placed (initial params) := executes_placed triage (by simp)
  have drafted : placed planned = placed (unnoted triaged) := executes_placed planner (by simp)
  have fresh : (unnoted planned).headCommit = none :=
    congrArg (fun kept => kept.2.1) (drafted.trans routed)
  have commits : g.returned = ps.filterMap fun p => p.pushed.headCommit := by
    rw [so_far, pushed_append, pushed_course]
    exact List.append_nil _
  have count : g.returned.length = ps.length := by
    rw [commits, commits_of_ran passes, List.length_map]
  obtain ⟨landing, kept⟩ := executes_coder_pins coder
  have whole : states = ps.map (fun p => unnoted p.coded) ++ unnoted left :: tail := by
    rw [split, coded_append, coded_course, List.append_assoc]
    rfl
  have stands : InPlan (planOf ref params states) ps.length
      (ps.filterMap fun p => p.pushed.headCommit).getLast? (unnoted left) :=
    inPlan_of_split whole chained passes fresh landing kept
  rw [← commits, ← count, show g.returned.getLast? = g.parent g.returned.length by
    rw [parent_eq _ le_rfl, List.take_length]] at stands
  refine ⟨stands.given, fun w d reached op called other => ?_, fun m commit at_ => ?_⟩
  · exact stands.sends (push_sends reached called other)
  · rw [commits, commits_of_ran passes, List.getElem?_map] at at_
    obtain ⟨p, there, rfl⟩ := Option.map_eq_some_iff.mp at_
    obtain ⟨earlier, given⟩ := chained.given there
    have mem := passes p (List.mem_of_getElem? there)
    have within : m < ps.length := (List.getElem?_eq_some_iff.mp there).1
    have before : ∀ q ∈ ps.take m, Ran adapters worker q := fun q mem =>
      passes q (List.mem_of_mem_take mem)
    have at_m : states = (ps.take m).map (fun p => unnoted p.coded) ++
        unnoted p.coded :: ((ps.drop (m + 1)).map (fun p => unnoted p.coded) ++
          unnoted left :: tail) := by
      rw [whole]
      conv_lhs => rw [← List.take_append_drop m ps, List.drop_eq_getElem_cons within]
      rw [(List.getElem?_eq_some_iff.mp there).2]
      simp
    have stood : InPlan (planOf ref params states) (ps.take m).length
        ((ps.take m).filterMap fun p => p.pushed.headCommit).getLast? (unnoted p.coded) :=
      inPlan_of_split at_m earlier before fresh (given ▸ mem.coded)
        fun x known => mem.kept x (given ▸ known)
    obtain ⟨w, d, reached, lands⟩ := mem.pushed
    obtain ⟨scm, ref', name, commit, is, answered⟩ := stood.lands lands
    have parent : g.parent m = ((ps.take m).filterMap fun p => p.pushed.headCommit).getLast? := by
      rw [parent_eq _ (by omega), commits, commits_of_ran passes, commits_of_ran before,
        List.map_take]
    have length : (ps.take m).length = m := by simp [within.le]
    rw [length] at stood answered
    refine ⟨w, d, scm, ref', name, ?_, ?_⟩
    · rw [stood.given]
      exact reached
    · rw [parent, is]
      exact answered

/-! ## Runs -/

def pushCalls (h : FlowHistory) : List FlowState := h.filterMap (callOf "push")

def bare : DataApi.Repository := ⟨fun _ => none, fun _ => none, fun _ => none, fun _ => none⟩

/-- All that a run pushes belongs to one plan, on the branch and the base that its first Coder
pinned, wherever it stands and however often the activities of its pushes are tried. -/
theorem pushes_planned {a : W} {c : FlowConfig W} (run : Runs adapters worker params a c)
    (ref : RepoRef) : ∃ plan : GitHub.Plan, plan.ref = ref ∧
      (∀ first pinned, (coded (executions c.history)).head? = some first →
        Push.pinned first = some pinned → (plan.branch, plan.base) = pinned) ∧
      ∀ before activityId state rest,
        c.history = before ++ .call (.runNode "push" activityId state) :: rest →
        ∀ g : GitHub.Pushing, g.returned = pushed (executions before) →
          Planned adapters worker plan g state := by
  have honest : (system adapters worker).Honest c.history :=
    System.Reaches.honest run (System.honest_launch System.honest_nil)
  have met : CallsMeet (MayPush params) c.history :=
    wp_invariant (P := Pushed params) (run_pushed params a) run
  refine ⟨planOf ref params (coded (executions c.history)), rfl, ?_, ?_⟩
  · intro first pinned head known
    rw [planOf, head, Option.bind_some, known]
    rfl
  intro before activityId state rest split g so_far
  obtain ⟨triaged, planned, ps, left, due⟩ := met before _ rest split activityId state rfl
  have early : (system adapters worker).Honest before :=
    (System.honest_append.mp (split ▸ honest)).1
  have passes : ∀ p ∈ ps, Ran adapters worker p := fun p mem =>
    ran_of_honest early fun x within => by
      rw [due.ran]
      exact List.mem_append_left _ (List.mem_append_right _ (List.mem_flatMap.mpr ⟨p, mem, within⟩))
  have whole : coded (executions c.history) = coded (executions before) ++ coded (executions
      (.call (.runNode "push" activityId state) :: rest)) := by
    rw [split, executions_append, coded_append]
  exact planned_of_pushable (fun x mem => executed_honest early mem) passes due whole so_far

/-- The pipeline rejects what is pushed first, so that run pushes on top of it. -/
theorem pushes_planned_rejected : ∃ plan first before activityId state rest g,
    (coded (executions rejectedRun.history)).head? = some first ∧
      Push.pinned first = some (plan.branch, plan.base) ∧
      rejectedRun.history = before ++ .call (.runNode "push" activityId state) :: rest ∧
      g.returned = pushed (executions before) ∧ g.returned.length = 1 ∧
      Planned (answering reject) plainWorker plan g state := by
  have again :
      (pushCalls rejectedRun.history).any (fun state => state.pushAttempt = 1) = true := by
    decide +kernel
  have pins : ((coded (executions rejectedRun.history)).head?.bind Push.pinned).isSome = true := by
    decide +kernel
  have run := rejectedRun_runs
  generalize rejectedRun = c at again pins run
  obtain ⟨state, listed, second⟩ := List.any_eq_true.mp again
  obtain ⟨l, logged, called⟩ := List.mem_filterMap.mp listed
  obtain ⟨before, activityId, rest, split⟩ := split_of_callOf logged called
  obtain ⟨plan, -, where_, each⟩ :=
    pushes_planned run { host := "github.com", org := "acme", repo := "shop" }
  obtain ⟨pinned, found⟩ := Option.isSome_iff_exists.mp pins
  obtain ⟨first, head, known⟩ := Option.bind_eq_some_iff.mp found
  let g : GitHub.Pushing := ⟨bare, pushed (executions before), []⟩
  have planned : Planned (answering reject) plainWorker plan g state :=
    each before activityId state rest split g rfl
  have numbered : (g.returned.length : Int) = 1 := by
    rw [← plan.numbered, planned.given]
    exact of_decide_eq_true second
  exact ⟨plan, first, before, activityId, state, rest, g, head,
    known.trans (congrArg some (where_ first pinned head known).symm), split, rfl,
    by exact_mod_cast numbered, planned⟩

end KuWarden.Flow
