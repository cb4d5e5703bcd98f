import KuWarden.Activities.Prompts
import KuWarden.Adapters.Pushing

/-!
Where a change goes: the branch and the base that the Coder pins, and the commit that Push
leaves. What the nodes up to Build & Test keep of it, and what a push sends.
-/
namespace KuWarden

open Process

/-- Where a change goes and what it was last pushed as, with the pass it belongs to. -/
def placed (state : FlowState) :
    (Option String × Option String × Option String) × Option String × Int :=
  ((state.branch, state.baseBranch, state.baseCommit), state.headCommit, state.pushAttempt)

/-- What it was last pushed as, with the pass it belongs to. -/
def landed (state : FlowState) : Option String × Int := (placed state).2

section

variable {W Lbl : Type} {adapters : Adapters W Lbl} {ctx : NodeContext}

theorem pinned_of_placed {s s' : FlowState} (same : placed s' = placed s) :
    Push.pinned s' = Push.pinned s := by
  simp only [placed, Prod.mk.injEq] at same
  simp only [Push.pinned, same.1.1, same.1.2.1, same.1.2.2]

/-- What is pinned reads back field by field. -/
theorem pinned_eq_some {s : FlowState} {branch : String} {base : BranchRef} :
    Push.pinned s = some (branch, base) ↔ nonEmpty s.branch = some branch ∧
      nonEmpty s.baseBranch = some base.name ∧ nonEmpty s.baseCommit = some base.commit := by
  unfold Push.pinned
  obtain ⟨name, commit⟩ := base
  cases nonEmpty s.branch with
  | none => simp
  | some branch' =>
      cases nonEmpty s.baseBranch with
      | none => simp
      | some name' =>
          cases nonEmpty s.baseCommit with
          | none => simp
          | some commit' => simp

/-! ## Triage, Planner and Build & Test -/

theorem triage_placed : Node.Leaves adapters placed (Triage.triage ctx) := by
  refine Node.leaves_bind Node.leaves_read fun _ =>
    Node.leaves_bind Node.leaves_ofExcept fun _ => ?_
  split
  next =>
    refine Node.leaves_bind Node.leaves_ofExcept fun _ => Node.leaves_bind Node.leaves_ask fun _ =>
      Node.leaves_bind (Node.leaves_update fun _ => rfl) fun _ =>
      Node.leaves_bind Node.leaves_ofExcept fun _ =>
      Node.leaves_bind (Node.leaves_update fun _ => rfl) fun _ =>
      Node.leaves_bind (Node.leaves_update fun _ => rfl) fun _ => fun x => ?_
    exact Asked.acknowledge ⟨fun _ => Node.leaves_ask x⟩
  next => exact Node.leaves_raise

theorem planner_placed : Node.Leaves adapters placed (Planner.planner ctx) := by
  unfold Planner.planner
  dsimp only
  split
  next llm _ =>
    exact Node.leaves_bind Node.leaves_ofExcept fun _ => Node.leaves_bind Node.leaves_ofExcept
      fun _ => Node.leaves_bind Node.leaves_read fun _ => Node.leaves_bind Node.leaves_ask fun _ =>
      Node.leaves_bind Node.leaves_ofExcept fun _ =>
      Node.leaves_bind (Node.leaves_update fun _ => rfl) fun _ => Node.leaves_update fun _ => rfl
  next => exact Node.leaves_raise

theorem anchor_to_ci_placed : Node.Leaves adapters placed (BuildTest.anchorToCi ctx) :=
  fun x => BuildTest.keeps_anchor_to_ci (Node.leaves_ask x) (Node.leaves_ask x)
    (Task.keeps_update fun _ _ _ same => same) (Task.keeps_update fun _ _ _ same => same)

theorem build_test_placed : Node.Leaves adapters placed (BuildTest.buildTest ctx) := by
  refine Node.leaves_bind Node.leaves_read fun state =>
    Node.leaves_bind Node.leaves_ofExcept fun _ => ?_
  split
  · exact Node.leaves_update fun _ => rfl
  · dsimp only
    split
    next =>
      refine Node.leaves_bind Node.leaves_ofExcept fun _ =>
        Node.leaves_bind Node.leaves_ofExcept fun _ => Node.leaves_bind Node.leaves_ask fun _ =>
        Node.leaves_bind (Node.leaves_withWorkspace fun _ => Node.leaves_ask) fun result =>
        Node.leaves_bind (Node.leaves_update fun _ => rfl) fun _ => ?_
      split
      case' isTrue => refine Node.leaves_bind anchor_to_ci_placed fun _ => ?_
      all_goals exact Node.leaves_update fun _ => rfl
    next => exact Node.leaves_raise

/-! ## The Coder -/

theorem pinBase_leaves {γ : Type} {π : FlowState → γ} {scm : ScmProvider} {ref : RepoRef} :
    Node.Leaves adapters π (Coder.pinBase scm ref) :=
  fun x => Asked.pinBase ⟨fun _ => Node.leaves_ask x⟩

theorem pinBase_pinned {scm : ScmProvider} {ref : RepoRef} {s : FlowState} {name commit : String}
    {w : W} {h : History AdapterOp AdapterRep Lbl} (named : nonEmpty s.baseBranch = some name)
    (at_ : nonEmpty s.baseCommit = some commit) :
    (Coder.pinBase scm ref).ensures adapters.system
      (fun base s' _ _ => s' = s ∧ base = ⟨name, commit⟩) s w h := by
  refine Task.ensures_read_bind.mpr ?_
  rw [named, at_]
  exact Task.ensures_pure ⟨rfl, rfl⟩

theorem branchName_pinned {s : FlowState} {branch : String}
    (known : nonEmpty s.branch = some branch) : Coder.branchName s = branch := by
  rw [Coder.branchName, known]
  rfl

theorem select_leaves_placed {files : List (String × Bytes)} :
    Node.Leaves adapters placed (Coder.select ctx files) := by
  refine Node.leaves_bind Node.leaves_read fun _ => Node.leaves_bind Node.leaves_ask fun _ =>
    Node.leaves_bind Node.leaves_ofExcept fun _ => ?_
  dsimp only
  split
  · exact Node.leaves_pure
  · exact Node.leaves_pure

theorem attempts_placed {settings : NodeModel} {files : List (String × Bytes)}
    {selected : List String} {workspace : WorkspaceRef} {rounds : List Nat} {log : Coder.Log} :
    Node.Leaves adapters placed
      (Coder.attempts ctx settings files selected workspace rounds log) := by
  induction rounds generalizing log with
  | nil => exact Node.leaves_pure
  | cons attempt rest ih =>
      refine Node.leaves_bind (Node.leaves_update fun _ => rfl) fun _ =>
        Node.leaves_bind Node.leaves_read fun _ => Node.leaves_bind Node.leaves_ask fun _ =>
        Node.leaves_bind (Node.leaves_update fun _ => rfl) fun _ =>
        Node.leaves_bind Node.leaves_ask fun _ => Node.leaves_bind Node.leaves_ask fun _ => ?_
      dsimp only
      split
      · exact Node.leaves_pure
      · exact ih

/-- What the Coder writes down leaves what is pinned already. -/
theorem pins_kept {s s' : FlowState} {base : BranchRef}
    (same : placed s' =
      ((some (Coder.branchName s), some base.name, some base.commit), landed s))
    (kept : ∀ x, Push.pinned s = some x → base = x.2) :
    landed s' = landed s ∧ ∀ x, Push.pinned s = some x → Push.pinned s' = some x := by
  have landing := congrArg Prod.snd same
  refine ⟨landing, fun x known => ?_⟩
  obtain ⟨branch, base'⟩ := x
  obtain rfl := kept _ known
  obtain ⟨is, named, at_⟩ := pinned_eq_some.mp known
  rw [branchName_pinned is] at same
  simp only [placed, landed, Prod.mk.injEq] at same
  obtain ⟨⟨branch', name', commit'⟩, -⟩ := same
  refine pinned_eq_some.mpr ⟨?_, ?_, ?_⟩
  · rw [branch']
    exact nonEmpty_eq_some.mpr ⟨rfl, (nonEmpty_eq_some.mp is).2⟩
  · rw [name']
    exact nonEmpty_eq_some.mpr ⟨rfl, (nonEmpty_eq_some.mp named).2⟩
  · rw [commit']
    exact nonEmpty_eq_some.mpr ⟨rfl, (nonEmpty_eq_some.mp at_).2⟩

/-- A Coder leaves the commit and the pass, and whatever is pinned already. -/
theorem coder_ensures {s : FlowState} {w : W} {h : History AdapterOp AdapterRep Lbl} :
    (Coder.coder ctx).ensures adapters.system (fun _ s' _ _ => landed s' = landed s ∧
      ∀ x, Push.pinned s = some x → Push.pinned s' = some x) s w h := by
  unfold Coder.coder
  dsimp only
  split
  next llm _ =>
    split
    case isTrue =>
      exact Task.ensures_bind (R := fun _ _ _ _ => False) Task.ensures_raise
        fun _ _ _ _ absurd => absurd.elim
    refine Task.ensures_ofExcept_bind.mpr fun settings _ =>
      Task.ensures_ofExcept_bind.mpr fun repo _ => Task.ensures_ofExcept_bind.mpr fun scm _ => ?_
    have pins : (Coder.pinBase scm repo.ref).ensures adapters.system (fun base s' _ _ => s' = s ∧
        ∀ x, Push.pinned s = some x → base = x.2) s w h := by
      cases known : Push.pinned s with
      | none =>
          refine Task.ensures_mono (pinBase_leaves.still s w h) ?_
          rintro base s' _ _ rfl
          exact ⟨rfl, fun _ absurd => by cases absurd⟩
      | some x =>
          obtain ⟨-, named, at_⟩ := pinned_eq_some.mp known
          refine Task.ensures_mono (pinBase_pinned named at_) ?_
          rintro base s' _ _ ⟨rfl, rfl⟩
          refine ⟨rfl, fun y same => ?_⟩
          cases same
          rfl
    refine Task.ensures_bind pins fun base s₁ w₁ h₁ pinned => ?_
    obtain ⟨rfl, kept⟩ := pinned
    refine Task.ensures_update_bind.mpr (Task.ensures_bind (Node.leaves_ask.still _ _ _)
      fun tree s₂ w₂ h₂ same => ?_)
    subst same
    refine Task.ensures_update_bind.mpr (Task.ensures_mono
      ((?rest : Node.Leaves adapters placed _).ensures _ _ _) fun _ s' _ _ same => ?_)
    case rest =>
      exact Node.leaves_bind Node.leaves_ofExcept fun _ =>
        Node.leaves_bind select_leaves_placed fun _ =>
        Node.leaves_bind (Node.leaves_withWorkspace fun _ =>
          Node.leaves_bind attempts_placed fun _ => Node.leaves_bind Node.leaves_ask fun _ =>
          Node.leaves_pure) fun _ =>
        Node.leaves_bind (Node.leaves_update fun _ => rfl) fun _ => Node.leaves_update fun _ => rfl
    exact pins_kept same kept
  next => exact Task.ensures_raise

/-! ## Push -/

/-- The one request that a push makes of this state, on whichever repository. -/
def Sends (state : FlowState) (op : AdapterOp) : Prop :=
  ∃ scm ref branch base, Push.pinned state = some (branch, base) ∧
    op = .pushChange scm ref base branch (Push.commitMessage state)
      (state.proposedEdits.map fun edit => ⟨edit.path, edit.content, edit.deleted⟩)
      state.headCommit

theorem pinned_of_ready {state : FlowState} {paths : List String} {branch : String}
    {base : BranchRef} (ready : Push.ready state = .ok (paths, branch, base)) :
    Push.pinned state = some (branch, base) := by
  revert ready
  unfold Push.ready
  dsimp only
  split
  · intro absurd
    cases absurd
  · cases Push.pinned state with
    | none =>
        intro absurd
        cases absurd
    | some known =>
        obtain ⟨branch', base'⟩ := known
        cases assertNotProtected ((state.diff.map Diff.paths).getD []) with
        | error e =>
            intro absurd
            cases absurd
        | ok _ =>
            intro same
            cases same
            rfl

/-- What a push leaves: everything in its place, but for the commit that it was answered. -/
def Lands {Lbl : Type} (s s' : FlowState) (h : History AdapterOp AdapterRep Lbl) : Prop :=
  (placed s').1 = (placed s).1 ∧ s'.pushAttempt = s.pushAttempt ∧
    ∃ scm ref branch base name commit, Push.pinned s = some (branch, base) ∧
      s'.headCommit = some commit ∧
      .reply (.pushChange scm ref base branch (Push.commitMessage s)
        (s.proposedEdits.map fun edit => ⟨edit.path, edit.content, edit.deleted⟩)
        s.headCommit) (.ok ⟨name, commit⟩) ∈ h

theorem push_lands {s : FlowState} {w : W} {h : History AdapterOp AdapterRep Lbl} :
    (Push.push ctx).ensures adapters.system (fun _ s' _ h' => Lands s s' h') s w h := by
  refine Task.ensures_read_bind.mpr (Task.ensures_ofExcept_bind.mpr ?_)
  rintro ⟨paths, branch, base⟩ ready
  refine Task.ensures_ofExcept_bind.mpr fun repo _ => Task.ensures_ofExcept_bind.mpr fun scm _ => ?_
  have known := pinned_of_ready ready
  refine Task.ensures_bind (R := fun pushed s' _ h' => s' = s ∧
      .reply (.pushChange scm repo.ref base branch (Push.commitMessage s)
        (s.proposedEdits.map fun edit => ⟨edit.path, edit.content, edit.deleted⟩)
        s.headCommit) (.ok pushed) ∈ h')
    (Node.ensures_ask fun pushed _ _ => ⟨rfl, by simp⟩) ?_
  rintro ⟨name, commit⟩ s' w' h' ⟨rfl, answered⟩
  exact Task.ensures_update
    ⟨rfl, rfl, scm, repo.ref, branch, base, name, commit, known, rfl, answered⟩

/-- A call that may be made, and what follows it in the state that made it. -/
theorem wp_ask_bind {α : Type} {G : History AdapterOp AdapterRep Lbl → AdapterOp → Prop}
    {op : AdapterOp} {f : AdapterValue op → Node α} {s : FlowState} {w : W}
    {h : History AdapterOp AdapterRep Lbl} (met : CallsMeet G h) (allowed : G h op)
    (hf : ∀ v w' h', CallsMeet G h' → (f v).wp adapters.system (fun _ _ h => CallsMeet G h)
      (fun _ _ _ h => CallsMeet G h) s w' h') :
    (Node.ask op >>= f).wp adapters.system (fun _ _ h => CallsMeet G h)
      (fun _ _ _ h => CallsMeet G h) s w h := by
  refine Task.wp_bind.mpr (Node.wp_ask.mpr fun s' w' h' drift => ?_)
  cases Node.drift_state drift
  have met' : CallsMeet G h' :=
    (callsMeet_drift drift).mpr (callsMeet_append_call.mpr ⟨met, allowed⟩)
  refine ⟨met', fun r s'' w'' served => ?_⟩
  have met'' : CallsMeet G (h' ++ [.reply op r]) := (callsMeet_append_other (by simp)).mpr met'
  obtain ⟨rfl, -⟩ := served
  cases r with
  | ok v => exact hf v w'' _ met''
  | error e => exact met''

def MaySend (state : FlowState) (_ : History AdapterOp AdapterRep Lbl) (op : AdapterOp) : Prop :=
  op = .resolveConfig ∨ Sends state op

theorem run_sends {worker : Worker} {state : FlowState} {w : W} :
    (runNode worker "push").wp adapters.system (fun _ _ h => CallsMeet (MaySend state) h)
      (fun _ _ _ h => CallsMeet (MaySend state) h) state w [] := by
  refine wp_ask_bind (callsMeet_nil _) (.inl rfl) fun config w₁ h₁ met => ?_
  refine Task.wp_bind.mpr (Task.wp_read.mpr (Task.wp_bind.mpr ((Task.wp_ofExcept _).mpr ?_)))
  cases ready : Push.ready state with
  | error e => exact met
  | ok found =>
      obtain ⟨paths, branch, base⟩ := found
      refine Task.wp_bind.mpr ((Task.wp_ofExcept _).mpr ?_)
      cases config.primary with
      | error e => exact met
      | ok repo =>
          refine Task.wp_bind.mpr ((Task.wp_ofExcept _).mpr ?_)
          cases Node.scmAdapter repo with
          | error e => exact met
          | ok scm =>
              exact wp_ask_bind met (.inr ⟨scm, repo.ref, branch, base, pinned_of_ready ready, rfl⟩)
                fun _ _ _ met => met

/-- Whatever it is answered, a push sends what the state it was called with says. -/
theorem push_sends {worker : Worker} {state : FlowState} {w : W}
    {c : Config FlowState W AdapterOp AdapterRep Lbl (Except PyError Unit)}
    (run : adapters.system.Reaches (.launch (runNode worker "push" state) w []) c)
    {op : AdapterOp} (called : .call op ∈ c.history) (other : op ≠ .resolveConfig) :
    Sends state op := by
  have met : CallsMeet (MaySend state) c.history :=
    wp_invariant (P := fun _ _ h => CallsMeet (MaySend state) h) run_sends run
  obtain ⟨before, after, split⟩ := List.append_of_mem called
  exact (met before _ after split).resolve_left other

end

section

variable {W Lbl : Type} {adapters : Adapters W Lbl} {worker : Worker}
  {state result : FlowState} {w w' : W}
  {attempts : List (Attempt FlowState AdapterOp AdapterRep Lbl PyError Unit)}

/-- The nodes that say nothing of where a change goes. -/
theorem executes_placed {nodeId : String}
    (ran : Executes adapters worker nodeId state w attempts (.ok result) w')
    (which : nodeId ∈ ["triage", "planner", "build_test"]) : placed result = placed state := by
  have ensured : ∀ w, (runNode worker nodeId).ensures adapters.system
      (fun _ s' _ _ => placed s' = placed state) state w [] := by
    intro w
    have one : nodeId = "triage" ∨ nodeId = "planner" ∨ nodeId = "build_test" := by
      simpa using which
    rcases one with rfl | rfl | rfl
    · exact run_node_ensures rfl fun _ _ _ _ => triage_placed.ensures state _ _
    · exact run_node_ensures rfl fun _ _ _ _ => planner_placed.ensures state _ _
    · exact run_node_ensures rfl fun _ _ _ _ => build_test_placed.ensures state _ _
  obtain ⟨_, _, _, _, same⟩ := ran.ensured ensured
  exact same

theorem executes_coder_pins
    (ran : Executes adapters worker "coder" state w attempts (.ok result) w') :
    landed result = landed state ∧
      ∀ x, Push.pinned state = some x → Push.pinned result = some x := by
  obtain ⟨_, _, _, _, kept⟩ := ran.ensured fun _ =>
    run_node_ensures rfl fun _ _ _ _ => coder_ensures
  exact kept

theorem executes_push_lands
    (ran : Executes adapters worker "push" state w attempts (.ok result) w') :
    ∃ w₀ c, adapters.system.Reaches (.launch (runNode worker "push" state) w₀ []) c ∧
      c.proc = .done result (.ok ()) ∧ Lands state result c.history :=
  ran.ensured fun _ => run_node_ensures rfl fun _ _ _ _ => push_lands

end
end KuWarden
