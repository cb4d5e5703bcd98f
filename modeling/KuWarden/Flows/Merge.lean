import KuWarden.Flows.Clearance

/-!
The one merge a run may make: under which policy, of which commit, and on whose verdict.
-/
namespace KuWarden.Flow

open Process

variable {W Lbl : Type} {adapters : Adapters W Lbl} {worker : Worker}

/-- In the past of a run, Build & Test left the verdict that `state` carries: it waited for the
verdict on `commit` under the settings and for the repository of the application's configuration,
and was returned a pass, on an answer in which every pipeline run that counts is one of `commit`
and had passed. -/
def AnchoredBy (adapters : Adapters W Lbl) (worker : Worker) (h : FlowHistory)
    (state : FlowState) (commit : String) : Prop :=
  ∃ x ∈ executions h, x.nodeId = "build_test" ∧ x.returned.ciResult = state.ciResult ∧
    ∃ w c, adapters.system.Reaches (.launch (runNode worker "build_test" x.given) w []) c ∧
      c.proc = .done x.returned (.ok ()) ∧ ∃ config settings repo answer outcome,
        .reply .resolveConfig (.ok config) ∈ c.history ∧ config.ci = some settings ∧
        config.primary = .ok repo ∧
        Ci.Awaited adapters repo.ref settings commit answer outcome c.history ∧
        outcome.passed = some true ∧
        (∃ verdict, state.ciResult = some verdict ∧ verdict.url = outcome.url) ∧
        Ci.counted settings commit answer ≠ [] ∧
        ∀ run ∈ Ci.counted settings commit answer,
          run.headSha = commit ∧ run.passed = some true

/-- What a merge of `commit` was allowed under. -/
structure MergeAllowed (adapters : Adapters W Lbl) (worker : Worker) (h : FlowHistory)
    (state : FlowState) (commit : String) (config : AppConfig) : Prop where
  policy : Release.MayMerge config state
  head : state.headCommit = some commit
  /-- The tier the policy was held against is the one on record as final. -/
  final : ∃ provisional reason changed, ("risk_tier_final",
    .riskTierFinal state.riskTier provisional reason changed) ∈ milestones h
  green : ∃ verdict, state.ciResult = some verdict ∧ verdict.exitCode = 0
  anchored : config.autoMerge.requireExternalAnchor = true →
    (∃ verdict, state.ciResult = some verdict ∧ verdict.source = .ci ∧
      verdict.exitCode = 0) ∧ AnchoredBy adapters worker h state commit

/-- An attempt at Release asks for a merge only where the configuration it resolved allows
one. -/
theorem release_node_asks (s : FlowState) (w : W) :
    (runNode worker "release").wp adapters.system
      (fun _ _ h => CallsMeet (Release.MayAsk s) h)
      (fun _ _ _ h => CallsMeet (Release.MayAsk s) h) s w [] := by
  have resolves : (Node.ask .resolveConfig).Keeps adapters.system
      fun _ _ h => CallsMeet (Release.MayAsk s) h :=
    Node.keeps_ask_callsMeet fun _ => by simp [Release.MayAsk]
  refine Task.wp_bind.mpr (Task.wp_mono (resolves.wp_with (callsMeet_nil _)
    (Node.ensures_ask (Q := fun config s' _ h' => s' = s ∧
      .reply .resolveConfig (.ok config) ∈ h') fun config _ _ => ⟨rfl, by simp⟩)) ?_)
  rintro (e | config) s₁ w₁ h₁ ⟨met₁, resolved⟩
  · exact met₁
  · obtain ⟨rfl, known⟩ := resolved _ rfl
    exact Release.release_asks known met₁

/-- The verdict a release carries, traced back to the poll it was read from. -/
theorem anchoredBy_of_approached {params : FlowInput} {h : FlowHistory} {state : FlowState}
    {p : Pass} {verdict : CIResult} {objs : List Obj} {commit : String}
    (honest : (system adapters worker).Honest h)
    (approached : Approached params (milestones h) (executions h) state p verdict objs)
    (head : state.headCommit = some commit) (ci : verdict.source = .ci) :
    AnchoredBy adapters worker h state commit := by
  obtain ⟨before, later, ran, -⟩ := approached.ran
  have mem : ⟨"build_test", unnoted p.pushed, p.graded⟩ ∈ executions h := by
    rw [ran]
    simp [Pass.executions]
  obtain ⟨_, _, _, executed⟩ := executed_honest honest mem
  obtain ⟨w, c, reached, final, -, config, resolved, anchored⟩ := build_test_graded executed
  obtain ⟨settings, repo, graded, answer, outcome, declared, primary, known, awaited, passed,
    url⟩ := anchored verdict approached.carried ci approached.green
  have same : graded = commit := by
    rw [← approached.headCommit, head] at known
    exact (Option.some.inj known).symm
  subst same
  obtain ⟨some_counted, all_passed⟩ := awaited.allPassed passed
  refine ⟨_, mem, rfl, approached.ciResult.symm, w, c, reached, final, config, settings, repo,
    answer, outcome, resolved, declared, primary, awaited, passed,
    ⟨verdict, approached.ciResult.trans approached.carried, url⟩, some_counted, ?_⟩
  intro run counted
  exact ⟨(Ci.mem_counted.mp counted).2.1, all_passed run counted⟩

/-- `d` is any point of any attempt at the Release that the run called. -/
theorem merge_allowed {params : FlowInput} {a : W} {c : FlowConfig W}
    (run : Runs adapters worker params a c) {h rest : FlowHistory} {activityId : String}
    {state : FlowState}
    (called : c.history = h ++ .call (.runNode "release" activityId state) :: rest)
    {w : W} {d : Config FlowState W AdapterOp AdapterRep Lbl (Except PyError Unit)}
    (attempt : adapters.system.Reaches (.launch (runNode worker "release" state) w []) d)
    {scm : ScmProvider} {ref : RepoRef} {number commit : String}
    (merges : .call (.mergePullRequest scm ref number commit) ∈ d.history) :
    ∃ config, .reply .resolveConfig (.ok config) ∈ d.history ∧
      MergeAllowed adapters worker h state commit config := by
  have met : CallsMeet (Release.MayAsk state) d.history :=
    wp_invariant (release_node_asks state w) attempt
  obtain ⟨before, after, split⟩ := List.append_of_mem merges
  obtain ⟨config, resolved, policy, head⟩ := met before _ after split _ _ _ _ rfl
  obtain ⟨honest, p, verdict, objs, approached⟩ := approached_of_called run called
  have carried : state.ciResult = some verdict :=
    approached.ciResult.trans approached.carried
  refine ⟨config, ?_, policy, head, ?_, ⟨verdict, carried, approached.green⟩, ?_⟩
  · rw [split]
    exact List.mem_append_left _ resolved
  · obtain ⟨marks, gated, gatedBy, passed, recorded, -, gate, rfl, tier⟩ := approached.marks
    obtain ⟨approvals, same⟩ := gatePassed_state gate
    have marked : tierMark params p.graded ∈ milestones h := by
      rw [recorded]
      simp
    have settled : passed.val.riskTier = (finalTier p.graded params).1 := by
      rw [same]
      exact tier
    rw [settled]
    exact ⟨_, _, _, marked⟩
  · intro required
    obtain ⟨result, found, ci⟩ := policy.anchor required
    have same : result = verdict := Option.some.inj (found.symm.trans carried)
    subst same
    exact ⟨⟨result, carried, ci, approached.green⟩,
      anchoredBy_of_approached honest approached head ci⟩

def callsMerge : Label AdapterOp AdapterRep Empty → Bool
  | .call (.mergePullRequest _ _ _ _) => true
  | _ => false

def obligedRelease (state : FlowState) :
    Config FlowState Unit AdapterOp AdapterRep Empty (Except PyError Unit) :=
  obligingScript.node.play Script.patience
    (.launch (runNode plainWorker "release" state) () [])

theorem merge_allowed_obliged : ∃ h state commit config,
    (∃ activityId rest, obligedRun.history =
      h ++ .call (.runNode "release" activityId state) :: rest) ∧
    MergeAllowed obliging plainWorker h state commit config := by
  have merged : (match obligedState with
      | some state => (obligedRelease state).history.any callsMerge
      | none => false) = true := by decide +kernel
  split at merged
  next state found =>
    obtain ⟨h, activityId, rest, called⟩ := called_of_findSome found
    obtain ⟨l, mem, call⟩ := List.any_eq_true.mp merged
    unfold callsMerge at call
    split at call
    next scm ref number commit =>
      obtain ⟨config, -, allowed⟩ := merge_allowed obligedRun_runs called
        (Schedule.play_reaches _ _ _) mem
      exact ⟨h, state, commit, config, ⟨activityId, rest, called⟩, allowed⟩
    next => cases call
  next => cases merged

end KuWarden.Flow
