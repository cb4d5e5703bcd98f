import KuWarden.Sandbox.Podman
import KuWarden.Nodes.BuildTest
import KuWarden.Flows.Play

/-!
Whether Build & Test and the Coder agree on one execution. The Coder's loop ends on
`succeeded`; Build & Test records the exit code, and goes by that alone.
-/
namespace KuWarden.BuildTest

open Process

def execOf {L : Type} : Label AdapterOp AdapterRep L → List (Except PyError ExecResult)
  | .reply (.exec _ _ _ _) reply => [reply]
  | _ => []

/-- What the commands that were run in the sandbox came to. -/
def execs {L : Type} (h : History AdapterOp AdapterRep L) : List (Except PyError ExecResult) :=
  h.flatMap execOf

def Passes (state : FlowState) : Prop :=
  ∃ verdict, state.sandboxResult = some verdict ∧ verdict.exitCode = 0

section
variable {W Lbl : Type} {adapters : Adapters W Lbl} {ctx : NodeContext} {w : W}
  {h : History AdapterOp AdapterRep Lbl}

theorem execs_append (h h' : History AdapterOp AdapterRep Lbl) :
    execs (h ++ h') = execs h ++ execs h' := List.flatMap_append

theorem execs_drift {s s' : FlowState} {w w' : W} {h h' : History AdapterOp AdapterRep Lbl}
    (drift : adapters.system.Drift s w h s' w' h') : execs h' = execs h := by
  induction drift with
  | refl => rfl
  | step _ _ ih =>
      rw [execs_append, ih]
      exact List.append_nil _

/-- What `π` shows of the state, and what ran in the sandbox so far. -/
def Ran {γ : Type} (π : FlowState → γ) (x : γ) (ran : List (Except PyError ExecResult)) :
    Assertion FlowState W AdapterOp AdapterRep Lbl :=
  fun s _ h => π s = x ∧ execs h = ran

variable {γ : Type} {π : FlowState → γ} {x : γ} {ran : List (Except PyError ExecResult)}

theorem ask_ran {op : AdapterOp}
    (other : ∀ workspace image command limits, op ≠ .exec workspace image command limits) :
    (Node.ask op).Keeps adapters.system (Ran π x ran) := by
  rintro s w h ⟨same, given⟩
  refine Node.wp_ask.mpr ?_
  intro s' w' h' drift
  cases Node.drift_state drift
  have silent : execs h' = ran := by
    rw [execs_drift drift, execs_append, given]
    exact List.append_nil _
  refine ⟨⟨same, silent⟩, ?_⟩
  rintro r s'' w'' ⟨rfl, -⟩
  refine ⟨same, ?_⟩
  rw [execs_append, silent]
  cases op with
  | exec workspace image command limits => exact absurd rfl (other workspace image command limits)
  | _ => exact List.append_nil _

theorem update_ran {f : FlowState → FlowState} (same : ∀ s, π (f s) = π s) :
    (Task.update f : Node Unit).Keeps adapters.system (Ran π x ran) :=
  Task.keeps_update fun s _ _ held => ⟨(same s).trans held.1, held.2⟩

/-- A workspace that is made for one command gives its result back. -/
theorem exec_ran {s : FlowState} {files : List (String × Bytes)} {image : String}
    {command : List String} {limits : ResourceLimits} (unrun : execs h = []) :
    (Node.withWorkspace files fun workspace => Node.ask (.exec workspace image command limits) :
      Node ExecResult).ensures adapters.system
        (fun result => Ran id s [.ok result]) s w h := by
  refine Task.ensures_bind ((ask_ran (by simp)).ensures (⟨rfl, unrun⟩ : Ran id s [] s w h)) ?_
  rintro workspace s₁ w₁ h₁ ⟨rfl, unrun₁⟩
  refine Task.ensures_bind (R := fun outcome => Ran id s₁ [outcome])
    (Task.ensures_attempt (Node.wp_ask.mpr fun s' w' h' drift => ⟨trivial, ?_⟩)) ?_
  · rintro reply s'' w'' ⟨rfl, -⟩
    refine ⟨Node.drift_state drift, ?_⟩
    rw [execs_append, execs_drift drift, execs_append, unrun₁]
    rfl
  · rintro outcome s₂ w₂ h₂ ran
    refine Task.ensures_bind ((ask_ran (by simp)).ensures ran) ?_
    rintro _ s₃ w₃ h₃ ran
    cases outcome with
    | error e => exact Task.ensures_raise
    | ok result => exact Task.ensures_pure ran

theorem anchor_to_ci_ran {verdict : Option CIResult} :
    (anchorToCi ctx).Keeps adapters.system (Ran FlowState.sandboxResult verdict ran) :=
  keeps_anchor_to_ci (ask_ran (by simp)) (ask_ran (by simp)) (update_ran fun _ => rfl)
    (update_ran fun _ => rfl)

def verdictOf (result : ExecResult) : CIResult where
  exitCode := result.exitCode
  durationMs := result.durationMs
  source := .sandbox

/-- Build & Test runs one command, and records what it came to. -/
theorem build_test_ran {s : FlowState} (edits : s.proposedEdits ≠ [])
    (bound : ctx.sandbox = true) (unrun : execs h = []) :
    (buildTest ctx).ensures adapters.system (fun _ s' w' h' =>
      ∃ result, Ran FlowState.sandboxResult (some (verdictOf result)) [.ok result] s' w' h')
      s w h := by
  refine Task.ensures_read_bind.mpr (Task.ensures_ofExcept_bind.mpr fun _ _ => ?_)
  split
  next nothing => exact absurd nothing (by simp [edits, bound])
  next =>
    dsimp only
    split
    next commit _ =>
      refine Task.ensures_ofExcept_bind.mpr fun repo _ => ?_
      refine Task.ensures_ofExcept_bind.mpr fun scm _ => ?_
      refine Task.ensures_bind ((ask_ran (by simp)).ensures (⟨rfl, unrun⟩ : Ran id s [] s w h)) ?_
      rintro tree s₁ w₁ h₁ ⟨rfl, unrun₁⟩
      refine Task.ensures_bind (exec_ran unrun₁) ?_
      rintro result s₂ w₂ h₂ ⟨rfl, ran⟩
      refine Task.ensures_update_bind.mpr ?_
      have recorded : Ran FlowState.sandboxResult (some (verdictOf result)) [.ok result]
          (graded result s₂) w₂ h₂ := ⟨rfl, ran⟩
      have closes : ∀ {s' w' h'},
          Ran FlowState.sandboxResult (some (verdictOf result)) [.ok result] s' w' h' →
          (Task.update fun state => { state with
            notes := notes ctx (overlay tree.files s₂.proposedEdits).length result state } :
            Node Unit).ensures adapters.system (fun _ s' w' h' => ∃ result,
              Ran FlowState.sandboxResult (some (verdictOf result)) [.ok result] s' w' h')
            s' w' h' :=
        fun ran => Task.ensures_update ⟨result, ran⟩
      split
      · exact Task.ensures_bind (anchor_to_ci_ran.ensures recorded) fun _ _ _ _ => closes
      · exact closes recorded
    next => exact Task.ensures_raise

/-- The sandbox verdict that Build & Test records passes exactly when the Coder would count the
same execution as a success, unless a command ended with zero and reached a bound. -/
theorem sandbox_verdict_agrees_iff {s s' : FlowState}
    {c : Config FlowState W AdapterOp AdapterRep Lbl (Except PyError Unit)}
    (edits : s.proposedEdits ≠ []) (bound : ctx.sandbox = true)
    (run : adapters.system.Reaches (.launch (buildTest ctx s) w []) c)
    (done : c.proc = .done s' (.ok ())) :
    ∃ result, execs c.history = [.ok result] ∧
      ((Passes s' ↔ result.succeeded = true) ↔
        (result.exitCode = 0 → result.limitsHit = [])) ∧
      ∀ code out err durationMs limits capabilities,
        result = Podman.report code out err durationMs limits capabilities →
        ((Passes s' ↔ result.succeeded = true) ↔
          (code = 0 → Podman.Unbounded err durationMs limits)) := by
  obtain ⟨result, recorded, ran⟩ := Task.ensures_sound (build_test_ran edits bound rfl) run done
  have passes : Passes s' ↔ result.exitCode = 0 := by
    unfold Passes
    rw [recorded]
    simp [verdictOf]
  have agrees : (Passes s' ↔ result.succeeded = true) ↔
      (result.exitCode = 0 → result.limitsHit = []) := by
    rw [passes, Podman.succeeded_iff]
    exact ⟨fun same zero => (same.mp zero).2, fun quiet => ⟨fun zero => ⟨zero, quiet zero⟩, And.left⟩⟩
  refine ⟨result, ran, agrees, ?_⟩
  rintro code out err durationMs limits capabilities rfl
  refine agrees.trans (forall_congr' fun zero => ?_)
  obtain rfl : code = 0 := zero
  exact Podman.limits_hit_eq_nil

end

/-! ## A bound that is reached by a command that ends well -/

def oneEdit : FlowState :=
  { (default : FlowState) with
    baseCommit := some "ba5e"
    proposedEdits := [⟨"sort.py", "", false⟩] }

def builder : NodeContext := ⟨Flow.shopConfig, Flow.plainWorker.reading, "", true⟩

/-- The tests pass, and print the error that one of them expects. -/
def expectedError : ExecResult :=
  Podman.report 0 "" "MemoryError" 1 Flow.shopConfig.sandbox.limits ⟨true, true, true⟩

def printError : (op : AdapterOp) → AdapterRep op
  | .exec _ _ _ _ => .ok expectedError
  | op => Flow.oblige op

/-- The sandbox verdict where Build & Test has returned on these answers, and what ran. -/
def builtOn (reply : (op : AdapterOp) → AdapterRep op) :
    Option (Option CIResult) × List (Option ExecResult) :=
  let c := Flow.played reply (buildTest builder) oneEdit
  ((Flow.returned c).map FlowState.sandboxResult, (execs c.history).map Except.toOption)

theorem built_ends {reply : (op : AdapterOp) → AdapterRep op} {x : ExecResult}
    (ended : builtOn reply = (some (some (verdictOf x)), [some x])) :
    ∃ c s', (Flow.answering reply).system.Reaches (.launch (buildTest builder oneEdit) () []) c ∧
      c.proc = .done s' (.ok ()) ∧ s'.sandboxResult = some (verdictOf x) ∧
      execs c.history = [.ok x] := by
  obtain ⟨verdict, given⟩ := Prod.mk.inj ended
  obtain ⟨s', ceased, recorded⟩ := Option.map_eq_some_iff.mp verdict
  obtain ⟨answer, is, answered⟩ := List.map_eq_singleton_iff.mp given
  refine ⟨_, s', Flow.played_reaches reply _ _, Flow.done_of_returned ceased, recorded, ?_⟩
  cases answer with
  | error e => cases answered
  | ok found =>
      cases answered
      exact is

/-- What the obliging sandbox reports. -/
def clean : ExecResult := { exitCode := 0, stdout := "", stderr := "", durationMs := 1 }

theorem sandbox_verdict_agrees_iff_clean : ∃ c s',
    (Flow.answering Flow.oblige).system.Reaches (.launch (buildTest builder oneEdit) () []) c ∧
      c.proc = .done s' (.ok ()) ∧ ∃ result, execs c.history = [.ok result] ∧
      ((Passes s' ↔ result.succeeded = true) ↔
        (result.exitCode = 0 → result.limitsHit = [])) ∧
      ∀ code out err durationMs limits capabilities,
        result = Podman.report code out err durationMs limits capabilities →
        ((Passes s' ↔ result.succeeded = true) ↔
          (code = 0 → Podman.Unbounded err durationMs limits)) := by
  obtain ⟨c, s', run, done, -, -⟩ := built_ends (x := clean)
    (by decide +kernel : builtOn Flow.oblige = _)
  exact ⟨c, s', run, done, sandbox_verdict_agrees_iff (by decide) rfl run done⟩

/-- A bound was reached, so the Coder would go on; the verdict passes. -/
theorem sandbox_verdict_passes_bound : ∃ c s',
    (Flow.answering printError).system.Reaches (.launch (buildTest builder oneEdit) () []) c ∧
      c.proc = .done s' (.ok ()) ∧ execs c.history = [.ok expectedError] ∧
      ¬ (Passes s' ↔ expectedError.succeeded = true) := by
  obtain ⟨c, s', run, done, recorded, ran⟩ := built_ends (x := expectedError)
    (by decide +kernel : builtOn printError = _)
  refine ⟨c, s', run, done, ran, fun agrees => ?_⟩
  have counted : expectedError.succeeded = true := agrees.mp ⟨_, recorded, rfl⟩
  revert counted
  decide +kernel

end KuWarden.BuildTest
