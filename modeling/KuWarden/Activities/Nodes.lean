import KuWarden.Nodes.BuildTest
import KuWarden.Nodes.Coder
import KuWarden.Nodes.Compensate
import KuWarden.Nodes.Push
import KuWarden.Nodes.Release
import KuWarden.Nodes.Reporter
import KuWarden.Nodes.Triage
import KuWarden.Nodes.Verifiers
import KuWarden.Process.Attempts

/-!
Node execution as an activity: the configuration that governs the run is resolved, and
the node runs under it. The platform tries a failed execution again, up to three times.
-/
namespace KuWarden

open Process

def nodes : String → Option (NodeContext → Node Unit)
  | "triage" => some Triage.triage
  | "planner" => some Planner.planner
  | "coder" => some Coder.coder
  | "push" => some Push.push
  | "build_test" => some BuildTest.buildTest
  | "verifier.correctness" => some Verifiers.correctness
  | "verifier.security" => some Verifiers.security
  | "verifier.test_evidence" => some Verifiers.testEvidence
  | "verifier.regression_risk" => some Verifiers.regressionRisk
  | "release" => some Release.release
  | "compensate" => some Compensate.compensate
  | "reporter" => some Reporter.reporter
  | _ => none

/-- What a worker binds besides the configuration, which it resolves for every run. -/
structure Worker where
  reading : Reading
  baseUrl : String

def runNode (worker : Worker) (nodeId : String) : Node Unit :=
  match nodes nodeId with
  | none => Node.fail .lookupError ("unknown node " ++ Text.repr nodeId)
  | some fn => do
      let config ← Node.ask .resolveConfig
      fn ⟨config, worker.reading, worker.baseUrl, true⟩

/-- `non_retryable_error_types`. -/
def nonRetryable (e : PyError) : Bool :=
  ["PolicyDenied", "ProtectedPathWritten", "RiskTierLowered", "InvariantViolation",
    "ConfigError", "LLMAuthError", "LLMOutputTruncated", "LLMRequestRejected"].contains
    e.kind.name

def maximumAttempts : Nat := 3

/-- What the workflow is told of an execution whose attempts gave no answer. -/
def timedOut : PyError := ⟨.timeoutError, "activity StartToClose timeout", none⟩

/-- One execution of a node from `state`, with the attempts it took. -/
def Executes {W Lbl : Type} (adapters : Adapters W Lbl) (worker : Worker)
    (nodeId : String) (state : FlowState) (w : W)
    (attempts : List (Attempt FlowState AdapterOp AdapterRep Lbl PyError Unit))
    (result : Except PyError FlowState) (w' : W) : Prop :=
  ∃ r, Tries adapters.system (runNode worker nodeId) state nonRetryable timedOut maximumAttempts w
    attempts r w' ∧ result = r.map Prod.snd

section
variable {W Lbl : Type} {adapters : Adapters W Lbl} {worker : Worker} {nodeId : String}
  {state result : FlowState} {w w' : W}
  {attempts : List (Attempt FlowState AdapterOp AdapterRep Lbl PyError Unit)}

theorem run_node_ensures {fn : NodeContext → Node Unit} {s : FlowState} {w : W}
    {Q : Unit → Assertion FlowState W AdapterOp AdapterRep Lbl}
    (known : nodes nodeId = some fn)
    (hfn : ∀ config w h, .reply .resolveConfig (.ok config) ∈ h →
      (fn ⟨config, worker.reading, worker.baseUrl, true⟩).ensures adapters.system Q s w h) :
    (runNode worker nodeId).ensures adapters.system Q s w [] := by
  unfold runNode
  rw [known]
  refine Task.ensures_bind (R := fun config s' _ h' => s' = s ∧
    .reply .resolveConfig (.ok config) ∈ h')
    (Node.ensures_ask fun config _ _ => ⟨rfl, by simp⟩) ?_
  rintro config s' w' h' ⟨rfl, resolved⟩
  exact hfn config w' h' resolved

/-- What an execution returns, some run of the node returned. -/
theorem Executes.returned
    (h : Executes adapters worker nodeId state w attempts (.ok result) w') :
    ∃ w₀ c, adapters.system.Reaches
      (.launch (runNode worker nodeId state) w₀ []) c ∧ c.proc = .done result (.ok ()) := by
  obtain ⟨r, tries, same⟩ := h
  cases r with
  | error e => cases same
  | ok value =>
      cases same
      obtain ⟨w₀, c, run, final, -⟩ := tries.returned_by
      exact ⟨w₀, c, run, final⟩

/-- What every run of a node ensures, an execution of it has seen. -/
theorem Executes.ensured {Q : Unit → Assertion FlowState W AdapterOp AdapterRep Lbl}
    (h : Executes adapters worker nodeId state w attempts (.ok result) w')
    (ht : ∀ w, (runNode worker nodeId).ensures adapters.system Q state w []) :
    ∃ w₀ c, adapters.system.Reaches (.launch (runNode worker nodeId state) w₀ []) c ∧
      c.proc = .done result (.ok ()) ∧ Q () result c.world c.history := by
  obtain ⟨w₀, c, run, final⟩ := h.returned
  exact ⟨w₀, c, run, final, Task.ensures_sound (ht w₀) run final⟩

end
end KuWarden
