import KuWarden.Process.Triples
import KuWarden.Config
import KuWarden.Policy.Pricing
import KuWarden.Policy.TestEvidence

/-!
The node contract, and what a node asks of the outside world.

A node mutates the state it was handed and returns it. Everything it learns from
elsewhere is the reply of an adapter call; a call that fails replies with the
exception it raises.
-/
namespace KuWarden

/-- One pipeline execution. `passed` is `none` while it has not finished. -/
structure CiRun where
  id : String
  name : String
  workflow : String
  url : String
  headSha : String
  passed : Option Bool
  rawConclusion : String
  deriving DecidableEq

/-- Which of the engine's own instructions a model is given. -/
inductive Instructions
  | planner | coderSelect | coderEdit
  | verifier (angle : String)
  deriving DecidableEq

structure LLMRequest where
  system : Instructions
  prompt : String
  cacheablePrefix : Option String := none
  maxTokens : Int := 8192
  effort : String := "high"
  deriving DecidableEq

structure Completion where
  parsed : Option Dict
  usage : Usage
  model : String

structure ResourceLimits where
  memoryMb : Int
  cpus : PyFloat
  pids : Int
  timeoutS : Int
  tmpMb : Int
  deriving DecidableEq

def SandboxConfig.limits (settings : SandboxConfig) : ResourceLimits where
  memoryMb := settings.memoryMb
  cpus := settings.cpus
  pids := settings.pids
  timeoutS := settings.timeoutS
  tmpMb := settings.tmpMb

/-- What the host enforces, as probed. -/
structure SandboxCapabilities where
  cgroupMemory : Bool
  cgroupCpu : Bool
  cgroupPids : Bool
  deriving DecidableEq

namespace SandboxCapabilities

def fullyEnforced (c : SandboxCapabilities) : Bool :=
  c.cgroupMemory && c.cgroupCpu && c.cgroupPids

def gaps (c : SandboxCapabilities) : List String :=
  (if c.cgroupMemory then [] else
    ["container-total memory (cgroups unavailable; per-process rlimit only, so N " ++
      "processes at the limit can still exhaust the host)"]) ++
  (if c.cgroupCpu then [] else ["CPU quota (cgroups unavailable)"]) ++
  (if c.cgroupPids then [] else ["process-count cap (cgroups unavailable)"])

end SandboxCapabilities

structure ExecResult where
  exitCode : Int
  stdout : String
  stderr : String
  durationMs : Int
  limitsHit : List String := []
  enforced : Option SandboxCapabilities := none
  deriving DecidableEq

def ExecResult.succeeded (r : ExecResult) : Bool := r.exitCode = 0 && r.limitsHit.isEmpty

/-- A workspace directory on the host, by its root. -/
structure WorkspaceRef where
  root : String
  deriving DecidableEq

inductive ScmProvider
  | github | azureRepos
  deriving DecidableEq, Repr

inductive TicketProvider
  | jira | azureDevops
  deriving DecidableEq, Repr

inductive AdapterOp
  | resolveConfig
  | fetch (provider : TicketProvider) (ref : TicketRef)
  | comments (provider : TicketProvider) (ref : TicketRef)
  | comment (provider : TicketProvider) (ref : TicketRef) (body : String)
  | complete (nodeId : String) (request : LLMRequest)
  | defaultBranch (scm : ScmProvider) (ref : RepoRef)
  | readTree (scm : ScmProvider) (ref : RepoRef) (commit : String)
  | pushChange (scm : ScmProvider) (ref : RepoRef) (base : BranchRef) (branch message : String)
      (edits : List FileEdit) (parent : Option String)
  | openPullRequest (scm : ScmProvider) (ref : RepoRef)
      (source target title description : String)
  | mergePullRequest (scm : ScmProvider) (ref : RepoRef) (number commit : String)
  | deleteBranch (scm : ScmProvider) (ref : RepoRef) (branch : String)
  | runsFor (ref : RepoRef) (commit : String)
  | sleep (seconds : Int)
  | materialise (files : List (String × Bytes))
  | applyEdits (workspace : WorkspaceRef) (parsed : Dict)
  | exec (workspace : WorkspaceRef) (image : String) (command : List String)
      (limits : ResourceLimits)
  | readChanges (workspace : WorkspaceRef)
  | destroy (workspace : WorkspaceRef)

/-- What a call returns when it does not raise. -/
def AdapterValue : AdapterOp → Type
  | .resolveConfig => AppConfig
  | .fetch _ _ => Ticket
  | .comments _ _ => List String
  | .comment _ _ _ => Unit
  | .complete _ _ => Completion
  | .defaultBranch _ _ => BranchRef
  | .readTree _ _ _ => RepoTree
  | .pushChange _ _ _ _ _ _ _ => BranchRef
  | .openPullRequest _ _ _ _ _ _ => PullRequest
  | .mergePullRequest _ _ _ _ => String
  | .deleteBranch _ _ _ => Bool
  | .runsFor _ _ => List CiRun
  | .sleep _ => Unit
  | .materialise _ => WorkspaceRef
  | .applyEdits _ _ => List String
  | .exec _ _ _ _ => ExecResult
  | .readChanges _ => List (String × Option String)
  | .destroy _ => Unit

@[reducible]
def AdapterRep (op : AdapterOp) : Type := Except PyError (AdapterValue op)

abbrev Node (α : Type) := Process.Task FlowState AdapterOp AdapterRep PyError α

/-- How the adapters behave: any relation between what is asked, what is answered and
what becomes of the world they act on. The state of a node is its own. -/
structure Adapters (W Lbl : Type) where
  serve : W → (op : AdapterOp) → AdapterRep op → W → Prop
  env : W → Lbl → W → Prop

def Adapters.system {W Lbl : Type} (adapters : Adapters W Lbl) :
    Process.System FlowState W AdapterOp AdapterRep Lbl where
  serve s w op r s' w' := s' = s ∧ adapters.serve w op r w'
  env s w l s' w' := s' = s ∧ adapters.env w l w'

/-- How much of a repository a prompt carries. -/
structure Assembly where
  listed : Nat := 0
  shown : Nat := 0
  withheld : Nat := 0
  omitted : Nat := 0
  bytesUsed : Nat := 0

/-- How the nodes read a repository into a prompt, and count over a diff. Nothing below
depends on what these functions answer. -/
structure Reading where
  closure : List (String × Bytes) → List String → List String
  dependents : List (String × Bytes) → List String → List String
  render : List (String × Bytes) → List String → String × Assembly
  evaluate : List (String × Bytes) → List ProposedEdit → TestEvidence

/-- What a node needs that is not on the state. `sandbox` says whether one is bound,
`base_url` is where the Workbench is reached. -/
structure NodeContext where
  config : AppConfig
  reading : Reading
  baseUrl : String
  sandbox : Bool

namespace Node

open Process

/-- Make a call, and raise what it raises. -/
def ask (op : AdapterOp) : Node (AdapterValue op) := do
  let reply ← Task.call op
  Task.ofExcept reply

theorem wp_ask {W Lbl : Type} {S : System FlowState W AdapterOp AdapterRep Lbl}
    {I : Assertion FlowState W AdapterOp AdapterRep Lbl} {op : AdapterOp}
    {Q : AdapterRep op → Assertion FlowState W AdapterOp AdapterRep Lbl}
    {s : FlowState} {w : W} {h : History AdapterOp AdapterRep Lbl} :
    (ask op).wp S I Q s w h ↔
      ∀ s' w' h', S.Drift s w (h ++ [.call op]) s' w' h' →
        I s' w' h' ∧ ∀ r s'' w'', S.serve s' w' op r s'' w'' →
          Q r s'' w'' (h' ++ [.reply op r]) := by
  simp only [ask, Task.wp_bind, Task.wp_call, Task.andThen_ok, Task.wp_ofExcept]

/-- A call that is answered carries a run on to what follows it. -/
theorem reaches_ask {W Lbl α : Type} {S : System FlowState W AdapterOp AdapterRep Lbl}
    (op : AdapterOp) (v : AdapterValue op) {f : AdapterValue op → Node α}
    {s s' : FlowState} {w w' : W} {h : History AdapterOp AdapterRep Lbl}
    (served : S.serve s w op (.ok v) s' w') :
    S.Reaches (.launch ((ask op >>= f) s) w h)
      (.launch (f v s') w' (h ++ [.call op] ++ [.reply op (.ok v)])) :=
  .single (.reply op _ _ _ served)

section
variable {W Lbl α β γ : Type} {adapters : Adapters W Lbl}

theorem drift_state {s s' : FlowState} {w w' : W} {h h' : History AdapterOp AdapterRep Lbl}
    (drift : adapters.system.Drift s w h s' w' h') : s' = s := by
  induction drift with
  | refl => rfl
  | step _ last ih => exact last.1.trans ih

/-- The answer to a call is on record, and the node's state is as it was. -/
theorem ensures_ask {op : AdapterOp}
    {Q : AdapterValue op → Assertion FlowState W AdapterOp AdapterRep Lbl} {s : FlowState}
    {w : W} {h : History AdapterOp AdapterRep Lbl}
    (held : ∀ v w' (moves : List Lbl),
      Q v s w' (h ++ .call op :: moves.map .env ++ [.reply op (.ok v)])) :
    (ask op).ensures adapters.system Q s w h := by
  refine wp_ask.mpr ?_
  intro s' w' h' drift
  refine ⟨trivial, ?_⟩
  rintro r s'' w'' ⟨rfl, -⟩ v rfl
  cases drift_state drift
  obtain ⟨moves, rfl⟩ := drift.extends
  simpa using held v w'' moves

variable (adapters) in
/-- Whatever a node does, `π` of its state stays as it is. -/
def Leaves (π : FlowState → γ) (t : Node α) : Prop :=
  ∀ x, t.Keeps adapters.system fun s _ _ => π s = x

variable {π : FlowState → γ} {t : Node α} {f : α → Node β}

theorem leaves_ask {op : AdapterOp} : Leaves adapters π (ask op) := by
  intro x s w h same
  refine wp_ask.mpr ?_
  intro s' w' h' drift
  cases drift_state drift
  refine ⟨same, ?_⟩
  rintro r s'' w'' ⟨rfl, -⟩
  exact same

theorem leaves_pure {a : α} : Leaves adapters π (pure a : Node α) :=
  fun _ => Task.keeps_pure a

theorem leaves_raise {e : PyError} : Leaves adapters π (Task.raise e : Node α) :=
  fun _ => Task.keeps_raise e

theorem leaves_ofExcept {r : Except PyError α} : Leaves adapters π (Task.ofExcept r) :=
  fun _ => Task.keeps_ofExcept r

theorem leaves_read : Leaves adapters π Task.read := fun _ => Task.keeps_read

theorem leaves_update {g : FlowState → FlowState} (same : ∀ s, π (g s) = π s) :
    Leaves adapters π (Task.update g) :=
  fun _ => Task.keeps_update fun s _ _ held => (same s).trans held

theorem leaves_bind (ht : Leaves adapters π t) (hf : ∀ a, Leaves adapters π (f a)) :
    Leaves adapters π (t >>= f) :=
  fun x => Task.keeps_bind (ht x) fun a => hf a x

theorem leaves_attempt (ht : Leaves adapters π t) : Leaves adapters π t.attempt :=
  fun x => Task.keeps_attempt (ht x)

theorem Leaves.ensures (ht : Leaves adapters π t) (s : FlowState) (w : W)
    (h : History AdapterOp AdapterRep Lbl) :
    t.ensures adapters.system (fun _ s' _ _ => π s' = π s) s w h :=
  Proc.wp_mono _ _ _ (ht (π s) s w h rfl) (fun _ _ _ _ => trivial)
    fun _ _ _ _ held _ _ => held

theorem Leaves.still (ht : Leaves adapters id t) (s : FlowState) (w : W)
    (h : History AdapterOp AdapterRep Lbl) :
    t.ensures adapters.system (fun _ s' _ _ => s' = s) s w h :=
  ht.ensures s w h

theorem wp_ask_callsMeet {G : History AdapterOp AdapterRep Lbl → AdapterOp → Prop}
    {op : AdapterOp} {s : FlowState} {w : W} {h : History AdapterOp AdapterRep Lbl}
    (met : CallsMeet G h) (allowed : G h op) :
    (ask op).wp adapters.system (fun _ _ h => CallsMeet G h)
      (fun _ _ _ h => CallsMeet G h) s w h := by
  refine wp_ask.mpr ?_
  intro s' w' h' drift
  have met' : CallsMeet G h' :=
    (callsMeet_drift drift).mpr (callsMeet_append_call.mpr ⟨met, allowed⟩)
  exact ⟨met', fun _ _ _ _ => (callsMeet_append_other (by simp)).mpr met'⟩

theorem keeps_ask_callsMeet {G : History AdapterOp AdapterRep Lbl → AdapterOp → Prop}
    {op : AdapterOp} (allowed : ∀ h, G h op) :
    (ask op).Keeps adapters.system fun _ _ h => CallsMeet G h :=
  fun _ _ h met => wp_ask_callsMeet met (allowed h)

end

def fail {α : Type} (kind : ErrorKind) (message : String) : Node α :=
  Task.raise ⟨kind, message, none⟩

/-- `async with materialise(files) as workspace`: the workspace goes whatever happened
inside, and what its removal raises takes over. -/
def withWorkspace {α : Type} (files : List (String × Bytes))
    (body : WorkspaceRef → Node α) : Node α := do
  let workspace ← ask (.materialise files)
  let outcome ← Task.attempt (body workspace)
  ask (.destroy workspace)
  Task.ofExcept outcome

theorem leaves_withWorkspace {W Lbl α γ : Type} {adapters : Adapters W Lbl}
    {π : FlowState → γ} {files : List (String × Bytes)} {body : WorkspaceRef → Node α}
    (hbody : ∀ workspace, Leaves adapters π (body workspace)) :
    Leaves adapters π (withWorkspace files body) :=
  leaves_bind leaves_ask fun workspace => leaves_bind (leaves_attempt (hbody workspace))
    fun _ => leaves_bind leaves_ask fun _ => leaves_ofExcept

def scmAdapter (repo : RepoConfig) : Except PyError ScmProvider :=
  if repo.provider = "github" then .ok .github
  else if repo.provider = "azure_repos" then .ok .azureRepos
  else .error (configError ("no SCM adapter for provider " ++ Text.repr repo.provider))

def ticketAdapter (trigger : TriggerConfig) : Except PyError TicketProvider :=
  if trigger.provider = "jira" then
    if filled trigger.site && filled trigger.accountEmail then .ok .jira
    else .error (configError "jira triggers need both site and account_email")
  else if trigger.provider = "azure_devops" then
    if filled trigger.organisation then .ok .azureDevops
    else .error (configError "azure_devops triggers need an organisation")
  else .error (configError ("no ticket adapter for provider " ++ Text.repr trigger.provider))

def ciAdapter (ci : CiConfig) : Except PyError Unit :=
  if ci.provider = "github_actions" then .ok ()
  else .error (configError ("no CI adapter for provider " ++ Text.repr ci.provider))

def notYetImplemented : Provider → String
  | .azureOpenai => "Azure OpenAI"
  | .openaiCompatible => "OpenAI-compatible (vLLM / Ollama)"
  | .bedrock => "AWS Bedrock"
  | .anthropic => "None"

/-- `llm_adapter(config, node_id, …)`, which also looks the node's model up. -/
def llmAdapter (llm : LLMConfig) (nodeId : String) : Except PyError Unit := do
  let _ ← llm.forNode nodeId
  match llm.provider with
  | .anthropic => .ok ()
  | provider => .error (configError ("llm.provider " ++ Text.repr provider.value ++ " (" ++
      notYetImplemented provider ++ ") is declared but not implemented yet; anthropic is " ++
      "the implemented backend"))

end Node
end KuWarden
