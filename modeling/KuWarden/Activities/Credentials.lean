import KuWarden.Activities.Nodes
import KuWarden.Adapters.Secrets
import KuWarden.Process.Calls

/-!
The credentials that serve a node's calls, and the two guards on the way to them: a node that
contains a model never holds one that merges, runs a pipeline or deploys, and a node that
contains none is never served by a model.
-/
namespace KuWarden.Credentials

open Process
open Secrets (CredentialRequest)

inductive NodeClass
  | deterministic | advisory | generative | verifier
  deriving DecidableEq, Repr

def NodeClass.value : NodeClass → String
  | .deterministic => "deterministic"
  | .advisory => "advisory"
  | .generative => "generative"
  | .verifier => "verifier"

structure NodeSpec where
  id : String
  name : String
  nodeClass : NodeClass
  deriving DecidableEq

def NodeSpec.mayCallLlm (spec : NodeSpec) : Bool := spec.nodeClass ≠ .deterministic

def registry : String → Option NodeSpec
  | "triage" => some ⟨"triage", "Triage & Risk Router", .deterministic⟩
  | "planner" => some ⟨"planner", "Planner", .generative⟩
  | "coder" => some ⟨"coder", "Coder", .generative⟩
  | "push" => some ⟨"push", "Push", .deterministic⟩
  | "build_test" => some ⟨"build_test", "Build & Test", .deterministic⟩
  | "verifier.correctness" =>
      some ⟨"verifier.correctness", "Verifier — correctness", .verifier⟩
  | "verifier.security" => some ⟨"verifier.security", "Verifier — security", .verifier⟩
  | "verifier.test_evidence" =>
      some ⟨"verifier.test_evidence", "Verifier — test evidence", .verifier⟩
  | "verifier.regression_risk" =>
      some ⟨"verifier.regression_risk", "Verifier — regression risk", .verifier⟩
  | "release" => some ⟨"release", "Release", .deterministic⟩
  | "compensate" => some ⟨"compensate", "Abort / Rollback / Cleanup", .deterministic⟩
  | "reporter" => some ⟨"reporter", "Reporter", .deterministic⟩
  | _ => none

/-! ## The guards -/

def privilegedKinds : List Secrets.CredentialKind := [.scmMerge, .ciTrigger, .deploy]

def violation (message : String) : PyError := ⟨.invariantViolation, message, none⟩

/-- `assert_may_hold`, while the node of this spec executes. -/
def assertMayHold (current : Option NodeSpec) (kind : Secrets.CredentialKind) :
    Except PyError Unit :=
  if kind ∉ privilegedKinds then .ok ()
  else match current with
    | some spec =>
        if spec.mayCallLlm then .error (violation ("node " ++ Text.repr spec.id ++
          " is classified " ++ Text.repr spec.nodeClass.value ++ " and contains a model; " ++
          "it may not hold a " ++ Text.repr kind.value ++ " credential (invariant 2)"))
        else .ok ()
    | none => .ok ()

/-- `assert_may_call_llm`, while the node of this spec executes. -/
def assertMayCallLlm (current : Option NodeSpec) : Except PyError Unit :=
  match current with
  | none => .error (violation ("LLM call attempted outside any node. The Flow Engine " ++
      "contains no LLM (invariant 1)."))
  | some spec =>
      if spec.mayCallLlm then .ok ()
      else .error (violation ("node " ++ Text.repr spec.id ++ " is classified " ++
        Text.repr spec.nodeClass.value ++ " and may not call a model"))

/-- A branch is written with a credential of its own. Azure Repos looks at it first with one
that reads. -/
def branchKinds : ScmProvider → List Secrets.CredentialKind
  | .github => [.scmWriteBranch]
  | .azureRepos => [.scmRead, .scmWriteBranch]

/-- The credentials that an adapter can ask the broker for while it serves a call. What comes
out of a cache takes none, and Azure Repos refuses to merge before it asks for one. -/
def requests : AdapterOp → List CredentialRequest
  | .fetch _ ref | .comments _ ref | .comment _ ref _ => [⟨.ticketReadWrite, ref.realm⟩]
  | .complete _ _ => [⟨.llmApiKey, Provider.anthropic.value⟩]
  | .defaultBranch _ ref | .readTree _ ref _ => [⟨.scmRead, ref.realm⟩]
  | .pushChange scm ref _ _ _ _ _ | .deleteBranch scm ref _ =>
      (branchKinds scm).map fun kind => ⟨kind, ref.realm⟩
  | .openPullRequest _ ref _ _ _ _ => [⟨.scmPullRequest, ref.realm⟩]
  | .mergePullRequest .github ref _ _ => [⟨.scmMerge, ref.realm⟩]
  | .runsFor ref _ => [⟨.ciRead, ref.realm⟩]
  | _ => []

/-- What a call has to pass, on top of what the platform says to it. -/
def guards (current : Option NodeSpec) (op : AdapterOp) : Except PyError Unit := do
  if let .complete _ _ := op then assertMayCallLlm current
  (requests op).forM fun request => assertMayHold current request.kind

/-! ## What each node's work takes -/

def grants : String → List Secrets.CredentialKind
  | "triage" | "reporter" => [.ticketReadWrite]
  | "planner" => [.llmApiKey]
  | "coder" | "verifier.correctness" | "verifier.security" | "verifier.test_evidence"
  | "verifier.regression_risk" => [.scmRead, .llmApiKey]
  | "push" | "compensate" => [.scmRead, .scmWriteBranch]
  | "build_test" => [.scmRead, .ciRead]
  | "release" => [.scmPullRequest, .scmMerge]
  | _ => []

/-- A request is on the application's own tracker, model or repository. -/
def Own (config : AppConfig) (request : CredentialRequest) : Prop :=
  match request.kind with
  | .ticketReadWrite =>
      ∃ trigger ∈ config.triggers, ∃ id, request.realm = (trigger.ref id).realm
  | .llmApiKey => ∃ llm, config.llm = some llm ∧ request.realm = llm.provider.value
  | _ => ∃ repo, config.primary = .ok repo ∧ request.realm = repo.ref.realm

/-- A call keeps to what the node is granted, on what is the application's own. -/
def Within (config : AppConfig) (nodeId : String) (op : AdapterOp) : Prop :=
  ∀ request ∈ requests op, request.kind ∈ grants nodeId ∧ Own config request

theorem grants_privileged {nodeId : String} {kind : Secrets.CredentialKind}
    (granted : kind ∈ grants nodeId) (privileged : kind ∈ privilegedKinds) :
    nodeId = "release" ∧ kind = .scmMerge := by
  unfold grants at granted
  split at granted
  case h_13 => cases granted
  all_goals
    revert granted privileged
    cases kind <;> decide

/-! ## What a node does keeps to it -/

section Calls

variable {ops : AdapterOp → Prop} {α β : Type}

theorem only_ask {op : AdapterOp} (mem : ops op) : (Node.ask op).Only ops :=
  Task.only_bind (Task.only_call mem) fun _ => Task.only_ofExcept _

/-- What follows a check may rely on it. -/
theorem only_checked {r : Except PyError α} {f : α → Node β}
    (hf : ∀ a, r = .ok a → (f a).Only ops) : (Task.ofExcept r >>= f).Only ops := by
  intro s
  cases r with
  | ok a => exact hf a rfl s
  | error e => trivial

/-- Nothing follows what is raised. -/
theorem only_fail {kind : ErrorKind} {message : String} {f : α → Node β} :
    (Node.fail kind message >>= f).Only ops := fun _ => trivial

theorem only_ite {c : Prop} [Decidable c] {t t' : Node α} (ht : t.Only ops) (ht' : t'.Only ops) :
    (if c then t else t').Only ops := by
  split
  · exact ht
  · exact ht'

theorem only_handle {t : Node α} {handler : PyError → Node α} (ht : t.Only ops)
    (hh : ∀ e, (handler e).Only ops) : (Task.handle t handler).Only ops := by
  intro s
  refine Proc.only_bind (ht s) fun r s' => ?_
  cases r with
  | ok a => trivial
  | error e => exact hh e s'

end Calls

section Nodes

variable {α : Type} {config : AppConfig} {ctx : NodeContext} {nodeId : String}

/-- What takes no credential is anyone's to do. -/
theorem within_free {op : AdapterOp} (free : requests op = []) : Within config nodeId op := by
  intro request mem
  rw [free] at mem
  cases mem

theorem own_repo {repo : RepoConfig} {kind : Secrets.CredentialKind}
    (primary : config.primary = .ok repo) (tracker : kind ≠ .ticketReadWrite)
    (model : kind ≠ .llmApiKey) : Own config ⟨kind, repo.ref.realm⟩ := by
  unfold Own
  dsimp only
  split
  next => exact absurd rfl tracker
  next => exact absurd rfl model
  next => exact ⟨repo, primary, rfl⟩

/-- A call on the repository, and the kinds of credentials it takes. -/
theorem within_repo {op : AdapterOp} {repo : RepoConfig} (kinds : List Secrets.CredentialKind)
    (primary : config.primary = .ok repo)
    (all : requests op = kinds.map fun kind => ⟨kind, repo.ref.realm⟩)
    (each : ∀ kind ∈ kinds, kind ∈ grants nodeId ∧ kind ≠ .ticketReadWrite ∧
      kind ≠ .llmApiKey) : Within config nodeId op := by
  intro request mem
  rw [all] at mem
  obtain ⟨kind, listed, rfl⟩ := List.mem_map.mp mem
  obtain ⟨granted, tracker, model⟩ := each kind listed
  exact ⟨granted, own_repo primary tracker model⟩

/-- A call on the tracker. -/
theorem within_tracker {op : AdapterOp} {trigger : TriggerConfig} {id : String}
    (mem : trigger ∈ config.triggers)
    (one : requests op = [⟨.ticketReadWrite, (trigger.ref id).realm⟩])
    (granted : .ticketReadWrite ∈ grants nodeId) : Within config nodeId op := by
  intro request mem'
  rw [one] at mem'
  rw [List.mem_singleton.mp mem']
  exact ⟨granted, trigger, mem, id, rfl⟩

/-- The one backend there is, once it was looked up. -/
theorem within_model {llm : LLMConfig} {caller : String} {request : LLMRequest}
    (declared : config.llm = some llm) (found : Node.llmAdapter llm caller = .ok ())
    (granted : .llmApiKey ∈ grants nodeId) :
    Within config nodeId (.complete caller request) := by
  have anthropic : llm.provider = .anthropic := by
    revert found
    unfold Node.llmAdapter
    cases llm.forNode caller with
    | error e => intro found; cases found
    | ok settings =>
        cases provider : llm.provider with
        | anthropic => intro; rfl
        | _ => intro found; cases found
  intro request mem
  cases List.mem_singleton.mp mem
  exact ⟨granted, llm, declared, by rw [anthropic]⟩

theorem within_withWorkspace {files : List (String × Bytes)} {body : WorkspaceRef → Node α}
    (hbody : ∀ workspace, (body workspace).Only (Within config nodeId)) :
    (Node.withWorkspace files body).Only (Within config nodeId) :=
  Task.only_bind (only_ask (within_free rfl)) fun workspace =>
    Task.only_bind (Task.only_attempt (hbody workspace)) fun _ =>
    Task.only_bind (only_ask (within_free rfl)) fun _ => Task.only_ofExcept _

theorem select_mem {triggers : List TriggerConfig} {fallback : TriggerConfig} {system : String}
    (mem : fallback ∈ triggers) : (Triage.select triggers fallback system).1 ∈ triggers := by
  unfold Triage.select
  split
  next trigger found => exact List.mem_of_find?_eq_some found
  next => exact mem

theorem acknowledge_within {provider : TicketProvider} {trigger : TriggerConfig}
    (mem : trigger ∈ config.triggers) (granted : .ticketReadWrite ∈ grants nodeId) :
    (Triage.acknowledge ctx provider trigger).Only (Within config nodeId) := by
  refine Task.only_bind Task.only_read fun state => only_handle ?_ fun _ => Task.only_pure _
  exact Task.only_bind (only_ask (within_tracker mem rfl granted)) fun bodies =>
    only_ite (Task.only_pure _) (only_ask (within_tracker mem rfl granted))

theorem triage_within : (Triage.triage ctx).Only (Within ctx.config "triage") := by
  have granted : .ticketReadWrite ∈ grants "triage" := by decide
  refine Task.only_bind Task.only_read fun before =>
    Task.only_bind (Task.only_ofExcept _) fun _ => ?_
  split
  next fallback rest declared =>
    have mem : (Triage.select ctx.config.triggers fallback before.ticket.system).1 ∈
        ctx.config.triggers := select_mem (declared ▸ List.mem_cons_self)
    refine Task.only_bind (Task.only_ofExcept _) fun provider =>
      Task.only_bind (only_ask (within_tracker mem rfl granted)) fun ticket =>
      Task.only_bind (Task.only_update _) fun _ =>
      Task.only_bind (Task.only_ofExcept _) fun _ =>
      Task.only_bind (Task.only_update _) fun _ =>
      Task.only_bind (Task.only_update _) fun _ => acknowledge_within mem granted
  next => exact Task.only_raise _

theorem reporter_within : (Reporter.reporter ctx).Only (Within ctx.config "reporter") := by
  refine Task.only_bind Task.only_read fun state => ?_
  split
  next => exact Task.only_update _
  next first rest declared =>
    have mem : (ctx.config.triggers.find? fun t => t.provider = state.ticket.system).getD first ∈
        ctx.config.triggers := by
      cases found : ctx.config.triggers.find? fun t => t.provider = state.ticket.system with
      | none => exact declared ▸ List.mem_cons_self
      | some trigger => exact List.mem_of_find?_eq_some found
    exact Task.only_bind (Task.only_ofExcept _) fun _ =>
      Task.only_bind (only_ask (within_tracker mem rfl (by decide))) fun _ => Task.only_update _

theorem planner_within : (Planner.planner ctx).Only (Within ctx.config "planner") := by
  unfold Planner.planner
  dsimp only
  split
  next llm declared =>
    refine only_checked fun settings _ => only_checked fun _ found =>
      Task.only_bind Task.only_read fun before =>
      Task.only_bind (only_ask (within_model declared found (by decide))) fun completion =>
      Task.only_bind (Task.only_ofExcept _) fun _ =>
      Task.only_bind (Task.only_update _) fun _ => Task.only_update _
  next => exact Task.only_raise _

theorem select_within {llm : LLMConfig} {files : List (String × Bytes)}
    (declared : ctx.config.llm = some llm) (found : Node.llmAdapter llm "coder" = .ok ()) :
    (Coder.select ctx files).Only (Within ctx.config "coder") := by
  refine Task.only_bind Task.only_read fun state =>
    Task.only_bind (only_ask (within_model declared found (by decide))) fun completion =>
    Task.only_bind (Task.only_ofExcept _) fun wanted => ?_
  exact only_ite (Task.only_pure _) (Task.only_pure _)

theorem attempts_within {llm : LLMConfig} {settings : NodeModel}
    {files : List (String × Bytes)} {selected : List String} {workspace : WorkspaceRef}
    (declared : ctx.config.llm = some llm) (found : Node.llmAdapter llm "coder" = .ok ())
    (left : List Nat) (log : Coder.Log) :
    (Coder.attempts ctx settings files selected workspace left log).Only
      (Within ctx.config "coder") := by
  induction left generalizing log with
  | nil => exact Task.only_pure _
  | cons attempt rest ih =>
      refine Task.only_bind (Task.only_update _) fun _ =>
        Task.only_bind Task.only_read fun state =>
        Task.only_bind (only_ask (within_model declared found (by decide))) fun completion =>
        Task.only_bind (Task.only_update _) fun _ =>
        Task.only_bind (only_ask (within_free rfl)) fun proposed =>
        Task.only_bind (only_ask (within_free rfl)) fun result => ?_
      exact only_ite (Task.only_pure _) (ih _)

theorem pinBase_within {scm : ScmProvider} {repo : RepoConfig}
    (primary : config.primary = .ok repo) :
    (Coder.pinBase scm repo.ref).Only (Within config "coder") := by
  have asked : (Node.ask (.defaultBranch scm repo.ref)).Only (Within config "coder") :=
    only_ask (within_repo [.scmRead] primary rfl (by decide))
  refine Task.only_bind Task.only_read fun state => ?_
  cases nonEmpty state.baseBranch with
  | none => exact asked
  | some name =>
      cases nonEmpty state.baseCommit with
      | none => exact asked
      | some commit => exact Task.only_pure _

theorem coder_within : (Coder.coder ctx).Only (Within ctx.config "coder") := by
  unfold Coder.coder
  dsimp only
  split
  next llm declared =>
    refine only_ite only_fail (only_checked fun settings _ => only_checked fun repo primary =>
      only_checked fun scm _ => Task.only_bind (pinBase_within primary) fun base =>
      Task.only_bind (Task.only_update _) fun _ =>
      Task.only_bind (only_ask (within_repo [.scmRead] primary rfl (by decide)))
        fun tree => Task.only_bind (Task.only_update _) fun _ => only_checked fun _ found =>
      Task.only_bind (select_within declared found) fun chosen =>
      Task.only_bind (within_withWorkspace fun workspace => ?_) fun worked =>
      Task.only_bind (Task.only_update _) fun _ => Task.only_update _)
    exact Task.only_bind (attempts_within declared found _ _) fun log =>
      Task.only_bind (only_ask (within_free rfl)) fun changed => Task.only_pure _
  next => exact Task.only_raise _

theorem within_branch {op : AdapterOp} {repo : RepoConfig} (scm : ScmProvider)
    (primary : config.primary = .ok repo)
    (all : requests op = (branchKinds scm).map fun kind => ⟨kind, repo.ref.realm⟩)
    (reads : .scmRead ∈ grants nodeId) (writes : .scmWriteBranch ∈ grants nodeId) :
    Within config nodeId op := by
  refine within_repo _ primary all fun kind mem => ?_
  have either : kind = .scmRead ∨ kind = .scmWriteBranch := by
    cases scm with
    | github => exact .inr (List.mem_singleton.mp mem)
    | azureRepos => simpa [branchKinds] using mem
  rcases either with rfl | rfl
  · exact ⟨reads, by decide, by decide⟩
  · exact ⟨writes, by decide, by decide⟩

theorem push_within : (Push.push ctx).Only (Within ctx.config "push") :=
  Task.only_bind Task.only_read fun state => Task.only_bind (Task.only_ofExcept _)
    fun checked => only_checked fun repo primary => Task.only_bind (Task.only_ofExcept _)
    fun scm => Task.only_bind (only_ask (within_branch scm primary rfl (by decide) (by decide)))
    fun pushed => Task.only_update _

theorem awaitFrom_within {repo : RepoConfig} {commit : String} {settings : CiConfig}
    (primary : config.primary = .ok repo) (elapsed : Int) :
    (Ci.awaitFrom repo.ref commit settings elapsed).Only (Within config "build_test") := by
  rw [Ci.awaitFrom_eq]
  refine Task.only_bind (only_ask (within_repo [.ciRead] primary rfl (by decide)))
    fun answer => ?_
  cases concluded : Ci.conclude settings commit elapsed answer with
  | some outcome => exact Task.only_pure _
  | none =>
      have early := Ci.elapsed_of_undecided concluded
      have positive := settings.poll_pos
      exact Task.only_bind (only_ask (within_free rfl)) fun _ =>
        awaitFrom_within primary (elapsed + settings.pollS)
termination_by (settings.waitS - elapsed).toNat
decreasing_by omega

theorem anchor_to_ci_within :
    (BuildTest.anchorToCi ctx).Only (Within ctx.config "build_test") := by
  unfold BuildTest.anchorToCi
  split
  next ci declared =>
    refine Task.only_bind Task.only_read fun state => ?_
    split
    next => exact Task.only_update _
    next head pushed =>
      refine Task.only_bind (Task.only_ofExcept _) fun _ => only_checked fun repo primary =>
        Task.only_bind (awaitFrom_within primary 0) fun outcome =>
        Task.only_bind (Task.only_update _) fun _ => ?_
      split
      next => exact Task.only_pure _
      next => exact Task.only_update _
  next => exact Task.only_pure _

theorem build_test_within : (BuildTest.buildTest ctx).Only (Within ctx.config "build_test") := by
  refine Task.only_bind Task.only_read fun state => Task.only_bind (Task.only_ofExcept _)
    fun _ => ?_
  split
  next => exact Task.only_update _
  next =>
    dsimp only
    split
    next commit _ =>
      refine only_checked fun repo primary => Task.only_bind (Task.only_ofExcept _) fun scm =>
        Task.only_bind (only_ask (within_repo [.scmRead] primary rfl (by decide))) fun tree =>
        Task.only_bind (within_withWorkspace fun workspace => only_ask (within_free rfl))
          fun result => Task.only_bind (Task.only_update _) fun _ => ?_
      split
      · exact Task.only_bind anchor_to_ci_within fun _ => Task.only_update _
      · exact Task.only_update _
    next => exact Task.only_raise _

theorem neighbourhood_within (reads : .scmRead ∈ grants nodeId) :
    (Verifiers.neighbourhood ctx).Only (Within ctx.config nodeId) := by
  refine Task.only_bind Task.only_read fun state => ?_
  split
  · refine Task.only_bind (Task.only_attempt (only_checked fun repo primary =>
      Task.only_bind (Task.only_ofExcept _) fun scm => only_ask ?_)) fun outcome => ?_
    · exact within_repo [.scmRead] primary rfl (by simpa using reads)
    · split <;> exact Task.only_pure _
  · exact Task.only_pure _

theorem judge_within {verifierId extra : String} (reads : .scmRead ∈ grants nodeId)
    (model : .llmApiKey ∈ grants nodeId) :
    (Verifiers.judge ctx verifierId extra).Only (Within ctx.config nodeId) := by
  unfold Verifiers.judge
  dsimp only
  split
  next llm declared =>
    refine only_checked fun settings _ => only_checked fun _ found =>
      Task.only_bind (neighbourhood_within reads) fun shown =>
      Task.only_bind Task.only_read fun state =>
      Task.only_bind (Task.only_attempt (only_ask (within_model declared found model)))
        fun reply => ?_
    cases reply with
    | error exc => exact only_ite (Task.only_raise _) (Task.only_raise _)
    | ok completion => exact Task.only_bind (Task.only_update _) fun _ => Task.only_pure _
  next => exact Task.only_raise _

theorem asking_within {verifierId : String} (reads : .scmRead ∈ grants nodeId)
    (model : .llmApiKey ∈ grants nodeId) :
    (Verifiers.asking verifierId ctx).Only (Within ctx.config nodeId) :=
  Task.only_bind (judge_within reads model) fun _ => Task.only_update _

theorem test_evidence_within (reads : .scmRead ∈ grants nodeId)
    (model : .llmApiKey ∈ grants nodeId) :
    (Verifiers.testEvidence ctx).Only (Within ctx.config nodeId) := by
  have tree : (Verifiers.baseTree ctx).Only (Within ctx.config nodeId) := by
    refine Task.only_bind Task.only_read fun state => ?_
    split
    · exact only_checked fun repo primary => Task.only_bind (Task.only_ofExcept _) fun scm =>
        Task.only_bind (only_ask (within_repo [.scmRead] primary rfl (by simpa using reads)))
          fun tree => Task.only_pure _
    · exact Task.only_pure _
  exact Task.only_bind tree fun before => Task.only_bind Task.only_read fun state =>
    Task.only_bind (judge_within reads model) fun judged => Task.only_update _

theorem release_within : (Release.release ctx).Only (Within ctx.config "release") := by
  unfold Release.release
  refine Task.only_bind Task.only_read fun state => ?_
  split
  next branch head base _ =>
    refine only_checked fun repo primary => Task.only_bind (Task.only_ofExcept _) fun scm =>
      Task.only_bind (only_ask (within_repo [.scmPullRequest] primary rfl (by decide)))
        fun pull => Task.only_bind (Task.only_update _) fun _ => only_ite ?_ (Task.only_update _)
    have merges : Within ctx.config "release" (.mergePullRequest scm repo.ref pull.id head) := by
      cases scm with
      | github => exact within_repo [.scmMerge] primary rfl (by decide)
      | azureRepos => exact within_free rfl
    exact Task.only_bind (only_ask merges) fun commit => Task.only_update _
  next => exact Task.only_raise _

theorem compensate_within :
    (Compensate.compensate ctx).Only (Within ctx.config "compensate") := by
  refine Task.only_bind Task.only_read fun state => ?_
  split
  next => exact Task.only_update _
  next branch head _ =>
    refine only_ite (Task.only_update _) (only_checked fun repo primary =>
      Task.only_bind (Task.only_attempt (Task.only_bind (Task.only_ofExcept _) fun scm =>
        only_ask (within_branch scm primary rfl (by decide) (by decide))))
        fun outcome => ?_)
    split <;> exact Task.only_update _

/-- Every node keeps to what it is granted. -/
theorem node_within {fn : NodeContext → Node Unit} (known : nodes nodeId = some fn) :
    (fn ctx).Only (Within ctx.config nodeId) := by
  unfold nodes at known
  split at known
  case h_13 => cases known
  all_goals cases known
  · exact triage_within
  · exact planner_within
  · exact coder_within
  · exact push_within
  · exact build_test_within
  · exact asking_within (by decide) (by decide)
  · exact asking_within (by decide) (by decide)
  · exact test_evidence_within (by decide) (by decide)
  · exact asking_within (by decide) (by decide)
  · exact release_within
  · exact compensate_within
  · exact reporter_within

end Nodes

/-! ## What every attempt keeps to -/

theorem spec_of_model {nodeId : String} (granted : .llmApiKey ∈ grants nodeId) :
    ∃ spec, registry nodeId = some spec ∧ spec.mayCallLlm = true := by
  unfold grants at granted
  split at granted
  case h_13 => cases granted
  all_goals first
    | exact ⟨_, rfl, rfl⟩
    | exact absurd granted (by decide)

theorem may_hold {nodeId : String} {kind : Secrets.CredentialKind}
    (granted : kind ∈ grants nodeId) : assertMayHold (registry nodeId) kind = .ok () := by
  unfold assertMayHold
  by_cases privileged : kind ∈ privilegedKinds
  · obtain ⟨rfl, rfl⟩ := grants_privileged granted privileged
    rfl
  · exact if_pos privileged

theorem forM_ok {α : Type} {f : α → Except PyError Unit} {items : List α}
    (each : ∀ item ∈ items, f item = .ok ()) : items.forM f = .ok () := by
  induction items with
  | nil => rfl
  | cons item rest ih =>
      show (f item >>= fun _ => rest.forM f) = .ok ()
      rw [each item List.mem_cons_self]
      exact ih fun other mem => each other (List.mem_cons_of_mem item mem)

/-- The guards turn nothing away that a node is granted. -/
theorem guards_ok {config : AppConfig} {nodeId : String} {op : AdapterOp}
    (within : Within config nodeId op) : guards (registry nodeId) op = .ok () := by
  have holds : (requests op).forM (fun request => assertMayHold (registry nodeId) request.kind) =
      .ok () := forM_ok fun request mem => may_hold (within request mem).1
  unfold guards
  split
  next caller request =>
    obtain ⟨spec, registered, model⟩ :=
      spec_of_model (within _ List.mem_cons_self).1
    have served : assertMayCallLlm (registry nodeId) = .ok () := by
      rw [registered]
      exact if_pos model
    rw [served]
    exact holds
  next => exact holds

/-- What a past must hold for an attempt at a node to make this call. -/
def Sanctioned {Lbl : Type} (nodeId : String) (h : History AdapterOp AdapterRep Lbl)
    (op : AdapterOp) : Prop :=
  requests op = [] ∨
    ∃ config, .reply .resolveConfig (.ok config) ∈ h ∧ Within config nodeId op

section
variable {W Lbl : Type} {adapters : Adapters W Lbl} {worker : Worker} {nodeId : String}

/-- Whatever is answered, the calls that follow the configuration keep to it. -/
theorem keeps_sanctioned {t : Node Unit} {config : AppConfig}
    (only : t.Only (Within config nodeId)) : t.Keeps adapters.system fun _ _ h =>
      CallsMeet (Sanctioned nodeId) h ∧ .reply .resolveConfig (.ok config) ∈ h := by
  have grown : ∀ {h : History AdapterOp AdapterRep Lbl} {l}, (∀ op, l ≠ .call op) →
      CallsMeet (Sanctioned nodeId) h ∧ .reply .resolveConfig (.ok config) ∈ h →
      CallsMeet (Sanctioned nodeId) (h ++ [l]) ∧
        .reply .resolveConfig (.ok config) ∈ h ++ [l] :=
    fun other held => ⟨(callsMeet_append_other other).mpr held.1, List.mem_append_left _ held.2⟩
  refine only.keeps ?_ (fun held _ => grown (by simp) held)
    (fun _ held _ => grown (by simp) held)
  intro w h op within held
  exact ⟨callsMeet_append_call.mpr ⟨held.1, .inr ⟨config, held.2, within⟩⟩,
    List.mem_append_left _ held.2⟩

theorem run_node_sanctioned (s : FlowState) (w : W) :
    (runNode worker nodeId).wp adapters.system (fun _ _ h => CallsMeet (Sanctioned nodeId) h)
      (fun _ _ _ h => CallsMeet (Sanctioned nodeId) h) s w [] := by
  unfold runNode
  split
  next => exact callsMeet_nil _
  next fn known =>
    have resolves : (Node.ask .resolveConfig).Keeps adapters.system
        fun _ _ h => CallsMeet (Sanctioned nodeId) h :=
      Node.keeps_ask_callsMeet fun _ => .inl rfl
    refine Task.wp_bind.mpr (Task.wp_mono (resolves.wp_with (callsMeet_nil _)
      (Node.ensures_ask (Q := fun config _ _ h' => .reply .resolveConfig (.ok config) ∈ h')
        fun config _ _ => by simp)) ?_)
    intro reply s₁ w₁ h₁ held
    cases reply with
    | error e => exact held.1
    | ok config =>
        exact Proc.wp_mono _ _ _ (keeps_sanctioned (node_within known) s₁ w₁ h₁
          ⟨held.1, held.2 config rfl⟩) (fun _ _ _ held => held.1) fun _ _ _ _ held => held.1

/-- Every credential that any attempt at a node asks for is one that the node is granted, on
what is the application's own, and the guards let it pass. -/
theorem attempt_within {state : FlowState} {w : W}
    {d : Config FlowState W AdapterOp AdapterRep Lbl (Except PyError Unit)}
    (attempt : adapters.system.Reaches (.launch (runNode worker nodeId state) w []) d)
    {op : AdapterOp} (made : .call op ∈ d.history) {request : CredentialRequest}
    (asked : request ∈ requests op) :
    ∃ config, .reply .resolveConfig (.ok config) ∈ d.history ∧ Within config nodeId op := by
  have met : CallsMeet (Sanctioned nodeId) d.history :=
    wp_invariant (run_node_sanctioned state w) attempt
  obtain ⟨before, after, split⟩ := List.append_of_mem made
  rcases met before op after split with none | ⟨config, resolved, within⟩
  · rw [none] at asked
    cases asked
  · refine ⟨config, ?_, within⟩
    rw [split]
    exact List.mem_append_left _ resolved

end

end KuWarden.Credentials
