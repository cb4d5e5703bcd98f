import KuWarden.Flows.System
import KuWarden.Process.Execute
import KuWarden.Process.Histories

/-!
A flow played against a script: adapters that answer by a function, and signals that
arrive in a given order at the gate. A run that is played is one the system allows.
-/
namespace KuWarden.Flow

open Process

/-- A deterministic choice among the answers that adapters may give. -/
structure Script {W Lbl : Type} (adapters : Adapters W Lbl) where
  reply : W → (op : AdapterOp) → AdapterRep op × W
  served : ∀ w op, adapters.serve w op (reply w op).1 (reply w op).2

namespace Script

variable {W Lbl : Type} {adapters : Adapters W Lbl}

def node (script : Script adapters) : Schedule adapters.system where
  move _ _ _ := none
  answer s w op := some ((script.reply w op).1, s, (script.reply w op).2)
  move_env absurd := by cases absurd
  answer_serve := by
    intro s w op r s' w' answered
    cases answered
    exact ⟨rfl, script.served w op⟩

/-- How many calls a node may make before a play gives up on it. -/
def patience : Nat := 100

abbrev NodeAttempt (Lbl : Type) := Attempt FlowState AdapterOp AdapterRep Lbl PyError Unit

/-- At most `n` attempts at a node, each played to its end. -/
def tries (script : Script adapters) (worker : Worker) (nodeId : String)
    (state : FlowState) :
    Nat → W → Option (List (NodeAttempt Lbl) × Except PyError (Unit × FlowState) × W)
  | 0, _ => none
  | n + 1, w =>
      let c := script.node.play patience (.launch (runNode worker nodeId state) w [])
      match c.proc with
      | .done s' (.ok ()) => some ([⟨c.history, some (.ok ((), s'))⟩], .ok ((), s'), c.world)
      | .done _ (.error e) =>
          if nonRetryable e ∨ n = 0 then
            some ([⟨c.history, some (.error e)⟩], .error e, c.world)
          else
            match script.tries worker nodeId state n c.world with
            | some (attempts, r, w') => some (⟨c.history, some (.error e)⟩ :: attempts, r, w')
            | none => none
      | .await _ _ _ => none

theorem tries_sound (script : Script adapters) {worker : Worker} {nodeId : String}
    {state : FlowState} {n : Nat} {w w' : W} {attempts : List (NodeAttempt Lbl)}
    {r : Except PyError (Unit × FlowState)}
    (played : script.tries worker nodeId state n w = some (attempts, r, w')) :
    Tries adapters.system (runNode worker nodeId) state nonRetryable timedOut n w attempts
      r w' := by
  induction n generalizing w attempts with
  | zero => cases played
  | succ n ih =>
      have reached := script.node.play_reaches patience
        (.launch (runNode worker nodeId state) w [])
      simp only [tries] at played
      generalize script.node.play patience
        (.launch (runNode worker nodeId state) w []) = c at reached played
      split at played
      next s' final => cases played; exact .returned reached final
      next s' e final =>
        split_ifs at played with last
        · cases played
          exact .raised reached final last
        · obtain ⟨retried, _⟩ := not_or.mp last
          split at played
          next rest r' w'' more =>
            cases played
            exact .raisedAgain reached final (Bool.eq_false_iff.mpr retried) (ih more)
          next => cases played
      next => cases played

def answer (script : Script adapters) (worker : Worker) (s : DeliveryFlow)
    (w : FlowWorld W) : (op : FlowOp) → Option (FlowRep op × DeliveryFlow × FlowWorld W)
  | .recordRunStarted run =>
      some ((), s, { w with store := w.store.recordRunStarted run })
  | .recordEvent event => some ((), s, { w with store := w.store.recordEvent event })
  | .recordRunFiles attempt files =>
      some ((), s, { w with store := w.store.recordRunFiles attempt files })
  | .recordRunStatus status =>
      some ((), s, { w with store := w.store.recordRunStatus status })
  | .recordRunEnded status =>
      some ((), s, { w with store := w.store.recordRunEnded status 0 })
  | .runNode nodeId _ state =>
      match script.tries worker nodeId state maximumAttempts w.adapters with
      | some (_, r, a) => some (r.map Prod.snd, s, { w with adapters := a })
      | none => none
  | .readPreviewUrl _ => some ("", s, w)
  | .notifyGateReached _ => some (.ok 1, s, w)
  | .waitCondition needed => if decided needed s.approvals then some ((), s, w) else none
  | .startVerifiers brief =>
      some ((), (Pool.start (branch brief) verifierIds s).1,
        { w with pool := (Pool.start (branch brief) verifierIds s).2 })
  | .gatherVerifiers =>
      match Pool.results w.pool.slots with
      | some objs => some (.ok objs, s, w)
      | none =>
          match w.pool.failure with
          | some e => some (.error e, s, w)
          | none => none

theorem answer_serves (script : Script adapters) {worker : Worker} {s s' : DeliveryFlow}
    {w w' : FlowWorld W} {op : FlowOp} {r : FlowRep op}
    (answered : script.answer worker s w op = some (r, s', w')) :
    Serves adapters worker s w op r s' w' := by
  cases op with
  | recordRunStarted | recordEvent | recordRunFiles | recordRunStatus
  | readPreviewUrl | notifyGateReached | startVerifiers =>
      cases answered
      constructor
  | recordRunEnded => cases answered; exact .recordRunEnded 0
  | runNode nodeId activityId state =>
      simp only [answer] at answered
      split at answered
      next attempts result a played =>
        cases answered
        exact .runNode ⟨result, script.tries_sound played, rfl⟩
      next => cases answered
  | waitCondition needed =>
      simp only [answer] at answered
      split_ifs at answered with enough
      cases answered
      exact .waitCondition enough
  | gatherVerifiers =>
      simp only [answer] at answered
      split at answered
      next objs joined => cases answered; exact .gatherVerifiers joined
      next =>
        split at answered
        next e failed => cases answered; exact .gatherVerifiers failed
        next => cases answered

def running : Slot DeliveryFlow FlowOp FlowRep FlowExc Obj → Bool
  | .running _ _ => true
  | .finished _ => false

/-- The verifier in this place takes its answer, if it waits. -/
def verifierMoveAt (script : Script adapters) (worker : Worker) (i : Nat) (s : DeliveryFlow)
    (w : FlowWorld W) : Option (FlowMove × DeliveryFlow × FlowWorld W) :=
  match w.pool.slots[i]? with
  | some (v, .running op k) =>
      match script.answer worker s w op with
      | some (r, s', w') =>
          let next := Slot.ofProc (k r s')
          some (.verifier v (.reply op r), next.1,
            { w' with pool := w.pool.settle i v next.2 })
      | none => none
  | _ => none

theorem verifierMoveAt_moves (script : Script adapters) {worker : Worker} {i : Nat}
    {s s' : DeliveryFlow} {w w' : FlowWorld W} {l : FlowMove}
    (moved : script.verifierMoveAt worker i s w = some (l, s', w')) :
    Moves adapters worker s w l s' w' := by
  simp only [verifierMoveAt] at moved
  split at moved
  next v op k found =>
    split at moved
    next r s₁ w₁ answered =>
      cases moved
      exact .verifier (.answer found (script.answer_serves answered))
    next => cases moved
  next => cases moved

/-- The first verifier that waits takes its answer. -/
def verifierMove (script : Script adapters) (worker : Worker) (s : DeliveryFlow)
    (w : FlowWorld W) : Option (FlowMove × DeliveryFlow × FlowWorld W) :=
  script.verifierMoveAt worker (w.pool.slots.findIdx fun entry => running entry.2) s w

theorem verifierMove_moves (script : Script adapters) {worker : Worker}
    {s s' : DeliveryFlow} {w w' : FlowWorld W} {l : FlowMove}
    (moved : script.verifierMove worker s w = some (l, s', w')) :
    Moves adapters worker s w l s' w' := script.verifierMoveAt_moves moved

/-- Signals arrive one by one at the gate, and verifiers answer when they are awaited. -/
def move (script : Script adapters) (worker : Worker) (signals : List ApprovalSignal)
    (s : DeliveryFlow) (w : FlowWorld W) :
    FlowOp → Option (FlowMove × DeliveryFlow × FlowWorld W)
  | .waitCondition needed =>
      if decided needed s.approvals then none
      else signals[s.approvals.length]?.map fun a =>
        (.signal a, { s with approvals := s.approvals ++ [a] }, w)
  | .gatherVerifiers => script.verifierMove worker s w
  | _ => none

def flow (script : Script adapters) (worker : Worker) (signals : List ApprovalSignal) :
    Schedule (system adapters worker) where
  move s w op := script.move worker signals s w op
  answer s w op := script.answer worker s w op
  move_env := by
    intro s w op l s' w' moved
    cases op with
    | waitCondition needed =>
        simp only [move] at moved
        split_ifs at moved
        obtain ⟨a, _, same⟩ := Option.map_eq_some_iff.mp moved
        cases same
        exact .signal a
    | gatherVerifiers => exact script.verifierMove_moves moved
    | _ => cases moved
  answer_serve := script.answer_serves

/-- Where a run stands after `n` steps of the script. -/
def run (script : Script adapters) (worker : Worker) (signals : List ApprovalSignal)
    (params : FlowInput) (a : W) (n : Nat) : FlowConfig W :=
  (script.flow worker signals).play n (.launch (Flow.run params {}) ⟨a, {}, .empty⟩ [])

theorem run_runs (script : Script adapters) (worker : Worker)
    (signals : List ApprovalSignal) (params : FlowInput) (a : W) (n : Nat) :
    Runs adapters worker params a (script.run worker signals params a n) :=
  Schedule.play_reaches _ _ _

end Script

/-! ## An outside world that obliges -/

def shopTicket : Ticket := { id := "SHOP-1", system := "jira", title := "Sort", body := "" }

def shopConfig : AppConfig where
  name := "shop"
  repos := [{ name := "shop", provider := "github", org := "acme", repo := "shop" }]
  triggers := [{
    provider := "jira"
    project := "SHOP"
    site := some "acme.atlassian.net"
    accountEmail := some "bot@acme.example" }]
  integrationModel := .gatedMerge
  sandbox := { toolchainImage := "python", testCommand := ["pytest"] }
  autoMerge := { enabled := true }
  llm := some {
    provider := .anthropic
    perNode := [(.str "planner", { model := "m" }), (.str "coder", { model := "m" }),
      (.str "verifiers", { model := "m" })] }
  ci := some { provider := "github_actions", poll_pos := by decide }

/-- Every call is answered, the tests pass, and the pipeline finds nothing wrong. -/
def oblige : (op : AdapterOp) → AdapterRep op
  | .resolveConfig => .ok shopConfig
  | .fetch _ _ => .ok shopTicket
  | .comments _ _ => .ok []
  | .comment _ _ _ => .ok ()
  | .complete _ _ => .ok (⟨none, {}, "m"⟩ : Completion)
  | .defaultBranch _ _ => .ok (⟨"main", "ba5e"⟩ : BranchRef)
  | .readTree _ _ commit => .ok (⟨commit, []⟩ : RepoTree)
  | .pushChange _ _ _ branch _ _ _ => .ok (⟨branch, "c0ffee"⟩ : BranchRef)
  | .openPullRequest _ _ source _ _ _ => .ok (⟨"7", "https://scm/7", source⟩ : PullRequest)
  | .mergePullRequest _ _ _ _ => .ok "3e9d"
  | .deleteBranch _ _ _ => .ok true
  | .runsFor _ commit =>
      .ok [⟨"1", "ci", "ci.yml", "https://ci/1", commit, some true, "success"⟩]
  | .sleep _ => .ok ()
  | .materialise _ => .ok (⟨"/work"⟩ : WorkspaceRef)
  | .applyEdits _ _ => .ok ["sort.py"]
  | .exec _ _ _ _ =>
      .ok ({ exitCode := 0, stdout := "", stderr := "", durationMs := 1 } : ExecResult)
  | .readChanges _ => .ok [("sort.py", some "")]
  | .destroy _ => .ok ()

def obliging : Adapters Unit Empty where
  serve _ op r _ := r = oblige op
  env _ _ _ := False

def obligingScript : Script obliging where
  reply w op := (oblige op, w)
  served _ _ := rfl

/-- Adapters that answer every call alike, whenever it is made. -/
def answering (reply : (op : AdapterOp) → AdapterRep op) : Adapters Unit Empty where
  serve _ op r _ := r = reply op
  env _ _ _ := False

def answeringScript (reply : (op : AdapterOp) → AdapterRep op) : Script (answering reply) where
  reply w op := (reply op, w)
  served _ _ := rfl

def played (reply : (op : AdapterOp) → AdapterRep op) (node : Node Unit) (s : FlowState) :
    Config FlowState Unit AdapterOp AdapterRep Empty (Except PyError Unit) :=
  (answeringScript reply).node.play Script.patience (.launch (node s) () [])

theorem played_reaches (reply : (op : AdapterOp) → AdapterRep op) (node : Node Unit)
    (s : FlowState) :
    (answering reply).system.Reaches (.launch (node s) () []) (played reply node s) :=
  Schedule.play_reaches _ _ _

def returned {W Lbl : Type}
    (c : Config FlowState W AdapterOp AdapterRep Lbl (Except PyError Unit)) : Option FlowState :=
  match c.proc with
  | .done s (.ok ()) => some s
  | _ => none

theorem done_of_returned {W Lbl : Type}
    {c : Config FlowState W AdapterOp AdapterRep Lbl (Except PyError Unit)} {s : FlowState}
    (ceased : returned c = some s) : c.proc = .done s (.ok ()) := by
  unfold returned at ceased
  split at ceased
  next s' done =>
    cases ceased
    exact done
  next => cases ceased

/-- What adapters that always answer alike told a node. -/
theorem answering_replied {reply : (op : AdapterOp) → AdapterRep op} {node : Node Unit}
    {s : FlowState} {w : Unit}
    {c : Config FlowState Unit AdapterOp AdapterRep Empty (Except PyError Unit)}
    (run : (answering reply).system.Reaches (.launch (node s) w []) c) {op : AdapterOp}
    {r : AdapterRep op} (mem : .reply op r ∈ c.history) : r = reply op := by
  obtain ⟨_, _, _, _, served⟩ :=
    System.Reaches.honest run (System.honest_launch System.honest_nil) _ mem
  exact served.2

/-- A worker that shows a model nothing but the files it asked for. -/
def plainWorker : Worker where
  reading := {
    closure := fun _ seeds => seeds
    dependents := fun _ _ => []
    render := fun _ _ => ("", {})
    evaluate := fun _ _ => {} }
  baseUrl := ""

def shopParams : FlowInput where
  runId := ⟨1⟩
  appId := ⟨2⟩
  ticket := shopTicket
  policyCommit := "90"
  appName := "shop"

def obligedRun : FlowConfig Unit := obligingScript.run plainWorker [] shopParams () 100

/-- Where a run stands once it has ended. -/
def ended (c : FlowConfig Unit) : Option (DeliveryFlow × Except FlowExc FlowResult) :=
  match c.proc with
  | .done s r => some (s, r)
  | .await _ _ _ => none

theorem done_of_ended {c : FlowConfig Unit} (ceased : (ended c).isSome = true) :
    ∃ s r, c.proc = .done s r := by
  unfold ended at ceased
  split at ceased
  next s r done => exact ⟨s, r, done⟩
  next => cases ceased

def callOf (nodeId : String) : Label FlowOp FlowRep FlowMove → Option FlowState
  | .call (.runNode called _ state) => if called = nodeId then some state else none
  | _ => none

theorem split_of_callOf {nodeId : String} {h : FlowHistory} {state : FlowState}
    {l : Label FlowOp FlowRep FlowMove} (mem : l ∈ h) (called : callOf nodeId l = some state) :
    ∃ before activityId after,
      h = before ++ .call (.runNode nodeId activityId state) :: after := by
  obtain ⟨before, after, split⟩ := List.append_of_mem mem
  unfold callOf at called
  split at called
  next called_id activityId given =>
    split_ifs at called with same
    cases called
    exact ⟨before, activityId, after, same ▸ split⟩
  next => cases called

theorem called_of_findSome {nodeId : String} {h : FlowHistory} {state : FlowState}
    (found : h.findSome? (callOf nodeId) = some state) : ∃ before activityId after,
      h = before ++ .call (.runNode nodeId activityId state) :: after := by
  obtain ⟨l, mem, called⟩ := List.exists_of_findSome?_eq_some found
  exact split_of_callOf mem called

theorem obligedRun_runs : Runs obliging plainWorker shopParams () obligedRun :=
  Script.run_runs _ _ _ _ _ _

def obligedState : Option FlowState := obligedRun.history.findSome? (callOf "release")

end KuWarden.Flow
