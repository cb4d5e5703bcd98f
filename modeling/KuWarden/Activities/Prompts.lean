import KuWarden.Activities.Tiers

/-!
What the Coder tells a model of the verdict before it: its requests are made of the state it
was called with, whatever the model answers and however often it is asked.
-/
namespace KuWarden

open Process

/-- What the Coder's prompts say of a state, and the pass it belongs to. -/
def fed (state : FlowState) : Option ChangePlan × Option CIResult × Option String × Int :=
  (state.plan, state.ciResult, state.ciDetail, state.pushAttempt)

namespace Coder

/-- A request made of this state: for a selection, which is told of no verdict, or for an
attempt, whose stable part ends in what rejected the pass before. -/
def Asks (state : FlowState) (request : LLMRequest) : Prop :=
  (request.cacheablePrefix = none ∧ ∃ listing, request.prompt = planBlock state ++ listing) ∨
    ∃ ctx files failure selected,
      request.cacheablePrefix = some (prompt ctx state files failure selected).1 ∧
        request.prompt = (prompt ctx state files failure selected).2.1

theorem prompt_fed {ctx : NodeContext} {s s' : FlowState} {files : List (String × Bytes)}
    {failure : Option ExecResult} {selected : List String} (same : fed s' = fed s) :
    prompt ctx s' files failure selected = prompt ctx s files failure selected := by
  simp only [fed, Prod.mk.injEq] at same
  simp only [prompt, planBlock, rejectedBefore, same.1, same.2.1, same.2.2.1]

def MayAsk {Lbl : Type} (state : FlowState) (_ : History AdapterOp AdapterRep Lbl)
    (op : AdapterOp) : Prop :=
  ∀ nodeId request, op = .complete nodeId request → Asks state request

/-- The state still feeds the prompts alike, and so far they were made of it. -/
def Feeding (W : Type) {Lbl : Type} (state : FlowState) :
    Assertion FlowState W AdapterOp AdapterRep Lbl :=
  fun s _ h => fed s = fed state ∧ CallsMeet (MayAsk state) h

variable {W Lbl : Type} {adapters : Adapters W Lbl} {ctx : NodeContext} {state : FlowState}

theorem ask_feeding {op : AdapterOp}
    (asks : ∀ nodeId request, op = .complete nodeId request → Asks state request) :
    (Node.ask op).Keeps adapters.system (Feeding W state) :=
  (Node.leaves_ask (fed state)).and (Node.keeps_ask_callsMeet fun _ => asks)

theorem asked_feeding : Asked adapters (Feeding W state) where
  ask other := ask_feeding fun _ _ same => absurd same (other _ _)

theorem update_feeding {f : FlowState → FlowState} (same : ∀ s, fed (f s) = fed s) :
    (Task.update f : Node Unit).Keeps adapters.system (Feeding W state) :=
  Task.keeps_update fun s _ _ held => ⟨(same s).trans held.1, held.2⟩

/-- What is made of the state that is read is made of the state the Coder was called with. -/
theorem read_feeding {α : Type} {f : FlowState → Node α}
    (hf : ∀ s, fed s = fed state → (f s).Keeps adapters.system (Feeding W state)) :
    (Task.read >>= f).Keeps adapters.system (Feeding W state) := by
  intro s w h held
  exact Task.wp_bind.mpr (Task.wp_read.mpr (hf s held.1 s w h held))

theorem select_feeding {files : List (String × Bytes)} :
    (select ctx files).Keeps adapters.system (Feeding W state) := by
  refine read_feeding fun s same => Task.keeps_bind (ask_feeding ?_) fun _ =>
    Task.keeps_bind (Task.keeps_ofExcept _) fun _ => ?_
  · rintro nodeId request ⟨⟩
    have plan : s.plan = state.plan := congrArg Prod.fst same
    refine .inl ⟨rfl, "\n\n<repository_listing>\n" ++ (Text.join "\n" (sortedPaths files) ++
      "\n</repository_listing>"), ?_⟩
    simp only [planBlock, plan, String.append_assoc]
  · dsimp only
    split
    · exact Task.keeps_pure _
    · exact Task.keeps_pure _

theorem attempts_feeding {settings : NodeModel} {files : List (String × Bytes)}
    {selected : List String} {workspace : WorkspaceRef} {rounds : List Nat} {log : Log} :
    (attempts ctx settings files selected workspace rounds log).Keeps adapters.system
      (Feeding W state) := by
  induction rounds generalizing log with
  | nil => exact Task.keeps_pure _
  | cons attempt rest ih =>
      refine Task.keeps_bind (update_feeding fun _ => rfl) fun _ => read_feeding fun s same =>
        Task.keeps_bind (ask_feeding ?_) fun _ =>
        Task.keeps_bind (update_feeding fun _ => rfl) fun _ =>
        Task.keeps_bind (Asked.ask asked_feeding (by simp)) fun _ =>
        Task.keeps_bind (Asked.ask asked_feeding (by simp)) fun _ => ?_
      · rintro nodeId request ⟨⟩
        refine .inr ⟨ctx, files, log.failure, selected, ?_⟩
        rw [← prompt_fed same]
        exact ⟨rfl, rfl⟩
      · dsimp only
        split
        · exact Task.keeps_pure _
        · exact ih

theorem coder_feeding : (coder ctx).Keeps adapters.system (Feeding W state) := by
  unfold coder
  dsimp only
  split
  next llm _ =>
    split
    case' isTrue => refine Task.keeps_bind (Task.keeps_raise _) fun _ => ?_
    all_goals
      exact Task.keeps_bind (Task.keeps_ofExcept _) fun _ =>
        Task.keeps_bind (Task.keeps_ofExcept _) fun _ =>
        Task.keeps_bind (Task.keeps_ofExcept _) fun _ =>
        Task.keeps_bind (Asked.pinBase asked_feeding) fun _ =>
        Task.keeps_bind (update_feeding fun _ => rfl) fun _ =>
        Task.keeps_bind (Asked.ask asked_feeding (by simp)) fun _ =>
        Task.keeps_bind (update_feeding fun _ => rfl) fun _ =>
        Task.keeps_bind (Task.keeps_ofExcept _) fun _ =>
        Task.keeps_bind select_feeding fun _ =>
        Task.keeps_bind (Asked.withWorkspace asked_feeding fun _ =>
          Task.keeps_bind attempts_feeding fun _ =>
          Task.keeps_bind (Asked.ask asked_feeding (by simp)) fun _ => Task.keeps_pure _) fun _ =>
        Task.keeps_bind (update_feeding fun _ => rfl) fun _ => update_feeding fun _ => rfl
  next => exact Task.keeps_raise _

theorem run_feeding {worker : Worker} :
    (runNode worker "coder").Keeps adapters.system (Feeding W state) :=
  Task.keeps_bind (Asked.ask asked_feeding (by simp)) fun _ => coder_feeding

/-- Whatever it is answered, a Coder asks its model about the state it was called with. -/
theorem coder_asks {worker : Worker} {w : W}
    {c : Config FlowState W AdapterOp AdapterRep Lbl (Except PyError Unit)}
    (run : adapters.system.Reaches (.launch (runNode worker "coder" state) w []) c)
    {nodeId : String} {request : LLMRequest}
    (asked : .call (.complete nodeId request) ∈ c.history) : Asks state request := by
  have feeding : Feeding W state c.proc.state c.world c.history :=
    wp_invariant (run_feeding state w [] ⟨rfl, callsMeet_nil _⟩) run
  obtain ⟨before, after, split⟩ := List.append_of_mem asked
  exact feeding.2 before _ after split nodeId request rfl

end Coder

/-! ## What the nodes around it leave -/

variable {W Lbl : Type} {adapters : Adapters W Lbl} {worker : Worker}
  {state result : FlowState} {w w' : W}
  {attempts : List (Attempt FlowState AdapterOp AdapterRep Lbl PyError Unit)}

theorem executes_coder_fed
    (ran : Executes adapters worker "coder" state w attempts (.ok result) w') :
    fed result = fed state := by
  obtain ⟨_, _, _, _, held⟩ := ran.ensured fun w =>
    Coder.run_feeding.ensures (P := Coder.Feeding W state) ⟨rfl, callsMeet_nil _⟩
  exact held.1

theorem push_leaves {ctx : NodeContext} : Node.Leaves adapters fed (Push.push ctx) :=
  Node.leaves_bind Node.leaves_read fun _ => Node.leaves_bind Node.leaves_ofExcept fun _ =>
    Node.leaves_bind Node.leaves_ofExcept fun _ => Node.leaves_bind Node.leaves_ofExcept fun _ =>
    Node.leaves_bind Node.leaves_ask fun _ => Node.leaves_update fun _ => rfl

theorem executes_push_fed
    (ran : Executes adapters worker "push" state w attempts (.ok result) w') :
    fed result = fed state := by
  obtain ⟨_, _, _, _, same⟩ := ran.ensured fun w => run_node_ensures rfl fun _ _ _ _ =>
    push_leaves.ensures state _ _
  exact same

/-- The verdict of a state, and what was said of it. -/
def told (state : FlowState) : Option CIResult × Option String :=
  (state.ciResult, state.ciDetail)

theorem triage_leaves {ctx : NodeContext} : Node.Leaves adapters told (Triage.triage ctx) := by
  refine Node.leaves_bind Node.leaves_read fun _ => Node.leaves_bind Node.leaves_ofExcept fun _ => ?_
  split
  next =>
    refine Node.leaves_bind Node.leaves_ofExcept fun _ => Node.leaves_bind Node.leaves_ask fun _ =>
      Node.leaves_bind (Node.leaves_update fun _ => rfl) fun _ =>
      Node.leaves_bind Node.leaves_ofExcept fun _ =>
      Node.leaves_bind (Node.leaves_update fun _ => rfl) fun _ =>
      Node.leaves_bind (Node.leaves_update fun _ => rfl) fun _ => fun x => ?_
    exact Asked.acknowledge ⟨fun _ => Node.leaves_ask x⟩
  next => exact Node.leaves_raise

theorem executes_triage_told
    (ran : Executes adapters worker "triage" state w attempts (.ok result) w') :
    told result = told state := by
  obtain ⟨_, _, _, _, same⟩ := ran.ensured fun w => run_node_ensures rfl fun _ _ _ _ =>
    triage_leaves.ensures state _ _
  exact same

theorem executes_planner_told
    (ran : Executes adapters worker "planner" state w attempts (.ok result) w') :
    told result = told state := by
  obtain ⟨_, _, _, _, same⟩ := ran.ensured fun w => run_node_ensures rfl fun _ _ _ _ =>
    planner_leaves.ensures state _ _
  exact congrArg₂ Prod.mk (congrArg (fun kept => kept.2.1) same)
    (congrArg (fun kept => kept.2.2.2) same)

end KuWarden
