import KuWarden.Api.Supersession
import KuWarden.Python.Segments

/-!
A run's evidence graph: the runs of its ticket, what they pushed, and the files they changed.

A run says what it was started for by the id it was launched under, which the graph and the
guard of the service hook each take apart in their own way.
-/
namespace KuWarden.Api.Graph

/-- A row of `flow_runs`. -/
structure FlowRun where
  id : UUID
  ticketSystem : String
  ticketId : String
  workflowId : String
  status : String
  riskTier : RiskTier
  parentRunId : Option UUID
  createdAt : Nat
  endedAt : Option Nat

/-- A row of `run_files`. -/
structure ChangedFile where
  runId : UUID
  path : String
  added : Nat
  removed : Nat
  deriving DecidableEq

/-- A `branch_pushed` row of `flow_events`. -/
structure PushedRow where
  runId : UUID
  payload : Payload

/-- What the endpoint is answered, in the order the queries ask for. -/
structure Fetched where
  run : Option FlowRun
  siblings : List FlowRun
  files : List ChangedFile
  pushes : List PushedRow

structure Push where
  commit : Option String
  base : Option String
  attempt : Option Nat

structure RunView where
  id : String
  label : String
  status : String
  riskTier : RiskTier
  revision : Option String
  pushes : List Push
  startedAt : String
  endedAt : Option String
  itself : Bool

inductive Node
  | ticket (id label : String)
  | run (view : RunView)
  | file (id label : String)

/-- Where an edge leads from and where to, by the ids of the nodes. -/
inductive Edge
  | asked (source target : String)
  | spawned (source target : String)
  | changed (source target : String) (added removed : Nat)

structure RunGraph where
  runId : String
  nodes : List Node
  edges : List Edge
  nodeCount : Nat
  edgeCount : Nat

/-! ## The endpoint -/

def pushOf : Payload → Push
  | .branchPushed _ commit base attempt _ => ⟨commit, base, some attempt⟩
  | _ => ⟨none, none, none⟩

/-- `by_run.get(rid, [])`. -/
def pushesOf (pushes : List PushedRow) (rid : String) : List Push :=
  (pushes.filter fun row => row.runId.text = rid).map fun row => pushOf row.payload

/-- `workflow_id.rsplit("-r", 1)[-1] if "-r" in workflow_id else None`. -/
def revisionShown (workflowId : String) : Option String :=
  if Text.occurs "-r" workflowId then
    some (String.ofList (Text.afterLast "-r".toList workflowId.toList))
  else none

def ticketNode (run : FlowRun) : String := "ticket:" ++ run.ticketSystem ++ ":" ++ run.ticketId

variable (isoformat : Nat → String)

def runView (run sibling : FlowRun) (pushes : List PushedRow) : RunView where
  id := "run:" ++ sibling.id.text
  label := Text.take 8 sibling.id.text
  status := sibling.status
  riskTier := sibling.riskTier
  revision := revisionShown sibling.workflowId
  pushes := pushesOf pushes sibling.id.text
  startedAt := isoformat sibling.createdAt
  endedAt := sibling.endedAt.map isoformat
  itself := sibling.id.text = run.id.text

def siblingEdges (run sibling : FlowRun) : List Edge :=
  .asked (ticketNode run) ("run:" ++ sibling.id.text) ::
    match sibling.parentRunId with
    | none => []
    | some parent => [.spawned ("run:" ++ parent.text) ("run:" ++ sibling.id.text)]

/-- One node for each path, where it is first met. -/
def fileNodes : List String → List ChangedFile → List Node
  | _, [] => []
  | seenPaths, row :: rest =>
      if row.path ∈ seenPaths then fileNodes seenPaths rest
      else .file ("file:" ++ row.path) row.path :: fileNodes (row.path :: seenPaths) rest

def fileEdge (row : ChangedFile) : Edge :=
  .changed ("run:" ++ row.runId.text) ("file:" ++ row.path) row.added row.removed

def runGraph (read : Fetched) : Except ApiExc RunGraph := do
  let some run := read.run | abort 404 "no such run"
  let nodes :=
    Node.ticket (ticketNode run) (run.ticketSystem ++ " " ++ run.ticketId) ::
      (read.siblings.map fun sibling => .run (runView isoformat run sibling read.pushes)) ++
      fileNodes [] read.files
  let edges := read.siblings.flatMap (siblingEdges run) ++ read.files.map fileEdge
  return ⟨run.id.text, nodes, edges, nodes.length, edges.length⟩

/-! ## The runs it shows -/

variable {isoformat : Nat → String} {read : Fetched} {graph : RunGraph}

theorem not_run_of_file {seenPaths : List String} {files : List ChangedFile} {view : RunView} :
    .run view ∉ fileNodes seenPaths files := by
  induction files generalizing seenPaths with
  | nil => exact List.not_mem_nil
  | cons row rest ih =>
      rw [fileNodes]
      split
      · exact ih
      · rw [List.mem_cons, not_or]
        exact ⟨by simp, ih⟩

theorem run_mem_graph (ok : runGraph isoformat read = .ok graph) {view : RunView} :
    .run view ∈ graph.nodes ↔ ∃ run, read.run = some run ∧
      ∃ sibling ∈ read.siblings, runView isoformat run sibling read.pushes = view := by
  cases found : read.run with
  | none =>
      rw [runGraph, found] at ok
      cases ok
  | some run =>
      rw [runGraph, found] at ok
      obtain rfl := Except.ok.inj ok
      simp [not_run_of_file]

/-! ## What an id says -/

section Ids

open Hook

variable {appId appId' : UUID} {item item' : String} {q r : Int}

/-- The id of a run that somebody started by hand. -/
def manualWorkflowId (runId : UUID) : String := "kuwarden-" ++ runId.text

/-- An id names the application besides. -/
theorem hook_workflow_id_app
    (same : hookWorkflowId appId item q = hookWorkflowId appId' item' r) :
    appId = appId' ∧ item = item' ∧ q = r := by
  have chars := congrArg String.toList same
  rw [toList_hook_workflow_id, toList_hook_workflow_id] at chars
  simp only [List.append_assoc] at chars
  have rest := List.append_cancel_left chars
  have app := (List.append_inj rest (by simp only [UUID.length_text])).1
  obtain rfl := UUID.text_inj (String.toList_inj.mp app)
  exact ⟨rfl, hook_workflow_id_inj same⟩

theorem no_r_in_uuid (id : UUID) : 'r' ∉ id.text.toList := by
  intro mem
  rcases UUID.mem_text mem with bar | ⟨k, small, digit⟩
  · exact absurd bar (by decide)
  · exact (show ∀ k < 16, 'r' ≠ Text.hexDigit k by decide) k small digit

/-- No run that was started by hand has an id in which a revision could be found. -/
theorem no_mark_in_manual (runId : UUID) :
    ¬ "-r".toList <:+: (manualWorkflowId runId).toList := by
  have chars : (manualWorkflowId runId).toList =
      "kuwarden".toList ++ ('-' :: runId.text.toList) := by
    rw [manualWorkflowId, String.toList_append]
    rfl
  rintro ⟨front, rest, same⟩
  have split : (front ++ ['-']) ++ 'r' :: rest =
      "kuwarden".toList ++ ('-' :: runId.text.toList) := by
    rw [← chars, ← same]
    simp
  rcases List.append_eq_append_iff.mp split with ⟨more, word, -⟩ | ⟨more, -, uuid⟩
  · have dash : '-' ∈ "kuwarden".toList := by
      rw [word]
      simp
    exact absurd dash (by decide)
  · have letter : 'r' ∈ '-' :: runId.text.toList := by
      rw [uuid]
      simp
    rw [List.mem_cons] at letter
    exact letter.elim (by decide) (no_r_in_uuid runId)

theorem revisionShown_manual (runId : UUID) :
    revisionShown (manualWorkflowId runId) = none := by
  refine if_neg fun occurs => ?_
  exact no_mark_in_manual runId (Text.occurs_iff.mp occurs)

theorem mark_of_revision {workflowId : String} {n : Int}
    (found : revisionOf workflowId = some n) : "-r".toList <:+: workflowId.toList := by
  rw [revisionOf] at found
  dsimp only at found
  split at found
  next rest left =>
    have backwards : ['r', '-'] <:+: workflowId.toList.reverse := by
      refine List.IsInfix.trans ⟨[], rest, ?_⟩
        (List.dropWhile_suffix Unicode.isDecimal).isInfix
      rw [left]
      rfl
    exact List.reverse_infix.mp backwards
  next => cases found

theorem revision_of_manual (runId : UUID) : revisionOf (manualWorkflowId runId) = none := by
  cases found : revisionOf (manualWorkflowId runId) with
  | none => rfl
  | some n => exact absurd (mark_of_revision found) (no_mark_in_manual runId)

/-- The graph shows the number that the id ends in. -/
theorem revisionShown_hook {n : Nat} :
    revisionShown (hookWorkflowId appId item n) = some (Text.ofNat n) := by
  have chars : (hookWorkflowId appId item n).toList =
      ("kuwarden-ado-".toList ++ appId.text.toList ++ '-' :: item.toList) ++
        '-' :: (['r'] ++ (Text.ofNat n).toList) := by
    rw [toList_hook_workflow_id, show Text.ofInt n = Text.ofNat n from rfl]
    simp
  have last : ¬ ['-', 'r'] <:+: ['r'] ++ (Text.ofNat n).toList := by
    intro within
    have dash : '-' ∈ ['r'] ++ (Text.ofNat n).toList := within.subset (by simp)
    simp only [List.singleton_append, List.mem_cons, show ('-' : Char) ≠ 'r' by decide,
      false_or] at dash
    exact absurd (Text.isDigit_ofNat dash) (by decide)
  have occurs : Text.occurs "-r" (hookWorkflowId appId item n) = true := by
    rw [Text.occurs_iff, chars]
    exact List.infix_append_of_infix_right ⟨[], (Text.ofNat n).toList, rfl⟩
  have tail : Text.afterLast "-r".toList (hookWorkflowId appId item n).toList =
      (Text.ofNat n).toList := by
    rw [chars]
    exact Text.afterLast_append last
  rw [revisionShown, if_pos occurs, tail, String.ofList_toList]

end Ids

/-- A run in the graph shows the revision it was launched for. -/
def Shows (graph : RunGraph) (read : Fetched) (workflowId : String)
    (revision : Option String) : Prop :=
  ∀ sibling ∈ read.siblings, sibling.workflowId = workflowId →
    ∃ view, .run view ∈ graph.nodes ∧ view.id = "run:" ++ sibling.id.text ∧
      view.revision = revision

theorem shows_of_shown (ok : runGraph isoformat read = .ok graph) (workflowId : String) :
    Shows graph read workflowId (revisionShown workflowId) := by
  intro sibling mem launched
  cases found : read.run with
  | none =>
      rw [runGraph, found] at ok
      cases ok
  | some run =>
      exact ⟨_, (run_mem_graph ok).mpr ⟨run, found, sibling, mem, rfl⟩, rfl,
        congrArg revisionShown launched⟩

/-- Neither decoder finds a revision in this id. -/
structure Unrevised (workflowId : String) : Prop where
  read_back : Hook.revisionOf workflowId = none
  shown : ∀ isoformat read graph, runGraph isoformat read = .ok graph →
    Shows graph read workflowId none

/-- Both decoders read this revision back, and no other delivery is run under this id. -/
structure Decoded (appId : UUID) (item : String) (n : Nat) : Prop where
  read_back : Hook.revisionOf (Hook.hookWorkflowId appId item n) = some (n : Int)
  shown : ∀ isoformat read graph, runGraph isoformat read = .ok graph →
    Shows graph read (Hook.hookWorkflowId appId item n) (some (Text.ofNat n))
  only : ∀ appId' item' r, Hook.hookWorkflowId appId' item' r =
    Hook.hookWorkflowId appId item n → appId' = appId ∧ item' = item ∧ r = n

/-- What the hook wrote into an id is read back out of it, and nothing is out of the id of a run
that somebody started by hand. -/
theorem workflow_ids_decoded (appId : UUID) {item : String} (line : '\n' ∉ item.toList)
    (n : Nat) : Decoded appId item n ∧ ∀ runId, Unrevised (manualWorkflowId runId) := by
  constructor
  · refine ⟨Hook.revision_of_hook_workflow_id line, ?_, ?_⟩
    · intro isoformat read graph ok
      rw [← revisionShown_hook]
      exact shows_of_shown ok _
    · intro appId' item' r same
      exact hook_workflow_id_app same
  · intro runId
    refine ⟨revision_of_manual runId, ?_⟩
    intro isoformat read graph ok
    rw [← revisionShown_manual runId]
    exact shows_of_shown ok _

/-- The item's own id ends in what looks like a revision. -/
theorem workflow_ids_decoded_marked : Decoded ⟨7⟩ "52-r9" 3 ∧
    ∀ runId, Unrevised (manualWorkflowId runId) :=
  workflow_ids_decoded ⟨7⟩ (by decide) 3

end KuWarden.Api.Graph
