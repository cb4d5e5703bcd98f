import KuWarden.Api.Graph
import Mathlib.Data.List.Sort

/-!
The evidence graph beside the tables it is read from, and beside the reverse question: which runs
changed a file.
-/
namespace KuWarden.Api.Graph

/-- What the two endpoints read. -/
structure Tables where
  /-- `flow_runs`, with the application of each run. -/
  flowRuns : List (UUID × FlowRun)
  runFiles : List ChangedFile
  /-- The `branch_pushed` rows of `flow_events`. -/
  pushes : List PushedRow
  /-- `app_registry`, as far as it is joined. -/
  appRegistry : List (UUID × String)

structure Keyed (tables : Tables) : Prop where
  runs : (tables.flowRuns.map fun row => row.2.id).Nodup
  files : (tables.runFiles.map fun row => (row.runId, row.path)).Nodup
  references : ∀ file ∈ tables.runFiles, ∃ row ∈ tables.flowRuns, row.2.id = file.runId

def siblingsOf (tables : Tables) (appId : UUID) (ticketId : String) : List FlowRun :=
  (tables.flowRuns.filter fun row => row.1 = appId ∧ row.2.ticketId = ticketId).map Prod.snd

/-- What `run_graph` is answered for a run, in whatever order. -/
structure Reads (tables : Tables) (appId : UUID) (run : FlowRun) (read : Fetched) : Prop where
  found : read.run = some run
  listed : (appId, run) ∈ tables.flowRuns
  siblings : read.siblings.Perm (siblingsOf tables appId run.ticketId)
  files : read.files.Perm
    (tables.runFiles.filter fun file => file.runId ∈ read.siblings.map FlowRun.id)
  pushes : read.pushes.Perm
    (tables.pushes.filter fun row => row.runId ∈ read.siblings.map FlowRun.id)

structure FileRun where
  runId : String
  path : String
  added : Nat
  removed : Nat
  ticketSystem : String
  ticketId : String
  status : String
  appName : String
  createdAt : Nat

/-- Every run that changed a file, newest first. -/
def fileRuns (tables : Tables) (path : String) : List FileRun :=
  let rows := (tables.runFiles.filter fun file => file.path = path).flatMap fun file =>
    (tables.flowRuns.filter fun row => row.2.id = file.runId).map fun row =>
      { runId := file.runId.text
        path := path
        added := file.added
        removed := file.removed
        ticketSystem := row.2.ticketSystem
        ticketId := row.2.ticketId
        status := row.2.status
        appName := (tables.appRegistry.lookup row.1).getD "(deleted)"
        createdAt := row.2.createdAt : FileRun }
  rows.insertionSort fun left right => right.createdAt ≤ left.createdAt

def Node.id : Node → String
  | .ticket id _ => id
  | .run view => view.id
  | .file id _ => id

def Edge.source : Edge → String
  | .asked source _ | .spawned source _ | .changed source _ _ _ => source

def Edge.target : Edge → String
  | .asked _ target | .spawned _ target | .changed _ target _ _ => target

/-! ## Nodes -/

variable {isoformat : Nat → String} {run sibling : FlowRun} {runs : List FlowRun}
  {files : List ChangedFile} {pushes : List PushedRow} {seenPaths : List String} {id : String}

/-- Ids of different kinds differ, and within a kind they tell what they are of. -/
theorem run_id_inj {a b : UUID} (same : "run:" ++ a.text = "run:" ++ b.text) : a = b :=
  UUID.text_inj ((String.append_right_inj _).mp same)

theorem run_ne_file {a b : String} : "run:" ++ a ≠ "file:" ++ b := by
  intro same
  have heads := congrArg (fun s => s.toList.head?) same
  simp only [String.toList_append] at heads
  exact absurd (show some 'r' = some 'f' from heads) (by decide)

theorem ticket_ne_run {a : String} : ticketNode run ≠ "run:" ++ a := by
  intro same
  have heads := congrArg (fun s => s.toList.head?) same
  simp only [ticketNode, String.toList_append] at heads
  exact absurd (show some 't' = some 'r' from heads) (by decide)

theorem ticket_ne_file {a : String} : ticketNode run ≠ "file:" ++ a := by
  intro same
  have heads := congrArg (fun s => s.toList.head?) same
  simp only [ticketNode, String.toList_append] at heads
  exact absurd (show some 't' = some 'f' from heads) (by decide)

theorem mem_file_ids : id ∈ (fileNodes seenPaths files).map Node.id ↔
    ∃ file ∈ files, file.path ∉ seenPaths ∧ id = "file:" ++ file.path := by
  induction files generalizing seenPaths with
  | nil => simp [fileNodes]
  | cons file rest ih =>
      rw [fileNodes]
      split
      next seen =>
        rw [ih]
        constructor
        · rintro ⟨other, mem, fresh, same⟩
          exact ⟨other, List.mem_cons_of_mem _ mem, fresh, same⟩
        · rintro ⟨other, mem, fresh, same⟩
          rcases List.mem_cons.mp mem with rfl | mem
          · exact absurd seen fresh
          · exact ⟨other, mem, fresh, same⟩
      next fresh =>
        rw [List.map_cons, List.mem_cons, ih]
        constructor
        · rintro (same | ⟨other, mem, unseen, same⟩)
          · exact ⟨file, List.mem_cons_self, fresh, same⟩
          · exact ⟨other, List.mem_cons_of_mem _ mem,
              fun seen => unseen (List.mem_cons_of_mem _ seen), same⟩
        · rintro ⟨other, mem, unseen, same⟩
          by_cases again : other.path = file.path
          · exact .inl (by rw [same, again]; rfl)
          · refine .inr ⟨other, (List.mem_cons.mp mem).resolve_left ?_, ?_, same⟩
            · rintro rfl
              exact again rfl
            · rw [List.mem_cons, not_or]
              exact ⟨again, unseen⟩

theorem file_ids_nodup : ((fileNodes seenPaths files).map Node.id).Nodup := by
  induction files generalizing seenPaths with
  | nil => exact List.nodup_nil
  | cons file rest ih =>
      rw [fileNodes]
      split
      · exact ih
      · rw [List.map_cons, List.nodup_cons, mem_file_ids]
        refine ⟨?_, ih⟩
        rintro ⟨other, -, unseen, same⟩
        have paths : file.path = other.path := (String.append_right_inj _).mp same
        exact unseen (paths ▸ List.mem_cons_self)

def nodesOf (isoformat : Nat → String) (run : FlowRun) (runs : List FlowRun)
    (files : List ChangedFile) (pushes : List PushedRow) : List Node :=
  Node.ticket (ticketNode run) (run.ticketSystem ++ " " ++ run.ticketId) ::
    (runs.map fun sibling => .run (runView isoformat run sibling pushes)) ++ fileNodes [] files

def edgesOf (run : FlowRun) (runs : List FlowRun) (files : List ChangedFile) : List Edge :=
  runs.flatMap (siblingEdges run) ++ files.map fileEdge

theorem mem_node_ids : id ∈ (nodesOf isoformat run runs files pushes).map Node.id ↔
    id = ticketNode run ∨ (∃ sibling ∈ runs, id = "run:" ++ sibling.id.text) ∨
      ∃ file ∈ files, id = "file:" ++ file.path := by
  rw [nodesOf, List.map_append, List.mem_append, mem_file_ids, List.map_cons, List.mem_cons,
    List.map_map, List.mem_map, or_assoc]
  refine or_congr Iff.rfl (or_congr ?_ ?_)
  · exact exists_congr fun sibling => and_congr_right fun _ => eq_comm
  · exact exists_congr fun file => and_congr_right fun _ => and_iff_right List.not_mem_nil

theorem node_ids_nodup (distinct : (runs.map FlowRun.id).Nodup) :
    ((nodesOf isoformat run runs files pushes).map Node.id).Nodup := by
  have ids : (runs.map fun sibling : FlowRun => "run:" ++ sibling.id.text).Nodup := by
    have keyed := distinct.map (f := fun id : UUID => "run:" ++ id.text) fun _ _ => run_id_inj
    rwa [List.map_map] at keyed
  rw [nodesOf, List.cons_append, List.map_cons, List.nodup_cons, List.map_append, List.map_map,
    List.mem_append, not_or, mem_file_ids]
  refine ⟨⟨?_, ?_⟩, List.Nodup.append ids file_ids_nodup ?_⟩
  · intro mem
    obtain ⟨sibling, -, same⟩ := List.mem_map.mp mem
    exact ticket_ne_run same.symm
  · rintro ⟨file, -, -, same⟩
    exact ticket_ne_file same
  · intro id left right
    obtain ⟨sibling, -, rfl⟩ := List.mem_map.mp left
    obtain ⟨file, -, -, same⟩ := mem_file_ids.mp right
    exact run_ne_file same

/-! ## Edges -/

def Edge.ends (edge : Edge) : String × String := (edge.source, edge.target)

theorem mem_siblingEdges {edge : Edge} : edge ∈ siblingEdges run sibling ↔
    edge = .asked (ticketNode run) ("run:" ++ sibling.id.text) ∨
    ∃ parent, sibling.parentRunId = some parent ∧
      edge = .spawned ("run:" ++ parent.text) ("run:" ++ sibling.id.text) := by
  rw [siblingEdges, List.mem_cons]
  cases sibling.parentRunId with
  | none => simp
  | some parent => simp

theorem mem_edgesOf {edge : Edge} : edge ∈ edgesOf run runs files ↔
    (∃ sibling ∈ runs, edge ∈ siblingEdges run sibling) ∨ ∃ file ∈ files, fileEdge file = edge := by
  rw [edgesOf, List.mem_append, List.mem_flatMap, List.mem_map]

/-- No two edges join the same nodes. -/
theorem edges_nodup (distinct : (runs.map FlowRun.id).Nodup)
    (keyed : (files.map fun file => (file.runId, file.path)).Nodup) :
    ((edgesOf run runs files).map Edge.ends).Nodup := by
  have target : ∀ {edge sibling}, edge ∈ siblingEdges run sibling →
      edge.target = "run:" ++ sibling.id.text := by
    intro edge sibling mem
    rcases mem_siblingEdges.mp mem with rfl | ⟨parent, -, rfl⟩ <;> rfl
  rw [edgesOf, List.map_append, List.map_flatMap, List.map_map]
  refine List.Nodup.append (List.nodup_flatMap.mpr ⟨fun sibling _ => ?_, ?_⟩) ?_ ?_
  · rw [siblingEdges]
    cases sibling.parentRunId with
    | none => exact List.nodup_singleton _
    | some parent =>
        refine List.nodup_cons.mpr ⟨fun mem => ?_, List.nodup_singleton _⟩
        exact ticket_ne_run (congrArg Prod.fst (List.mem_singleton.mp mem))
  · refine (List.pairwise_map.mp distinct).imp fun {a b} apart ends left right => ?_
    obtain ⟨edge, mem, rfl⟩ := List.mem_map.mp left
    obtain ⟨edge', mem', same⟩ := List.mem_map.mp right
    have targets := congrArg Prod.snd same
    exact apart (run_id_inj ((target mem).symm.trans (targets.symm.trans (target mem'))))
  · have ends := keyed.map (f := fun key : UUID × String => ("run:" ++ key.1.text, "file:" ++ key.2))
      fun key key' same => Prod.ext (run_id_inj (congrArg Prod.fst same))
        ((String.append_right_inj _).mp (congrArg Prod.snd same))
    rwa [List.map_map] at ends
  · intro ends left right
    obtain ⟨sibling, -, mem⟩ := List.mem_flatMap.mp left
    obtain ⟨edge, inner, rfl⟩ := List.mem_map.mp mem
    obtain ⟨file, -, same⟩ := List.mem_map.mp right
    exact run_ne_file ((target inner).symm.trans (congrArg Prod.snd same).symm)

/-! ## Against the tables -/

section
variable {tables : Tables} {appId : UUID} {read : Fetched} {path : String}

theorem siblings_distinct (keyed : Keyed tables) (reads : Reads tables appId run read) :
    (read.siblings.map FlowRun.id).Nodup := by
  refine (reads.siblings.map FlowRun.id).nodup_iff.mpr ?_
  rw [siblingsOf, List.map_map]
  exact keyed.runs.sublist (List.filter_sublist.map _)

theorem self_sibling (reads : Reads tables appId run read) : run ∈ read.siblings := by
  refine reads.siblings.mem_iff.mpr (List.mem_map.mpr ⟨(appId, run), ?_, rfl⟩)
  exact List.mem_filter.mpr ⟨reads.listed, by simp⟩

theorem mem_files (reads : Reads tables appId run read) {file : ChangedFile} :
    file ∈ read.files ↔ file ∈ tables.runFiles ∧ file.runId ∈ read.siblings.map FlowRun.id := by
  rw [reads.files.mem_iff, List.mem_filter, decide_eq_true_iff]

/-- What is said of a file is a row of the index. -/
theorem mem_file_runs (keyed : Keyed tables) {id : UUID} {added removed : Nat} :
    (∃ row ∈ fileRuns tables path, row.runId = id.text ∧ row.added = added ∧
      row.removed = removed) ↔ ⟨id, path, added, removed⟩ ∈ tables.runFiles := by
  constructor
  · rintro ⟨row, mem, same, rfl, rfl⟩
    obtain ⟨file, listed, inner⟩ := List.mem_flatMap.mp ((List.mem_insertionSort _).mp mem)
    obtain ⟨found, -, rfl⟩ := List.mem_map.mp inner
    obtain ⟨stored, named⟩ := List.mem_filter.mp listed
    obtain ⟨runId, file_path, added, removed⟩ := file
    cases of_decide_eq_true named
    cases UUID.text_inj same
    exact stored
  · intro stored
    obtain ⟨found, listed, same⟩ := keyed.references _ stored
    refine ⟨_, (List.mem_insertionSort _).mpr (List.mem_flatMap.mpr ⟨_, List.mem_filter.mpr
      ⟨stored, decide_eq_true rfl⟩, List.mem_map.mpr ⟨found, List.mem_filter.mpr
        ⟨listed, decide_eq_true same⟩, rfl⟩⟩), rfl, rfl, rfl⟩

/-- A graph that can be drawn, and says what the tables say. -/
structure Faithful (tables : Tables) (run : FlowRun) (runs : List FlowRun) (graph : RunGraph) :
    Prop where
  nodes : (graph.nodes.map Node.id).Nodup
  edges : (graph.edges.map Edge.ends).Nodup
  targets : ∀ edge ∈ graph.edges, edge.target ∈ graph.nodes.map Node.id
  /-- Every edge begins at a node, exactly when the parents of these runs are among them. -/
  sources : (∀ edge ∈ graph.edges, edge.source ∈ graph.nodes.map Node.id) ↔
    ∀ sibling ∈ runs, ∀ parent, sibling.parentRunId = some parent → parent ∈ runs.map FlowRun.id
  /-- No file stands alone. -/
  files : ∀ id label, .file id label ∈ graph.nodes → ∃ edge ∈ graph.edges, edge.target = id
  /-- One node is of the run that was asked for. -/
  itself : ∃ view, .run view ∈ graph.nodes ∧ view.id = "run:" ++ run.id.text ∧
    ∀ other, .run other ∈ graph.nodes → (other.itself = true ↔ other = view)
  /-- The reverse question has the same answer. -/
  changes : ∀ sibling ∈ runs, ∀ path added removed,
    .changed ("run:" ++ sibling.id.text) ("file:" ++ path) added removed ∈ graph.edges ↔
      ∃ row ∈ fileRuns tables path, row.runId = sibling.id.text ∧ row.added = added ∧
        row.removed = removed

theorem run_graph_eq (found : read.run = some run) : runGraph isoformat read = .ok
    ⟨run.id.text, nodesOf isoformat run read.siblings read.files read.pushes,
      edgesOf run read.siblings read.files,
      (nodesOf isoformat run read.siblings read.files read.pushes).length,
      (edgesOf run read.siblings read.files).length⟩ := by
  rw [runGraph, found]
  rfl

theorem changed_mem_edges {added removed : Nat} {id : UUID} :
    .changed ("run:" ++ id.text) ("file:" ++ path) added removed ∈ edgesOf run runs files ↔
      ⟨id, path, added, removed⟩ ∈ files := by
  rw [mem_edgesOf]
  constructor
  · rintro (⟨sibling, -, mem⟩ | ⟨⟨runId, file_path, plus, minus⟩, mem, same⟩)
    · rcases mem_siblingEdges.mp mem with same | ⟨parent, -, same⟩ <;> cases same
    · injection same with source target plus_eq minus_eq
      cases run_id_inj source
      cases (String.append_right_inj _).mp target
      cases plus_eq
      cases minus_eq
      exact mem
  · exact fun mem => .inr ⟨_, mem, rfl⟩

theorem itself_iff :
    (runView isoformat run sibling pushes).itself = true ↔ sibling.id = run.id := by
  rw [runView, decide_eq_true_iff]
  exact ⟨UUID.text_inj, congrArg UUID.text⟩

/-- Where every edge begins. -/
theorem sources_iff (referenced : ∀ file ∈ files, file.runId ∈ runs.map FlowRun.id) :
    (∀ edge ∈ edgesOf run runs files, edge.source = ticketNode run ∨
      (∃ sibling ∈ runs, edge.source = "run:" ++ sibling.id.text) ∨
      ∃ file ∈ files, edge.source = "file:" ++ file.path) ↔
    ∀ sibling ∈ runs, ∀ parent, sibling.parentRunId = some parent →
      parent ∈ runs.map FlowRun.id := by
  constructor
  · intro sources sibling mem parent spawned
    have edge : Edge.spawned ("run:" ++ parent.text) ("run:" ++ sibling.id.text) ∈
        edgesOf run runs files :=
      mem_edgesOf.mpr (.inl ⟨sibling, mem, mem_siblingEdges.mpr (.inr ⟨parent, spawned, rfl⟩)⟩)
    rcases sources _ edge with same | ⟨other, listed, same⟩ | ⟨file, -, same⟩
    · exact absurd same.symm ticket_ne_run
    · exact List.mem_map.mpr ⟨other, listed, (run_id_inj same).symm⟩
    · exact absurd same run_ne_file
  · intro parents edge mem
    rcases mem_edgesOf.mp mem with ⟨sibling, listed, inner⟩ | ⟨file, listed, rfl⟩
    · rcases mem_siblingEdges.mp inner with rfl | ⟨parent, spawned, rfl⟩
      · exact .inl rfl
      · obtain ⟨other, there, rfl⟩ := List.mem_map.mp (parents sibling listed parent spawned)
        exact .inr (.inl ⟨other, there, rfl⟩)
    · obtain ⟨sibling, there, same⟩ := List.mem_map.mp (referenced file listed)
      exact .inr (.inl ⟨sibling, there, by rw [same]; rfl⟩)

/-- Whatever the tables hold under their keys. -/
theorem run_graph_faithful (keyed : Keyed tables) (reads : Reads tables appId run read) :
    ∃ graph, runGraph isoformat read = .ok graph ∧
      Faithful tables run read.siblings graph := by
  have distinct := siblings_distinct keyed reads
  have files_keyed : (read.files.map fun file => (file.runId, file.path)).Nodup := by
    refine (reads.files.map _).nodup_iff.mpr ?_
    exact keyed.files.sublist (List.filter_sublist.map _)
  refine ⟨_, run_graph_eq reads.found, node_ids_nodup distinct, edges_nodup distinct files_keyed,
    ?_, ?_, ?_, ?_, ?_⟩
  · intro edge mem
    refine mem_node_ids.mpr (.inr ?_)
    rcases mem_edgesOf.mp mem with ⟨sibling, listed, inner⟩ | ⟨file, listed, rfl⟩
    · rcases mem_siblingEdges.mp inner with rfl | ⟨parent, -, rfl⟩
      · exact .inl ⟨sibling, listed, rfl⟩
      · exact .inl ⟨sibling, listed, rfl⟩
    · exact .inr ⟨file, listed, rfl⟩
  · have listed : ∀ file ∈ read.files, file.runId ∈ read.siblings.map FlowRun.id :=
      fun file mem => ((mem_files reads).mp mem).2
    rw [← @sources_iff run read.siblings read.files listed]
    exact forall₂_congr fun edge _ => mem_node_ids
  · intro id label mem
    have listed : id ∈ (fileNodes [] read.files).map Node.id := by
      rcases List.mem_append.mp mem with other | here
      · rcases List.mem_cons.mp other with same | inner
        · cases same
        · obtain ⟨sibling, -, same⟩ := List.mem_map.mp inner
          cases same
      · exact List.mem_map_of_mem here
    obtain ⟨file, there, -, rfl⟩ := mem_file_ids.mp listed
    exact ⟨fileEdge file, mem_edgesOf.mpr (.inr ⟨file, there, rfl⟩), rfl⟩
  · have mem_run : ∀ view, Node.run view ∈ nodesOf isoformat run read.siblings read.files
        read.pushes ↔ ∃ sibling ∈ read.siblings, runView isoformat run sibling read.pushes =
          view := by
      intro view
      rw [nodesOf, List.mem_append, or_iff_left not_run_of_file, List.mem_cons, List.mem_map]
      simp
    refine ⟨runView isoformat run run read.pushes, (mem_run _).mpr ⟨run, self_sibling reads, rfl⟩,
      rfl, fun other mem => ?_⟩
    obtain ⟨sibling, listed, rfl⟩ := (mem_run other).mp mem
    rw [itself_iff]
    constructor
    · intro same
      rw [List.inj_on_of_nodup_map distinct listed (self_sibling reads) same]
    · intro same
      exact run_id_inj (congrArg RunView.id same)
  · intro sibling listed path added removed
    rw [mem_file_runs keyed, changed_mem_edges, mem_files reads]
    exact and_iff_left (List.mem_map_of_mem listed)

def shopRun : FlowRun where
  id := ⟨1⟩
  ticketSystem := "azure_devops"
  ticketId := "50"
  workflowId := "kuwarden-azure_devops-50-r3"
  status := "failed"
  riskTier := .low
  parentRunId := none
  createdAt := 0
  endedAt := some 40

/-- The run that took over from it. -/
def followUp : FlowRun :=
  { shopRun with
    id := ⟨2⟩
    workflowId := "kuwarden-azure_devops-50-r5"
    status := "succeeded"
    riskTier := .medium
    parentRunId := some ⟨1⟩
    createdAt := 60
    endedAt := some 90 }

/-- Both pushed, and both changed one file; a run of another ticket changed it too. -/
def shopTables : Tables where
  flowRuns := [(⟨7⟩, shopRun), (⟨7⟩, followUp),
    (⟨7⟩, { shopRun with id := ⟨3⟩, ticketId := "51", workflowId := "" })]
  runFiles := [⟨⟨1⟩, "components/Header.tsx", 3, 1⟩, ⟨⟨2⟩, "components/Header.tsx", 5, 2⟩,
    ⟨⟨2⟩, "components/Header.test.tsx", 12, 0⟩, ⟨⟨3⟩, "components/Header.tsx", 1, 1⟩]
  pushes := [⟨⟨1⟩, .branchPushed "kuwarden/50" (some "c1") (some "b0") 0 []⟩,
    ⟨⟨2⟩, .branchPushed "kuwarden/50" (some "c2") (some "b0") 1 []⟩]
  appRegistry := [(⟨7⟩, "shop")]

/-- What `run_graph` is answered for the second run. -/
def followUpRead : Fetched where
  run := some followUp
  siblings := [shopRun, followUp]
  files := [⟨⟨2⟩, "components/Header.test.tsx", 12, 0⟩, ⟨⟨1⟩, "components/Header.tsx", 3, 1⟩,
    ⟨⟨2⟩, "components/Header.tsx", 5, 2⟩]
  pushes := shopTables.pushes

theorem run_graph_faithful_shop :
    ∃ graph, runGraph toString followUpRead = .ok graph ∧
      Faithful shopTables followUp [shopRun, followUp] graph := by
  exact @run_graph_faithful _ followUp shopTables ⟨7⟩ _ ⟨by decide, by decide, by decide⟩
    ⟨rfl, .tail _ (.head _), .refl _, by decide, .refl _⟩

end

end KuWarden.Api.Graph
