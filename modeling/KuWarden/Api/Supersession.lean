import KuWarden.Api.Hook
import KuWarden.Process.Execute

/-!
Supersession: which runs the hook starts for one work item, whatever order the revisions
arrive in and whenever the workers write their rows.

The delivery log names the run it started by a key into `flow_runs`. A delivery can
therefore be logged as started only once a worker has written the run's row, and until then
the guard has nothing to read of that run.
-/
namespace KuWarden.Api.Hook

open Process

/-- A started workflow, and, once its worker has written it, its row in `flow_runs`. -/
structure Workflow where
  runId : UUID
  appId : UUID
  ticketId : String
  workflowId : String
  deriving DecidableEq

structure Database where
  runs : List Workflow := []
  deliveries : List DeliveryRow := []
  references : ∀ row ∈ deliveries, ∀ id ∈ row.runId, ∃ run ∈ runs, run.runId = id := by simp

namespace Database

/-- `INSERT INTO trigger_deliveries`, which fails on a run without a row. -/
def insert (db : Database) (row : DeliveryRow) : Option Database :=
  if known : ∀ id ∈ row.runId, ∃ run ∈ db.runs, run.runId = id then
    some {
      runs := db.runs
      deliveries := db.deliveries ++ [row]
      references := by
        intro row' mem
        rcases List.mem_append.mp mem with mem | mem
        · exact db.references row' mem
        · rw [List.mem_singleton.mp mem]
          exact known }
  else none

/-- `INSERT INTO flow_runs … ON CONFLICT (id) DO NOTHING`. -/
def record (db : Database) (run : Workflow) : Database :=
  if db.runs.any fun row => row.runId = run.runId then db
  else {
    runs := db.runs ++ [run]
    deliveries := db.deliveries
    references := by
      intro row mem id named
      obtain ⟨run', mem', same⟩ := db.references row mem id named
      exact ⟨run', List.mem_append_left _ mem', same⟩ }

/-- `SELECT max(revision) FROM trigger_deliveries WHERE … AND started`. -/
def delivered (db : Database) (appId : UUID) (workItem : String) : Option Int :=
  ((db.deliveries.filter fun row =>
    row.appId = appId ∧ row.workItem = workItem ∧ row.started).map
      DeliveryRow.revision).max?

/-- `SELECT workflow_id FROM flow_runs WHERE …`. -/
def workflowIds (db : Database) (appId : UUID) (workItem : String) : List String :=
  (db.runs.filter fun run => run.appId = appId ∧ run.ticketId = workItem).map
    Workflow.workflowId

/-- The revisions the guard can see of what was started for a work item. -/
def seen (db : Database) (appId : UUID) (workItem : String) : List Int :=
  (db.workflowIds appId workItem).filterMap revisionOf ++
    (db.delivered appId workItem).toList

theorem delivered_record (db : Database) (run : Workflow) (appId : UUID)
    (workItem : String) :
    (db.record run).delivered appId workItem = db.delivered appId workItem := by
  unfold record
  split <;> rfl

end Database

/-- The deliveries sent so far, the workflows started, in that order, and the database. -/
structure World where
  sent : List Delivery := []
  workflows : List Workflow := []
  db : Database := {}

def World.start (w : World) (request : Request) (workflowId : String) : World :=
  { w with workflows := w.workflows ++
      [⟨request.runId, request.appId, request.ticketId, workflowId⟩] }

/-- The workflow server takes this id. It goes by all workflows that ever were, as though the
server forgot none of those that have closed. -/
def Takes (w : World) (workflowId : String) (rejectDuplicate : Bool) : Prop :=
  rejectDuplicate = true → ∀ run ∈ w.workflows, run.workflowId ≠ workflowId

/-- What a call of the endpoint may answer. Every call may fail, and what failed may have
taken effect. -/
inductive Serves : Unit → World → (op : HookOp) → HookRep op → Unit → World → Prop
  | receive {w} (delivery : Delivery) :
      Serves () w .receive delivery () { w with sent := w.sent ++ [delivery] }
  | fetchTrigger {w appId} (reply : Except PyError (Option Trigger)) :
      Serves () w (.fetchTrigger appId) reply () w
  | fetchDelivered {w appId item} :
      Serves () w (.fetchDelivered appId item) (.ok (w.db.delivered appId item)) () w
  | fetch_delivered_failed {w appId item} (exc : PyError) :
      Serves () w (.fetchDelivered appId item) (.error exc) () w
  | fetchWorkflowIds {w appId item} :
      Serves () w (.fetchWorkflowIds appId item) (.ok (w.db.workflowIds appId item)) () w
  | fetch_workflow_ids_failed {w appId item} (exc : PyError) :
      Serves () w (.fetchWorkflowIds appId item) (.error exc) () w
  | connect {w} (reply : Except PyError Unit) : Serves () w .connect reply () w
  | resolveConfig {w appId} (reply : Except PyError AppConfig) :
      Serves () w (.resolveConfig appId) reply () w
  | uuid4 {w} (id : UUID) : Serves () w .uuid4 id () w
  | started {w request governs id reject} : Takes w id reject →
      Serves () w (.startWorkflow request governs id reject) (.ok ()) () (w.start request id)
  | start_duplicate {w request governs id} : (∃ run ∈ w.workflows, run.workflowId = id) →
      Serves () w (.startWorkflow request governs id true) (.error .alreadyStarted) () w
  | start_failed {w request governs id reject} (exc : PyError) :
      Serves () w (.startWorkflow request governs id reject) (.error (.failed exc)) () w
  | start_lost {w request governs id reject} (exc : PyError) : Takes w id reject →
      Serves () w (.startWorkflow request governs id reject) (.error (.failed exc)) ()
        (w.start request id)
  | inserted {w row db} : w.db.insert row = some db →
      Serves () w (.insertDelivery row) (.ok ()) () { w with db := db }
  | insert_failed {w row} (exc : PyError) :
      Serves () w (.insertDelivery row) (.error exc) () w
  | insert_lost {w row db} (exc : PyError) : w.db.insert row = some db →
      Serves () w (.insertDelivery row) (.error exc) () { w with db := db }

/-- A worker writes the row of a run, or another caller starts a workflow. -/
inductive HookMove
  | recorded (run : Workflow)
  | elsewhere (run : Workflow)

/-- What goes on while the endpoint waits. Ids of other callers have another form. -/
inductive Moves (appId : UUID) : Unit → World → HookMove → Unit → World → Prop
  | recorded {w run} : run ∈ w.workflows →
      Moves appId () w (.recorded run) () { w with db := w.db.record run }
  | elsewhere {w run} : (∀ item r, run.workflowId ≠ hookWorkflowId appId item r) →
      Moves appId () w (.elsewhere run) () { w with workflows := w.workflows ++ [run] }

def system (appId : UUID) : System Unit World HookOp HookRep HookMove where
  serve := Serves
  env := Moves appId

/-! ## The order of the runs -/

/-- A run was started for this revision of the work item. -/
def Launched (appId : UUID) (item : String) (r : Int) (w : World) : Prop :=
  ∃ run ∈ w.workflows, run.workflowId = hookWorkflowId appId item r

/-- The revisions of the runs started for a work item are strictly increasing. -/
def Increasing (appId : UUID) (item : String) (w : World) : Prop :=
  w.workflows.Pairwise fun early late => ∀ q r,
    early.workflowId = hookWorkflowId appId item q →
    late.workflowId = hookWorkflowId appId item r → q < r

/-- Where the guard reads `flow_runs` for a delivery that is older than a run already
started, it can see of some run that it is not older than the delivery. -/
def Sighted (appId : UUID) (_ : Unit) (w : World) : HookOp → Prop
  | .fetchWorkflowIds _ item => ∀ delivery update, w.sent.getLast? = some delivery →
      readUpdate delivery.payload = .ok update → update.item = item →
      (∃ q, update.revision < q ∧ Launched appId item q w) →
      ∃ q ∈ w.db.seen appId item, update.revision ≤ q
  | _ => True

section Ids

variable {appId : UUID} {item item' : String} {q r : Int}

theorem toList_hook_workflow_id : (hookWorkflowId appId item r).toList =
    ("kuwarden-ado-".toList ++ appId.text.toList ++ ['-']) ++
      (item.toList ++ ['-']) ++ 'r' :: (Text.ofInt r).toList := by
  have parts : hookWorkflowId appId item r =
      "kuwarden-ado-" ++ appId.text ++ "-" ++ item ++ "-r" ++ Text.ofInt r := rfl
  rw [parts]
  simp only [String.toList_append, List.append_assoc]
  rfl

theorem no_r {n : Int} : 'r' ∉ (Text.ofInt n).toList := by
  intro mem
  rcases Text.mem_ofInt mem with minus | digit
  · exact absurd minus (by decide)
  · exact absurd digit (by decide)

/-- An id names its work item and its revision. -/
theorem hook_workflow_id_inj
    (same : hookWorkflowId appId item q = hookWorkflowId appId item' r) :
    item = item' ∧ q = r := by
  have chars := congrArg String.toList same
  rw [toList_hook_workflow_id, toList_hook_workflow_id] at chars
  obtain ⟨front, number⟩ := Text.append_cons_inj no_r no_r chars
  have items := List.append_cancel_left front
  exact ⟨String.toList_inj.mp (List.append_cancel_right items), Text.ofInt_inj number⟩

theorem isDecimal_ofNat {n : Nat} {c : Char} (mem : c ∈ (Text.ofNat n).toList) :
    Unicode.isDecimal c = true :=
  Unicode.isDecimal_of_isDigit (Text.isDigit_ofNat mem)

theorem digitsValue_ofNat (n : Nat) : Value.digitsValue (Text.ofNat n).toList = n := by
  have read : (Text.ofNat n).toList.filterMap Unicode.decimal? =
      (Text.ofNat n).toList.map fun c => c.toNat - 48 := by
    rw [← List.filterMap_eq_map]
    exact List.filterMap_congr fun c mem => Unicode.decimal?_of_isDigit (Text.isDigit_ofNat mem)
  unfold Value.digitsValue
  rw [read, List.foldl_map, Text.toList_ofNat]
  exact Nat.ofDigitChars_eq_foldl.symm.trans Nat.ofDigitChars_ten_toDigits

/-- The revision is read back out of the id it was written into. -/
theorem revision_of_hook_workflow_id {n : Nat} (line : '\n' ∉ item.toList) :
    revisionOf (hookWorkflowId appId item n) = some (n : Int) := by
  have digits : ∀ c ∈ (Text.ofNat n).toList.reverse, Unicode.isDecimal c = true :=
    fun c mem => isDecimal_ofNat (List.mem_reverse.mp mem)
  have some_digit : (Text.ofNat n).toList ≠ [] := by
    rw [Text.toList_ofNat]
    exact Nat.toDigits_ne_nil
  have backwards : (hookWorkflowId appId item n).toList.reverse =
      (Text.ofNat n).toList.reverse ++ 'r' :: '-' ::
        ("kuwarden-ado-".toList ++ (appId.text.toList ++ '-' :: item.toList)).reverse := by
    rw [toList_hook_workflow_id, show Text.ofInt n = Text.ofNat n from rfl]
    simp only [List.reverse_append, List.reverse_cons, List.append_assoc, List.nil_append,
      List.cons_append]
  have no_break : '\n' ∉ appId.text.toList ++ '-' :: item.toList := by
    simp only [List.mem_append, List.mem_cons, not_or]
    exact ⟨appId.no_break, by decide, line⟩
  have taken : ((hookWorkflowId appId item n).toList.reverse).takeWhile Unicode.isDecimal =
      (Text.ofNat n).toList.reverse := by
    rw [backwards, List.takeWhile_append_of_pos digits]
    exact List.append_nil _
  have dropped : ((hookWorkflowId appId item n).toList.reverse).dropWhile Unicode.isDecimal =
      'r' :: '-' ::
        ("kuwarden-ado-".toList ++ (appId.text.toList ++ '-' :: item.toList)).reverse := by
    rw [backwards, List.dropWhile_append_of_pos digits]
    rfl
  simp only [revisionOf, taken, dropped, List.reverse_reverse, List.drop_left]
  rw [if_pos ⟨some_digit, List.prefix_append _ _, by simp, no_break⟩, digitsValue_ofNat]

end Ids

section Runs

variable {appId : UUID} {item item' : String} {r : Int} {w w' : World}

/-- Nothing was started for a revision above this one. -/
def AtMost (appId : UUID) (item : String) (r : Int) (w : World) : Prop :=
  ∀ q, Launched appId item q w → q ≤ r

/-- The step: a start under an id that was never used keeps the order, unless a later
revision was started before. -/
theorem increasing_start {request : Request} (increasing : ∀ item, Increasing appId item w)
    (atMost : AtMost appId item r w) (takes : Takes w (hookWorkflowId appId item r) true)
    (item' : String) :
    Increasing appId item' (w.start request (hookWorkflowId appId item r)) := by
  refine List.pairwise_append.mpr ⟨increasing item', List.pairwise_singleton _ _, ?_⟩
  intro early mem late last q r' named named'
  rw [List.mem_singleton.mp last] at named'
  obtain ⟨rfl, rfl⟩ := hook_workflow_id_inj named'
  have le : q ≤ r := atMost q ⟨early, mem, named⟩
  have ne : q ≠ r := by
    rintro rfl
    exact takes rfl early mem named
  omega

theorem launched_moved {l : HookMove} {q : Int} (moved : Moves appId () w l () w') :
    Launched appId item q w' ↔ Launched appId item q w := by
  cases moved with
  | recorded mem => exact Iff.rfl
  | elsewhere other =>
      simp only [Launched, List.mem_append, List.mem_singleton, or_and_right, exists_or,
        exists_eq_left, other item q, or_false]

theorem increasing_moved {l : HookMove} (moved : Moves appId () w l () w')
    (increasing : Increasing appId item w) : Increasing appId item w' := by
  cases moved with
  | recorded mem => exact increasing
  | elsewhere other =>
      refine List.pairwise_append.mpr ⟨increasing, List.pairwise_singleton _ _, ?_⟩
      intro early mem late last q r named named'
      rw [List.mem_singleton.mp last] at named'
      exact absurd named' (other item r)

/-! ## One request -/

def InOrder (appId : UUID) : Assertion Unit World HookOp HookRep HookMove :=
  fun _ w _ => ∀ item, Increasing appId item w

/-- What is known of the world while a delivery is dealt with: nobody else delivers. -/
structure Handling (appId : UUID) (delivery : Delivery) (w : World) : Prop where
  increasing : ∀ item, Increasing appId item w
  current : w.sent.getLast? = some delivery

theorem Handling.moved {delivery : Delivery} {l : HookMove} (held : Handling appId delivery w)
    (moved : Moves appId () w l () w') : Handling appId delivery w' where
  increasing item := increasing_moved moved (held.increasing item)
  current := by cases moved <;> exact held.current

variable {α : Type} {h : History HookOp HookRep HookMove}

/-- A call, made and answered where the environment keeps `P`. -/
theorem ask_wp {op : HookOp} {P : World → Prop}
    {Q : Except ApiExc (HookRep op) → Assertion Unit World HookOp HookRep HookMove}
    (held : P w) (moved : ∀ {w l w'}, P w → Moves appId () w l () w' → P w')
    (ordered : ∀ {w}, P w → ∀ item, Increasing appId item w)
    (served : ∀ {w r w' h}, P w → Sighted appId () w op → Serves () w op r () w' →
      Q (.ok r) () w' h) :
    (ask op).wp ((system appId).under (Sighted appId)) (InOrder appId) Q () w h := by
  refine Task.wp_call.mpr ?_
  intro s' w' h' drift
  have held' : P w' := by
    clear served
    induction drift with
    | refl => exact held
    | step _ last ih => exact moved ih last
  exact ⟨ordered held', fun r s'' w'' answered => served held' answered.1 answered.2⟩

/-- A revision that the guard sees supersedes every delivery that is not newer. -/
theorem superseded_of_seen {db : Database} {q : Int} (seen : q ∈ db.seen appId item)
    (le : r ≤ q) : ((db.seen appId item).max?.filter (r ≤ ·)) ≠ none := by
  cases largest : (db.seen appId item).max? with
  | none =>
      rw [List.max?_eq_none_iff.mp largest] at seen
      cases seen
  | some m =>
      have le' : q ≤ m := (List.max?_eq_some_iff.mp largest).2 q seen
      simp [Option.filter, le.trans le']

/-- The guard lets a delivery pass only if nothing was started above its revision. -/
theorem superseded_by_wp {delivery : Delivery} {update : Update}
    (read : readUpdate delivery.payload = .ok update)
    (held : Handling appId delivery w) :
    (supersededBy appId update.item update.revision).wp
      ((system appId).under (Sighted appId)) (InOrder appId)
      (fun superseded _ w _ => (∀ item, Increasing appId item w) ∧
        (superseded = .ok none → AtMost appId update.item update.revision w)) () w h := by
  refine Task.wp_bind.mpr (ask_wp held (fun held moved => held.moved moved)
    (fun held => held.increasing) ?_)
  intro w r w' h held _ served
  rw [Task.andThen_ok, Task.wp_bind, Task.wp_ofExcept]
  cases served with
  | fetch_delivered_failed exc => exact ⟨held.increasing, fun absurd => by cases absurd⟩
  | fetchDelivered =>
      -- The delivery log stays as it was read: only the hook writes it.
      refine Task.wp_bind.mpr (ask_wp (P := fun w₁ => Handling appId delivery w₁ ∧
          w₁.db.delivered appId update.item = w.db.delivered appId update.item)
        ⟨held, rfl⟩ ?_ (fun held => held.1.increasing) ?_)
      · rintro w₁ l w₂ ⟨held, same⟩ moved
        refine ⟨held.moved moved, ?_⟩
        cases moved with
        | recorded mem => exact (Database.delivered_record ..).trans same
        | elsewhere other => exact same
      · rintro w₁ r w₂ h ⟨held, same⟩ sighted served
        rw [Task.andThen_ok, Task.wp_bind, Task.wp_ofExcept]
        cases served with
        | fetch_workflow_ids_failed exc =>
            exact ⟨held.increasing, fun absurd => by cases absurd⟩
        | fetchWorkflowIds =>
            refine ⟨held.increasing, fun passed q launched => ?_⟩
            by_contra above
            obtain ⟨q', seen, le⟩ := sighted delivery update held.current read rfl
              ⟨q, not_le.mp above, launched⟩
            refine superseded_of_seen seen le ?_
            unfold Database.seen
            rw [same]
            exact Except.ok.inj passed

theorem delivered_wp {row : DeliveryRow} {workflowId : Option String}
    (increasing : ∀ item, Increasing appId item w) :
    (delivered row workflowId).wp ((system appId).under (Sighted appId)) (InOrder appId)
      (fun _ => InOrder appId) () w h := by
  refine Task.wp_bind.mpr (ask_wp (P := fun w => ∀ item, Increasing appId item w) increasing
    (fun held moved item => increasing_moved moved (held item)) (fun held => held) ?_)
  intro w r w' h held _ served
  cases served <;> exact held

theorem ignored_wp {revision : Int} {reason : String}
    (increasing : ∀ item, Increasing appId item w) :
    (ignored appId item revision reason).wp ((system appId).under (Sighted appId))
      (InOrder appId) (fun _ => InOrder appId) () w h :=
  delivered_wp increasing

/-- Nothing above this revision was started, and the order stands. -/
def Cleared (appId : UUID) (item : String) (r : Int) (w : World) : Prop :=
  (∀ item, Increasing appId item w) ∧ AtMost appId item r w

theorem Cleared.moved {l : HookMove} (held : Cleared appId item r w)
    (moved : Moves appId () w l () w') : Cleared appId item r w' :=
  ⟨fun item => increasing_moved moved (held.1 item),
    fun q launched => held.2 q ((launched_moved moved).mp launched)⟩

/-- A call that starts nothing, made while nothing newer was started. -/
theorem ask_cleared {op : HookOp} (cleared : Cleared appId item r w)
    (calm : ∀ {w r w'}, Serves () w op r () w' → w'.workflows = w.workflows) :
    (ask op).wp ((system appId).under (Sighted appId)) (InOrder appId)
      (fun _ _ w _ => Cleared appId item r w) () w h := by
  refine ask_wp cleared (fun held moved => held.moved moved) (fun held => held.1) ?_
  intro w reply w' h held _ served
  have same := calm served
  refine ⟨fun item => ?_, fun q launched => held.2 q ?_⟩
  · have order := held.1 item
    unfold Increasing at order ⊢
    rwa [same]
  · unfold Launched at launched ⊢
    rwa [same] at launched

theorem launch_wp {provider appName : String} (cleared : Cleared appId item r w) :
    (launch appId item provider (hookWorkflowId appId item r) appName true).wp
      ((system appId).under (Sighted appId)) (InOrder appId)
      (fun _ => InOrder appId) () w h := by
  refine Task.wp_bind.mpr (Task.wp_mono (ask_cleared cleared ?_) ?_)
  · intro w r w' served
    cases served
    rfl
  intro resolved s w h cleared
  cases resolved with
  | error exc => exact cleared.1
  | ok resolved =>
      rw [Task.andThen_ok, Task.wp_bind, Task.wp_ofExcept]
      cases raising (governing resolved) with
      | error exc => exact cleared.1
      | ok governs =>
          refine Task.wp_bind.mpr (Task.wp_mono (ask_cleared cleared ?_) ?_)
          · intro w r w' served
            cases served
            rfl
          intro id s w h cleared
          cases id with
          | error exc => exact cleared.1
          | ok runId =>
              refine Task.wp_bind.mpr (ask_wp cleared (fun held moved => held.moved moved)
                (fun held => held.1) ?_)
              intro w reply w' h held _ served
              cases served with
              | started takes => exact increasing_start held.1 held.2 takes
              | start_duplicate known => exact held.1
              | start_failed exc => exact held.1
              | start_lost exc takes => exact increasing_start held.1 held.2 takes

theorem start_wp {trigger : Trigger} {delivery : Delivery} {update : Update}
    (read : readUpdate delivery.payload = .ok update)
    (held : Handling appId delivery w) :
    (start appId trigger update.item update.revision).wp
      ((system appId).under (Sighted appId)) (InOrder appId)
      (fun _ => InOrder appId) () w h := by
  refine Task.wp_bind.mpr (Task.wp_mono (superseded_by_wp read held) ?_)
  rintro superseded s w h ⟨increasing, passed⟩
  match superseded with
  | .error exc => exact increasing
  | .ok (some newest) => exact ignored_wp increasing
  | .ok none =>
      refine Task.wp_bind.mpr (Task.wp_mono
        (ask_cleared (show Cleared appId update.item update.revision w from
          ⟨increasing, passed rfl⟩) ?_) ?_)
      · intro w r w' served
        cases served
        rfl
      intro connected s w h cleared
      match connected with
      | .error exc => exact cleared.1
      | .ok (.error exc) => exact cleared.1
      | .ok (.ok _) =>
          refine Task.wp_bind.mpr (Task.wp_mono (launch_wp cleared) ?_)
          intro launched s w h increasing
          match launched with
          | .error exc => exact increasing
          | .ok (.ok (runId, workflowId)) => exact delivered_wp increasing
          | .ok (.error .alreadyStarted) => exact ignored_wp increasing
          | .ok (.error (.failed exc)) => exact increasing

/-- What the checks admit, they read in the payload. -/
theorem read_of_examine {found : Option Trigger} {trigger : Trigger} {payload : Dict}
    {item : String} {revision : Int}
    (admitted : examine found payload = .ok (trigger, .admitted item revision)) :
    ∃ update, readUpdate payload = .ok update ∧ update.item = item ∧
      update.revision = revision := by
  unfold examine at admitted
  cases found with
  | none => cases admitted
  | some found =>
      dsimp only at admitted
      split at admitted
      · cases admitted
      obtain ⟨update, read, admitted⟩ := Config.of_bind_ok admitted
      obtain ⟨changed, -, admitted⟩ := Config.of_bind_ok admitted
      obtain ⟨stateChange, -, admitted⟩ := Config.of_bind_ok admitted
      split_ifs at admitted with still other unlabelled
      · cases admitted
      · cases admitted
      all_goals
        obtain ⟨labels, -, admitted⟩ := Config.of_bind_ok admitted
        split_ifs at admitted
        · cases admitted
        · cases admitted
          exact ⟨update, read, rfl, rfl⟩

theorem hook_wp {secret : String} {delivery : Delivery}
    (held : Handling appId delivery w) :
    (azureDevopsHook secret appId delivery).wp
      ((system appId).under (Sighted appId)) (InOrder appId)
      (fun _ => InOrder appId) () w h := by
  refine Task.wp_bind.mpr (Task.wp_ofExcept _ |>.mpr ?_)
  cases authenticate secret delivery.token with
  | error exc => exact held.increasing
  | ok _ =>
      rw [Task.andThen_ok]
      dsimp only
      split
      · exact ignored_wp held.increasing
      · refine Task.wp_bind.mpr (ask_wp held (fun held moved => held.moved moved)
          (fun held => held.increasing) ?_)
        intro w found w' h held _ served
        cases served
        rw [Task.andThen_ok, Task.wp_bind, Task.wp_ofExcept]
        cases raising found with
        | error exc => exact held.increasing
        | ok found =>
            rw [Task.andThen_ok, Task.wp_bind, Task.wp_ofExcept]
            match examined : examine found delivery.payload with
            | .error exc => exact held.increasing
            | .ok (_, .refused item revision reason) => exact ignored_wp held.increasing
            | .ok (trigger, .admitted item revision) =>
                obtain ⟨update, read, rfl, rfl⟩ := read_of_examine examined
                exact start_wp read held

theorem serve_wp (secret : String) (n : Nat) (increasing : ∀ item, Increasing appId item w) :
    (serve secret appId n).wp ((system appId).under (Sighted appId)) (InOrder appId)
      (fun _ => InOrder appId) () w h := by
  induction n generalizing w h with
  | zero => exact increasing
  | succ n ih =>
      refine Task.wp_bind.mpr (ask_wp (P := fun w => ∀ item, Increasing appId item w)
        increasing (fun held moved item => increasing_moved moved (held item))
        (fun held => held) ?_)
      intro w (delivery : Delivery) w' h held _ served
      cases served
      have handling : Handling appId delivery { w with sent := w.sent ++ [delivery] } :=
        ⟨held, List.getLast?_concat⟩
      refine Task.wp_bind.mpr (Task.wp_attempt.mpr (Task.wp_mono (hook_wp handling) ?_))
      intro answer s w h increasing
      exact ih increasing

end Runs

/-- However the deliveries come and however late the workers are: while the guard can see,
for a delivery that is older than a started run, that such a run was started, the revisions
of the runs started for a work item are strictly increasing. -/
theorem increasing_of_sighted {secret : String} {appId : UUID} {n : Nat}
    {c : Config Unit World HookOp HookRep HookMove (Except ApiExc Unit)}
    (run : ((system appId).under (Sighted appId)).Reaches
      (.launch (serve secret appId n ()) {} []) c) (item : String) :
    Increasing appId item c.world := by
  have start : ∀ item, Increasing appId item {} := fun _ => .nil
  have sound := wp_sound (serve_wp secret n start) run
  split at sound <;> exact sound item

/-! ## Two deliveries, with a worker that writes and one that does not -/

def shop : UUID := ⟨7⟩

def movedToReady (revision : Int) : Delivery where
  token := "s3cret"
  payload := [
    (.str "eventType", .str "workitem.updated"),
    (.str "resource", .dict [
      (.str "workItemId", .int 52),
      (.str "rev", .int revision),
      (.str "fields", .dict [
        (.str "System.State", .dict [(.str "newValue", .str "Ready for Agent")])])])]

/-- The worker, when there is one, writes a run's row before its delivery is logged. -/
def rowMove (worker : Bool) (w : World) : HookOp → Option (HookMove × Unit × World)
  | .insertDelivery _ =>
      match w.workflows.find? fun run => worker && !w.db.runs.contains run with
      | some run => some (.recorded run, (), { w with db := w.db.record run })
      | none => none
  | _ => none

theorem rowMove_moves {worker : Bool} {appId : UUID} {w w' : World} {op : HookOp}
    {s' : Unit} {l : HookMove} (moved : rowMove worker w op = some (l, s', w')) :
    Moves appId () w l s' w' := by
  cases op with
  | insertDelivery row =>
      simp only [rowMove] at moved
      split at moved
      next run found => cases moved; exact .recorded (List.mem_of_find?_eq_some found)
      next => cases moved
  | _ => cases moved

def foreignKey : PyError :=
  ⟨.runtimeError, "insert or update violates foreign key constraint", none⟩

def answer (deliveries : List Delivery) (w : World) :
    (op : HookOp) → Option (HookRep op × Unit × World)
  | .receive =>
      match deliveries[w.sent.length]? with
      | some delivery => some (delivery, (), { w with sent := w.sent ++ [delivery] })
      | none => none
  | .fetchTrigger _ => some (.ok (some ⟨none, some "Ready for Agent", "shop"⟩), (), w)
  | .fetchDelivered appId item => some (.ok (w.db.delivered appId item), (), w)
  | .fetchWorkflowIds appId item => some (.ok (w.db.workflowIds appId item), (), w)
  | .connect => some (.ok (), (), w)
  | .resolveConfig _ => some (.error ⟨.configError, "not found", none⟩, (), w)
  | .uuid4 => some (⟨BitVec.ofNat 128 w.workflows.length⟩, (), w)
  | .startWorkflow request _ id reject =>
      if w.workflows.any fun run => run.workflowId = id then
        if reject then some (.error .alreadyStarted, (), w) else none
      else some (.ok (), (), w.start request id)
  | .insertDelivery row =>
      match w.db.insert row with
      | some db => some (.ok (), (), { w with db := db })
      | none => some (.error foreignKey, (), w)

theorem answer_serves {deliveries : List Delivery} {w w' : World} {op : HookOp}
    {r : HookRep op} {s' : Unit} (answered : answer deliveries w op = some (r, s', w')) :
    Serves () w op r s' w' := by
  cases op with
  | receive =>
      simp only [answer] at answered
      split at answered
      next => cases answered; exact .receive _
      next => cases answered
  | fetchTrigger | fetchDelivered | fetchWorkflowIds | connect | resolveConfig | uuid4 =>
      cases answered
      constructor
  | startWorkflow request governs id reject =>
      simp only [answer] at answered
      split_ifs at answered with known rejects
      · subst rejects
        cases answered
        exact .start_duplicate (by simpa using known)
      · cases answered
        exact .started fun _ => by simpa using known
  | insertDelivery row =>
      simp only [answer] at answered
      split at answered
      next db inserted => cases answered; exact .inserted inserted
      next => cases answered; exact .insert_failed foreignKey

def schedule (worker : Bool) (deliveries : List Delivery) : Schedule (system shop) where
  move _ w op := rowMove worker w op
  answer _ w op := answer deliveries w op
  move_env := rowMove_moves
  answer_serve := answer_serves

/-- Whether the guard sees a run that is not older than the delivery in hand. -/
def sees (appId : UUID) (w : World) : HookOp → Bool
  | .fetchWorkflowIds _ item =>
      w.workflows.isEmpty || match w.sent.getLast? with
        | some delivery =>
            match readUpdate delivery.payload with
            | .ok update => (w.db.seen appId item).any (update.revision ≤ ·)
            | .error _ => true
        | none => true
  | _ => true

theorem sighted_of_sees {appId : UUID} {w : World} {op : HookOp}
    (sees : sees appId w op = true) : Sighted appId () w op := by
  cases op with
  | fetchWorkflowIds appId' item =>
      rintro delivery update current read - ⟨q, -, run, mem, -⟩
      simp only [Hook.sees, current, read, Bool.or_eq_true, List.isEmpty_iff] at sees
      rcases sees with none | seen
      · rw [none] at mem
        cases mem
      · simpa using seen
  | _ => trivial

def watchful (deliveries : List Delivery) :
    Schedule ((system shop).under (Sighted shop)) where
  move _ w op := rowMove true w op
  answer _ w op := if sees shop w op then answer deliveries w op else none
  move_env := rowMove_moves
  answer_serve := by
    intro s w op r s' w' answered
    split_ifs at answered with sees
    exact ⟨sighted_of_sees sees, answer_serves answered⟩

theorem increasing_of_sighted_prompt :
    Increasing shop "52" ((watchful [movedToReady 6, movedToReady 2]).play 30
      (.launch (serve "s3cret" shop 2 ()) {} [])).world :=
  increasing_of_sighted (Schedule.play_reaches _ _ _) "52"

/-- No worker writes a row: revision 2 is run after revision 6. -/
theorem older_revision_started : ∃ c : Config Unit World HookOp HookRep HookMove
      (Except ApiExc Unit),
    (system shop).Reaches (.launch (serve "s3cret" shop 2 ()) {} []) c ∧
      ¬ Increasing shop "52" c.world := by
  refine ⟨_, (schedule false [movedToReady 6, movedToReady 2]).play_reaches 30 _, ?_⟩
  intro increasing
  have started : (((schedule false [movedToReady 6, movedToReady 2]).play 30
      (.launch (serve "s3cret" shop 2 ()) {} [])).world.workflows.map Workflow.workflowId) =
      [hookWorkflowId shop "52" 6, hookWorkflowId shop "52" 2] := by
    decide +kernel
  have order : (((schedule false [movedToReady 6, movedToReady 2]).play 30
      (.launch (serve "s3cret" shop 2 ()) {} [])).world.workflows.map
        Workflow.workflowId).Pairwise fun early late => ∀ q r : Int,
      early = hookWorkflowId shop "52" q → late = hookWorkflowId shop "52" r → q < r :=
    List.pairwise_map.mpr increasing
  rw [started] at order
  have newer : (6 : Int) < 2 := (List.pairwise_cons.mp order).1 _ List.mem_cons_self 6 2 rfl rfl
  omega

end KuWarden.Api.Hook
