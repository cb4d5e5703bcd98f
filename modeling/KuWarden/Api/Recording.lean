import KuWarden.Api.Hook
import KuWarden.Process.Follow

/-!
The delivery log: what one request to the service hook leaves in `trigger_deliveries`.

No call is made twice for one request, so what is outside is given by its answers. The database
is up; what it refuses is a row it cannot hold.
-/
namespace KuWarden.Api.Hook

open Process Task

/-- The range of `INT`. -/
def int4 (n : Int) : Bool := -2 ^ 31 ≤ n ∧ n < 2 ^ 31

/-- What the workflow server made of the request to start a run. -/
inductive LaunchOutcome
  | started
  | alreadyStarted
  | failed (exc : PyError) (tookEffect : Bool)

def LaunchOutcome.reply : LaunchOutcome → Except StartRefused Unit
  | .started => .ok ()
  | .alreadyStarted => .error .alreadyStarted
  | .failed exc _ => .error (.failed exc)

/-- Whether it started a run for this request. -/
def LaunchOutcome.tookEffect : LaunchOutcome → Bool
  | .started => true
  | .alreadyStarted => false
  | .failed _ tookEffect => tookEffect

/-- What a request to an application finds that has an azure_devops trigger with a ready state.
`recorded` is whether the worker has written the started run to `flow_runs` by the time the
delivery is inserted, `refused` what the driver raises for a statement the database refuses.

A payload may hold lone surrogates, which no driver encodes and which Lean's characters leave out:
what stands for them are characters that `encodes` is false of and that are not printable. -/
structure Outside where
  trigger : Trigger
  ready : trigger.readyState.getD "" ≠ ""
  delivered : Option Int
  workflowIds : List String
  connects : Except PyError Unit
  resolved : Except PyError AppConfig
  runId : UUID
  launched : LaunchOutcome
  recorded : Bool
  refused : PyError
  encodes : Char → Bool
  hidden : ∀ c, encodes c = false → Unicode.printable c = false

namespace Outside

/-- A text the database can hold. -/
def clean (outside : Outside) (s : String) : Bool :=
  s.toList.all fun c => c ≠ Char.ofNat 0 && outside.encodes c

/-- Whether the row can be inserted: `run_id` refers to a row of `flow_runs`. -/
def holds (outside : Outside) (row : DeliveryRow) : Bool :=
  outside.clean row.workItem && row.reason.all outside.clean && int4 row.revision &&
    (row.runId.isNone || outside.recorded)

def about {α : Type} (outside : Outside) (workItem : String) (a : α) : Except PyError α :=
  if outside.clean workItem then .ok a else .error outside.refused

def reply (outside : Outside) : (op : HookOp) → HookRep op
  | .receive => ({ payload := [] } : Delivery)
  | .fetchTrigger _ => (.ok (some outside.trigger) : Except PyError (Option Trigger))
  | .fetchDelivered _ workItem => outside.about workItem outside.delivered
  | .fetchWorkflowIds _ workItem => outside.about workItem outside.workflowIds
  | .connect => outside.connects
  | .resolveConfig _ => outside.resolved
  | .uuid4 => outside.runId
  | .startWorkflow _ _ _ _ => outside.launched.reply
  | .insertDelivery row =>
      (if outside.holds row then .ok () else .error outside.refused : Except PyError Unit)

/-- A revision at least as new is recorded as started, or was launched. -/
def supersedes (outside : Outside) (revision : Int) : Bool :=
  (outside.workflowIds.filterMap revisionOf ++ outside.delivered.toList).any (revision ≤ ·)

/-- The engine is reached and answers: that it has started the run, which the worker has
already recorded, or that it had before. -/
def launches (outside : Outside) : Prop :=
  outside.connects = .ok () ∧ (∃ governs, governing outside.resolved = .ok governs) ∧
    match outside.launched with
    | .started => outside.recorded = true
    | .alreadyStarted => True
    | .failed _ _ => False

end Outside

/-- The rows that calls leave. -/
def inserted (outside : Outside) (ops : List HookOp) : List DeliveryRow :=
  ops.filterMap fun
    | .insertDelivery row => if outside.holds row then some row else none
    | _ => none

/-- Whether a run was started by one of the calls. -/
def starts (outside : Outside) (ops : List HookOp) : Bool :=
  ops.any fun
    | .startWorkflow _ _ _ _ => outside.launched.tookEffect
    | _ => false

/-- One row is left, and it says whether a run was started. -/
def Records (outside : Outside) (ops : List HookOp) : Prop :=
  ∃ row, inserted outside ops = [row] ∧ row.started = starts outside ops

def calls (secret : String) (appId : UUID) (delivery : Delivery) (outside : Outside) :
    List HookOp :=
  asks outside.reply () (azureDevopsHook secret appId delivery)

/-- The event is another one, and can be quoted; or the payload can be read, names its work item
and revision in what the columns hold, and is refused, is superseded or is launched. -/
def Recordable (payload : Dict) (outside : Outside) : Prop :=
  let event := payload.get "eventType"
  if (event.orElse (.str "")).text ≠ "workitem.updated" then outside.clean event.repr = true
  else
    match examine (some outside.trigger) payload with
    | .error _ => False
    | .ok (_, .refused item revision _) => outside.clean item = true ∧ int4 revision = true
    | .ok (_, .admitted item revision) => outside.clean item = true ∧ int4 revision = true ∧
        (outside.supersedes revision = true ∨ outside.launches)

/-! ## What is quoted can be held -/

theorem clean_append {outside : Outside} {s t : String} : outside.clean (s ++ t) = true ↔
    outside.clean s = true ∧ outside.clean t = true := by
  simp [Outside.clean, String.toList_append]

theorem clean_of_isprintable {outside : Outside} {s : String} (printable : Text.isprintable s = true) :
    outside.clean s = true := by
  refine List.all_eq_true.mpr fun c mem => ?_
  have shown := List.all_eq_true.mp printable c mem
  have encoded : outside.encodes c = true := by
    by_contra unencoded
    rw [outside.hidden c (by simpa using unencoded)] at shown
    cases shown
  rw [encoded, Bool.and_true]
  refine decide_eq_true fun null => ?_
  rw [null] at shown
  exact absurd shown (by decide)

/-- Why a delivery is refused can always be recorded. -/
theorem isprintable_of_refused {trigger trigger' : Trigger} {payload : Dict} {item reason : String}
    {revision : Int}
    (examined : examine (some trigger) payload = .ok (trigger', .refused item revision reason)) :
    Text.isprintable reason = true := by
  unfold examine at examined
  dsimp only at examined
  split at examined
  · cases examined
  obtain ⟨update, -, examined⟩ := Config.of_bind_ok examined
  obtain ⟨changed, -, examined⟩ := Config.of_bind_ok examined
  obtain ⟨stateChange, -, examined⟩ := Config.of_bind_ok examined
  have quoted : ∀ before text after : String, Text.isprintable before = true →
      Text.isprintable after = true → Text.isprintable (before ++ Text.repr text ++ after) = true :=
    fun before text after front back => Text.isprintable_append.mpr
      ⟨Text.isprintable_append.mpr ⟨front, Text.isprintable_repr text⟩, back⟩
  split_ifs at examined with still other unlabelled
  · cases examined
    decide
  · cases examined
    exact quoted _ _ _ (by decide) (by decide)
  all_goals
    obtain ⟨labels, -, examined⟩ := Config.of_bind_ok examined
    split_ifs at examined
    · cases examined
      exact quoted _ _ _ (by decide) (by decide)
    · cases examined

/-! ## What a request leaves -/

section

variable {outside : Outside} {appId : UUID} {item : String} {revision : Int}

theorem asks_delivered (row : DeliveryRow) (workflowId : Option String) :
    asks outside.reply () (delivered row workflowId) = [.insertDelivery row] := rfl

theorem records_delivered {ops : List HookOp} {row : DeliveryRow} {workflowId : Option String}
    (before : inserted outside ops = [])
    (tells : row.started = starts outside ops) :
    Records outside (ops ++ asks outside.reply () (delivered row workflowId)) ↔
      outside.holds row = true := by
  have none_started : starts outside [HookOp.insertDelivery row] = false := rfl
  have all_started : starts outside (ops ++ [.insertDelivery row]) = starts outside ops := by
    rw [starts, List.any_append]
    exact Bool.or_false _
  have all_inserted : inserted outside (ops ++ [.insertDelivery row]) =
      if outside.holds row then [row] else [] := by
    unfold inserted at before ⊢
    rw [List.filterMap_append, before, List.nil_append]
    by_cases held : outside.holds row = true <;> simp [held]
  rw [asks_delivered, Records, all_inserted, all_started]
  by_cases held : outside.holds row = true
  · simp [held, tells]
  · simp [held]

theorem not_records {ops : List HookOp} (nothing : inserted outside ops = []) :
    ¬ Records outside ops := by
  rintro ⟨row, one, -⟩
  rw [nothing] at one
  cases one

theorem holds_ignored {reason : String} (quoted : Text.isprintable reason = true) :
    outside.holds { appId, workItem := item, revision, reason := some reason } = true ↔
      outside.clean item = true ∧ int4 revision = true := by
  simp [Outside.holds, clean_of_isprintable quoted]

/-- The guard asks about a work item that the database can hold. -/
theorem guard_of_clean (known : outside.clean item = true) :
    asks outside.reply () (supersededBy appId item revision) =
        [.fetchDelivered appId item, .fetchWorkflowIds appId item] ∧
      outcome outside.reply () (supersededBy appId item revision) =
        ((), .ok ((outside.workflowIds.filterMap revisionOf ++
          outside.delivered.toList).max?.filter (revision ≤ ·))) := by
  have answered : ∀ {α : Type} (a : α), raising (outside.about item a) = .ok a := fun a => by
    rw [Outside.about, if_pos known]
    rfl
  unfold supersededBy ask
  rw [asks_call_bind, outcome_call_bind]
  dsimp only [Outside.reply]
  rw [answered, asks_ok_bind, outcome_ok_bind, asks_call_bind, outcome_call_bind]
  dsimp only [Outside.reply]
  rw [answered, asks_ok_bind, outcome_ok_bind]
  exact ⟨rfl, rfl⟩

/-- About another one it fails. -/
theorem guard_of_not_clean (unknown : outside.clean item ≠ true) :
    asks outside.reply () (supersededBy appId item revision) =
        [.fetchDelivered appId item] ∧
      outcome outside.reply () (supersededBy appId item revision) =
        ((), .error (.raised outside.refused)) := by
  have answered : ∀ {α : Type} (a : α),
      raising (outside.about item a) = .error (.raised outside.refused) := fun a => by
    rw [Outside.about, if_neg unknown]
    rfl
  unfold supersededBy ask
  rw [asks_call_bind, outcome_call_bind]
  dsimp only [Outside.reply]
  rw [answered, asks_error_bind, outcome_error_bind]
  exact ⟨rfl, rfl⟩

theorem supersedes_iff : outside.supersedes revision = true ↔
    ((outside.workflowIds.filterMap revisionOf ++
      outside.delivered.toList).max?.filter (revision ≤ ·)).isSome = true := by
  unfold Outside.supersedes
  generalize outside.workflowIds.filterMap revisionOf ++ outside.delivered.toList = seen
  rw [List.any_eq_true, Option.isSome_filter]
  constructor
  · rintro ⟨r, mem, newer⟩
    cases greatest : seen.max? with
    | none =>
        rw [List.max?_eq_none_iff.mp greatest] at mem
        cases mem
    | some m =>
        have above := (List.max?_eq_some_iff.mp greatest).2 r mem
        exact decide_eq_true ((of_decide_eq_true newer).trans above)
  · intro newer
    cases greatest : seen.max? with
    | none =>
        rw [greatest] at newer
        cases newer
    | some m =>
        rw [greatest] at newer
        exact ⟨m, (List.max?_eq_some_iff.mp greatest).1, newer⟩

/-- A launch and what follows it, after calls that left nothing. -/
theorem records_launch {trigger : Trigger} (ops : List HookOp)
    (before : inserted outside ops = []) (idle : starts outside ops = false)
    (known : outside.clean item = true) :
    Records outside (ops ++ asks outside.reply () (do
      match ← launch appId item "azure_devops" (hookWorkflowId appId item revision)
          trigger.appName true with
      | .ok (runId, workflowId) =>
          delivered
            { appId, workItem := item, revision, started := true, runId := some runId }
            (some workflowId)
      | .error .alreadyStarted =>
          ignored appId item revision "already started for this revision"
      | .error (.failed exc) => Task.raise (.raised exc) : Hook Answer)) ↔
      int4 revision = true ∧ (∃ governs, governing outside.resolved = .ok governs) ∧
        match outside.launched with
        | .started => outside.recorded = true
        | .alreadyStarted => True
        | .failed _ _ => False := by
  have alone : ∀ more : List HookOp, inserted outside more = [] →
      inserted outside (ops ++ more) = [] := by
    intro more nothing
    unfold inserted at before nothing ⊢
    rw [List.filterMap_append, before, nothing, List.append_nil]
  have begun : ∀ request governs workflowId, starts outside (ops ++ [.resolveConfig appId,
      .uuid4, .startWorkflow request governs workflowId true]) =
        outside.launched.tookEffect := by
    intro request governs workflowId
    unfold starts at idle ⊢
    rw [List.any_append, idle]
    simp
  have regroup : ∀ (a b c : HookOp) (more : List HookOp),
      ops ++ a :: b :: c :: more = (ops ++ [a, b, c]) ++ more := by simp
  unfold launch ask
  rw [Task.bind_assoc, asks_call_bind, Task.bind_assoc]
  dsimp only [Outside.reply]
  cases governing outside.resolved with
  | error exc =>
      refine iff_of_false (not_records (alone _ rfl)) ?_
      rintro ⟨-, ⟨governs, same⟩, -⟩
      cases same
  | ok governs =>
      have same : (∃ other, (Except.ok governs : Except PyError _) = .ok other) ↔ True :=
        iff_true_intro ⟨governs, rfl⟩
      rw [same, true_and]
      dsimp only [raising, Except.mapError]
      rw [asks_ok_bind, Task.bind_assoc, asks_call_bind, Task.bind_assoc, asks_call_bind,
        regroup]
      cases launched : outside.launched with
      | started =>
          have answer : ∀ request workflowId,
              outside.reply (.startWorkflow request governs workflowId true) = .ok () :=
            fun _ _ => congrArg LaunchOutcome.reply launched
          rw [answer]
          show Records outside (_ ++ asks outside.reply () (delivered
            ⟨appId, item, revision, true, none, some outside.runId⟩ (some _))) ↔ _
          rw [records_delivered (alone _ rfl) (by rw [begun, launched]; rfl)]
          simp [Outside.holds, known]
      | alreadyStarted =>
          have answer : ∀ request workflowId,
              outside.reply (.startWorkflow request governs workflowId true) =
                .error .alreadyStarted := fun _ _ => congrArg LaunchOutcome.reply launched
          rw [answer]
          show Records outside (_ ++ asks outside.reply () (ignored appId item revision _)) ↔ _
          rw [ignored, records_delivered (alone _ rfl) (by rw [begun, launched]; rfl),
            holds_ignored (by decide)]
          simp [known]
      | failed exc tookEffect =>
          have answer : ∀ request workflowId,
              outside.reply (.startWorkflow request governs workflowId true) =
                .error (.failed exc) := fun _ _ => congrArg LaunchOutcome.reply launched
          rw [answer, List.append_assoc]
          exact iff_of_false (not_records (alone _ rfl)) fun held => held.2

/-- What follows the admission checks. -/
theorem records_start {trigger : Trigger} :
    Records outside
        (.fetchTrigger appId :: asks outside.reply () (start appId trigger item revision)) ↔
      outside.clean item = true ∧ int4 revision = true ∧
        (outside.supersedes revision = true ∨ outside.launches) := by
  by_cases known : outside.clean item = true
  · obtain ⟨asked, guarded⟩ := guard_of_clean known
    unfold start
    rw [asks_bind_ok outside.reply guarded, asked, supersedes_iff]
    cases ((outside.workflowIds.filterMap revisionOf ++
        outside.delivered.toList).max?.filter (revision ≤ ·)) with
    | some newest =>
        have before : inserted outside [.fetchTrigger appId, .fetchDelivered appId item,
            .fetchWorkflowIds appId item] = [] := rfl
        have quoted : Text.isprintable ("revision " ++ Text.ofInt revision ++
            " is not newer than r" ++ Text.ofInt newest ++ ", already run") = true := by
          simp only [Text.isprintable_append, Text.isprintable_ofInt, and_true]
          decide
        refine (records_delivered before rfl).trans ?_
        rw [holds_ignored quoted]
        simp
    | none =>
        dsimp only
        unfold ask
        rw [asks_call_bind]
        cases connected : outside.connects with
        | error exc =>
            have answer : outside.reply .connect = .error exc := connected
            rw [answer]
            refine iff_of_false (not_records rfl) ?_
            rintro ⟨-, -, superseded | launched⟩
            · cases superseded
            · cases connected.symm.trans launched.1
        | ok _ =>
            have answer : outside.reply .connect = .ok () := connected
            rw [answer]
            refine (records_launch [.fetchTrigger appId, .fetchDelivered appId item,
              .fetchWorkflowIds appId item, .connect] rfl rfl known).trans ?_
            simp [known, Outside.launches, connected]
  · obtain ⟨asked, guarded⟩ := guard_of_not_clean known
    unfold start
    rw [asks_bind_error outside.reply guarded, asked]
    exact iff_of_false (not_records rfl) fun held => known held.1

/-- One request that presents the secret. -/
theorem records_iff {secret : String} {delivery : Delivery}
    (passes : authenticate secret delivery.token = .ok ()) :
    Records outside (calls secret appId delivery outside) ↔
      Recordable delivery.payload outside := by
  unfold calls azureDevopsHook Recordable
  rw [passes, asks_ok_bind]
  dsimp only
  by_cases other :
      ((delivery.payload.get "eventType").orElse (.str "")).text ≠ "workitem.updated"
  · rw [if_pos other, if_pos other]
    have quoted : outside.clean ("ignoring " ++ (delivery.payload.get "eventType").repr) = true ↔
        outside.clean (delivery.payload.get "eventType").repr = true := by
      rw [clean_append]
      exact and_iff_right (clean_of_isprintable (by decide))
    rw [← quoted]
    have before : inserted outside [] = [] := rfl
    refine (records_delivered before rfl).trans ?_
    have empty : outside.clean "" = true := clean_of_isprintable (by decide)
    have zero : int4 0 = true := by decide
    simp [Outside.holds, empty, zero]
  · rw [if_neg other, if_neg other]
    unfold ask
    rw [asks_call_bind]
    show Records outside (.fetchTrigger appId :: asks outside.reply ()
      (ofExcept (.ok (some outside.trigger)) >>= _)) ↔ _
    rw [asks_ok_bind]
    cases examined : examine (some outside.trigger) delivery.payload with
    | error exc =>
        rw [asks_error_bind]
        exact iff_of_false (not_records rfl) id
    | ok verdict =>
        rw [asks_ok_bind]
        obtain ⟨trigger, verdict⟩ := verdict
        cases verdict with
        | refused item revision reason =>
            have before : inserted outside [.fetchTrigger appId] = [] := rfl
            exact (records_delivered before rfl).trans (holds_ignored (isprintable_of_refused examined))
        | admitted item revision => exact records_start

end

/-! ## A run whose row is late -/

/-- A work item that moves into the ready state. -/
def readied : Delivery where
  token := "secret"
  payload := [(.str "eventType", .str "workitem.updated"),
    (.str "resource", .dict [(.str "workItemId", .int 5), (.str "rev", .int 2),
      (.str "fields", .dict [(.str "System.State", .dict [(.str "newValue", .str "Ready")])])])]

/-- A run is started for it; the worker may be too late to record the run. -/
def starting (recorded : Bool) : Outside where
  trigger := ⟨none, some "Ready", "shop"⟩
  ready := by decide
  delivered := none
  workflowIds := []
  connects := .ok ()
  resolved := .error ⟨.policyDenied, "no configuration stored for shop", none⟩
  runId := ⟨1⟩
  launched := .started
  recorded
  refused := ⟨.runtimeError, "violates foreign key constraint", none⟩
  encodes _ := true
  hidden _ absurd := by cases absurd

theorem records_iff_readied :
    Records (starting true) (calls "secret" ⟨7⟩ readied (starting true)) ↔
      Recordable readied.payload (starting true) :=
  records_iff rfl

/-- The run is started, and no row says so. -/
theorem started_unrecorded : ¬ ∀ (secret : String) (appId : UUID) (delivery : Delivery)
    (outside : Outside), authenticate secret delivery.token = .ok () →
      Records outside (calls secret appId delivery outside) := by
  intro recorded
  obtain ⟨row, one, -⟩ := recorded "secret" ⟨7⟩ readied (starting false) rfl
  have nothing : (inserted (starting false)
      (calls "secret" ⟨7⟩ readied (starting false))).length = 0 := by decide +kernel
  rw [one] at nothing
  cases nothing

end KuWarden.Api.Hook
