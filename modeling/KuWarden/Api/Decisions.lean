import KuWarden.Api.Decide
import KuWarden.Flows.Suspension

/-!
What becomes of a decision. The request reads the run three times, at three moments: its row
and its trail for the evidence, and its status; the signal comes later still. What it read
bounds what the run had come to by then, and what the run may still do.
-/
namespace KuWarden.Api.Decide

open Process KuWarden.Flow

variable {W Lbl : Type} {adapters : Adapters W Lbl} {worker : Worker} {params : FlowInput}
  {a : W} {C : Unit → FlowConfig W → DecideOp → Prop}
  {digestOf : Evidence.Document → String} {runId : UUID} {body : Decision}
  {principal : String} {c c' : FlowConfig W} {h : DecideHistory}

def decisionOf (body : Decision) (principal : String) : ApprovalSignal :=
  signalOf body principal body.evidenceDigest

/-- What was read when, for the evidence. -/
structure Assembled (adapters : Adapters W Lbl) (worker : Worker) (params : FlowInput) (a : W)
    (C : Unit → FlowConfig W → DecideOp → Prop) (run : Evidence.Run) (rows : List Evidence.Row)
    (c : FlowConfig W) (h : DecideHistory) : Prop where
  run_read : .reply .fetchRun (.ok (some run)) ∈ h
  rows_read : .reply .fetchEvents (.ok rows) ∈ h
  moments : ∃ c₁ c₂, Runs adapters worker params a c₁ ∧ C () c₁ .fetchRun ∧
    c₁.world.store.row = some run.row ∧ (system adapters worker).Reaches c₁ c₂ ∧
    Ordered rows c₂.world.store.trail ∧ (system adapters worker).Reaches c₂ c

def Named (appName : Option String) (h : DecideHistory) : Prop :=
  ∃ appId, .reply (.fetchAppName appId) (.ok appName) ∈ h

/-- The run was seen to be waiting for a decision. -/
def Awaited (adapters : Adapters W Lbl) (worker : Worker) (params : FlowInput) (a : W)
    (c : FlowConfig W) : Prop :=
  ∃ c₁ row, Runs adapters worker params a c₁ ∧ c₁.world.store.row = some row ∧
    row.status = "suspended" ∧ (system adapters worker).Reaches c₁ c

/-- The signal has reached the run, which was seen to wait for it. -/
def Arrived (adapters : Adapters W Lbl) (worker : Worker) (params : FlowInput) (a : W)
    (C : Unit → FlowConfig W → DecideOp → Prop) (signal : ApprovalSignal) (c : FlowConfig W) :
    Prop :=
  ∃ c₁ c₂ workflowId, Awaited adapters worker params a c₁ ∧
    C () c₁ (.signal workflowId signal) ∧ delivered c₁ signal = some c₂ ∧
    (system adapters worker).Reaches c₂ c

/-- What the request has come to: the run is one of its own, the signal it sent carries the
digest of what it read, and an answer that says so was given to a signal that arrived. -/
structure Standing (adapters : Adapters W Lbl) (worker : Worker) (params : FlowInput) (a : W)
    (C : Unit → FlowConfig W → DecideOp → Prop) (digestOf : Evidence.Document → String)
    (runId : UUID) (body : Decision) (principal : String) (_ : Unit) (c : FlowConfig W)
    (h : DecideHistory) : Prop where
  runs : Runs adapters worker params a c
  sent : ∀ workflowId signal, .call (.signal workflowId signal) ∈ h →
    ∃ run rows appName, Assembled adapters worker params a C run rows c h ∧
      Named appName h ∧ signal.evidenceDigest = digestOf (Evidence.document runId run rows appName)
  recorded : ∀ answer, .call (.respond (.ok answer)) ∈ h →
    Arrived adapters worker params a C (decisionOf body principal) c

/-- What was read stays read. -/
structure Lasts (adapters : Adapters W Lbl) (worker : Worker)
    (K : FlowConfig W → DecideHistory → Prop) : Prop where
  moved : ∀ {c c' h}, (system adapters worker).Step c c' → K c h → K c' h
  grows : ∀ {c h l}, K c h → K c (h ++ [l])

theorem lasts_assembled {run : Evidence.Run} {rows : List Evidence.Row} :
    Lasts adapters worker (Assembled adapters worker params a C run rows) where
  moved step held := by
    obtain ⟨c₁, c₂, first, allowed, row, more, order, rest⟩ := held.moments
    exact ⟨held.run_read, held.rows_read, c₁, c₂, first, allowed, row, more, order,
      rest.tail step⟩
  grows held :=
    ⟨List.mem_append_left _ held.run_read, List.mem_append_left _ held.rows_read, held.moments⟩

theorem Named.grows {appName : Option String} {l : Label DecideOp DecideRep Unit}
    (named : Named appName h) : Named appName (h ++ [l]) := by
  obtain ⟨appId, mem⟩ := named
  exact ⟨appId, List.mem_append_left _ mem⟩

theorem lasts_named {appName : Option String} :
    Lasts adapters worker fun _ h => Named appName h where
  moved _ named := named
  grows named := named.grows

theorem lasts_awaited :
    Lasts adapters worker fun c _ => Awaited adapters worker params a c where
  moved step held := by
    obtain ⟨c₁, row, first, found, suspended, rest⟩ := held
    exact ⟨c₁, row, first, found, suspended, rest.tail step⟩
  grows held := held

theorem lasts_arrived {signal : ApprovalSignal} :
    Lasts adapters worker fun c _ => Arrived adapters worker params a C signal c where
  moved step held := by
    obtain ⟨c₁, c₂, workflowId, awaited, allowed, arrives, rest⟩ := held
    exact ⟨c₁, c₂, workflowId, awaited, allowed, arrives, rest.tail step⟩
  grows held := held

theorem Lasts.and {K K' : FlowConfig W → DecideHistory → Prop} (lasts : Lasts adapters worker K)
    (lasts' : Lasts adapters worker K') : Lasts adapters worker fun c h => K c h ∧ K' c h where
  moved step held := ⟨lasts.moved step held.1, lasts'.moved step held.2⟩
  grows held := ⟨lasts.grows held.1, lasts'.grows held.2⟩

variable {K : FlowConfig W → DecideHistory → Prop}

/-- A call or an answer that neither sends the signal nor says that it was recorded. -/
theorem Standing.concat {l : Label DecideOp DecideRep Unit}
    (standing : Standing adapters worker params a C digestOf runId body principal () c h)
    (sends : ∀ workflowId signal, l ≠ .call (.signal workflowId signal))
    (answers : ∀ answer, l ≠ .call (.respond (.ok answer))) :
    Standing adapters worker params a C digestOf runId body principal () c (h ++ [l]) := by
  have before : ∀ {x}, x ∈ h ++ [l] → l ≠ x → x ∈ h := by
    intro x mem ne
    rcases List.mem_append.mp mem with mem | last
    · exact mem
    · exact absurd (List.mem_singleton.mp last).symm ne
  refine ⟨standing.runs, fun workflowId signal mem => ?_, fun answer mem => ?_⟩
  · obtain ⟨run, rows, appName, assembled, named, digest⟩ :=
      standing.sent _ _ (before mem (sends workflowId signal))
    exact ⟨run, rows, appName, lasts_assembled.grows assembled, named.grows, digest⟩
  · exact standing.recorded answer (before mem (answers answer))

theorem Standing.stepped (step : (system adapters worker).Step c c')
    (standing : Standing adapters worker params a C digestOf runId body principal () c h) :
    Standing adapters worker params a C digestOf runId body principal () c' h := by
  refine ⟨standing.runs.tail step, fun workflowId signal mem => ?_, fun answer mem => ?_⟩
  · obtain ⟨run, rows, appName, assembled, named, digest⟩ := standing.sent _ _ mem
    exact ⟨run, rows, appName, lasts_assembled.moved step assembled, named, digest⟩
  · exact lasts_arrived.moved (h := h) step (standing.recorded answer mem)

/-- Only a signal reaches the run. -/
theorem serves_still {op : DecideOp} {r : DecideRep op} {s s' : Unit}
    (other : ∀ workflowId signal, op ≠ .signal workflowId signal)
    (served : Serves s c op r s' c') : c' = c := by
  cases served with
  | signal => exact absurd rfl (other _ _)
  | signal_failed => exact absurd rfl (other _ _)
  | signal_lost => exact absurd rfl (other _ _)
  | _ => rfl

variable {α : Type}

/-- While a call is out the run goes on, and what was read stays read. -/
theorem drift_lasts {s s' : Unit} {h' : DecideHistory} (lasts : Lasts adapters worker K)
    (standing : Standing adapters worker params a C digestOf runId body principal s c h)
    (held : K c h) (drift : ((deciding adapters worker).under C).Drift s c h s' c' h') :
    Standing adapters worker params a C digestOf runId body principal s' c' h' ∧ K c' h' := by
  refine Task.keeps_drift (P := fun s c h =>
    Standing adapters worker params a C digestOf runId body principal s c h ∧ K c h)
    ?_ ⟨standing, held⟩ drift
  intro s c h l s' c' held move
  cases move with
  | flow step =>
      exact ⟨(held.1.stepped step).concat (by simp) (by simp),
        lasts.grows (lasts.moved step held.2)⟩

/-- A read of the request. -/
theorem ask_wp {op : DecideOp} {t : DecideRep op → Decide α}
    {Q : Except ApiExc α → Assertion Unit (FlowConfig W) DecideOp DecideRep Unit}
    (lasts : Lasts adapters worker K)
    (sends : ∀ workflowId signal, op ≠ .signal workflowId signal)
    (answers : ∀ answer, op ≠ .respond answer)
    (standing : Standing adapters worker params a C digestOf runId body principal () c h)
    (held : K c h)
    (ht : ∀ c r h, Standing adapters worker params a C digestOf runId body principal () c
      (h ++ [.reply op r]) → K c (h ++ [.reply op r]) → C () c op → Serves () c op r () c →
      (t r).wp ((deciding adapters worker).under C)
        (Standing adapters worker params a C digestOf runId body principal) Q () c
        (h ++ [.reply op r])) :
    (ask op >>= t).wp ((deciding adapters worker).under C)
      (Standing adapters worker params a C digestOf runId body principal) Q () c h := by
  refine Task.wp_bind.mpr (Task.wp_call.mpr fun s' c' h' drift => ?_)
  have called := standing.concat (l := .call op)
    (fun _ _ same => by cases same; exact sends _ _ rfl)
    (fun _ same => by cases same; exact answers _ rfl)
  obtain ⟨standing, held⟩ := drift_lasts lasts called (lasts.grows held) drift
  refine ⟨standing, fun r s'' c'' served => ?_⟩
  obtain ⟨allowed, served⟩ := served
  have same := serves_still sends served
  subst same
  exact ht c'' r h' (standing.concat (by simp) (by simp)) (lasts.grows held) allowed served

/-- Past an answer, where a failed call ends the request. -/
theorem ofExcept_wp {β ε : Type} {r : Except ε β} {wrap : ε → ApiExc} {f : β → Decide α}
    {I : Assertion Unit (FlowConfig W) DecideOp DecideRep Unit}
    {Q : Except ApiExc α → Assertion Unit (FlowConfig W) DecideOp DecideRep Unit}
    (failed : ∀ exc, Q (.error exc) () c h)
    (next : ∀ b, r = .ok b → (f b).wp ((deciding adapters worker).under C) I Q () c h) :
    (Task.ofExcept (r.mapError wrap) >>= f).wp ((deciding adapters worker).under C) I Q () c
      h := by
  refine Task.wp_bind.mpr ((Task.wp_ofExcept _).mpr ?_)
  cases r with
  | error exc => exact failed _
  | ok b => exact next b rfl

theorem lasts_runs : Lasts adapters worker fun c _ => Runs adapters worker params a c where
  moved step run := run.tail step
  grows run := run

/-- What was read of the run's row, and when. -/
structure RowRead (adapters : Adapters W Lbl) (worker : Worker) (params : FlowInput) (a : W)
    (C : Unit → FlowConfig W → DecideOp → Prop) (run : Evidence.Run) (c : FlowConfig W)
    (h : DecideHistory) : Prop where
  run_read : .reply .fetchRun (.ok (some run)) ∈ h
  moment : ∃ c₁, Runs adapters worker params a c₁ ∧ C () c₁ .fetchRun ∧
    c₁.world.store.row = some run.row ∧ (system adapters worker).Reaches c₁ c

theorem lasts_rowRead {run : Evidence.Run} :
    Lasts adapters worker (RowRead adapters worker params a C run) where
  moved step held := by
    obtain ⟨c₁, first, allowed, row, rest⟩ := held.moment
    exact ⟨held.run_read, c₁, first, allowed, row, rest.tail step⟩
  grows held := ⟨List.mem_append_left _ held.run_read, held.moment⟩

theorem assemble_bind {f : Evidence.Document → Decide α}
    {Q : Except ApiExc α → Assertion Unit (FlowConfig W) DecideOp DecideRep Unit}
    (standing : Standing adapters worker params a C digestOf runId body principal () c h)
    (failed : ∀ exc c h,
      Standing adapters worker params a C digestOf runId body principal () c h →
      Q (.error exc) () c h)
    (ht : ∀ run rows appName c h,
      Standing adapters worker params a C digestOf runId body principal () c h →
      Assembled adapters worker params a C run rows c h → Named appName h →
      (f (Evidence.document runId run rows appName)).wp ((deciding adapters worker).under C)
        (Standing adapters worker params a C digestOf runId body principal) Q () c h) :
    (assemble runId >>= f).wp ((deciding adapters worker).under C)
      (Standing adapters worker params a C digestOf runId body principal) Q () c h := by
  unfold assemble
  simp only [Task.bind_assoc]
  refine ask_wp lasts_runs (by simp) (by simp) standing standing.runs ?_
  intro c r h standing runs allowed served
  refine ofExcept_wp (fun exc => failed exc c _ standing) fun found same => ?_
  subst same
  cases found with
  | none => exact failed _ c _ standing
  | some run =>
      have row : RowRead adapters worker params a C run c
          (h ++ [.reply .fetchRun (.ok (some run))]) := by
        refine ⟨List.mem_append_right _ List.mem_cons_self, c, runs, allowed, ?_, .refl⟩
        cases served with
        | fetchRun run same => exact same.symm
      dsimp only
      simp only [Task.bind_assoc]
      refine ask_wp lasts_rowRead (by simp) (by simp) standing row ?_
      intro c r h standing row _ served
      refine ofExcept_wp (fun exc => failed exc c _ standing) fun rows same => ?_
      subst same
      have assembled : Assembled adapters worker params a C run rows c
          (h ++ [.reply .fetchEvents (.ok rows)]) := by
        obtain ⟨c₁, first, allowed, found, rest⟩ := row.moment
        refine ⟨row.run_read, List.mem_append_right _ List.mem_cons_self, c₁, c, first, allowed,
          found, rest, ?_, .refl⟩
        cases served with
        | fetchEvents rows order => exact order
      refine ask_wp lasts_assembled (by simp) (by simp) standing assembled ?_
      intro c r h standing assembled _ _
      refine ofExcept_wp (fun exc => failed exc c _ standing) fun appName same => ?_
      subst same
      exact ht run rows appName c _ standing assembled
        ⟨_, List.mem_append_right _ List.mem_cons_self⟩

/-- How the handling of a request ends. -/
def Ended (adapters : Adapters W Lbl) (worker : Worker) (params : FlowInput) (a : W)
    (C : Unit → FlowConfig W → DecideOp → Prop) (digestOf : Evidence.Document → String)
    (runId : UUID) (body : Decision) (principal : String) :
    Except ApiExc Recorded → Assertion Unit (FlowConfig W) DecideOp DecideRep Unit
  | .ok answer => fun s c h => answer = ⟨body.approved, principal⟩ ∧
      Standing adapters worker params a C digestOf runId body principal s c h ∧
      Arrived adapters worker params a C (decisionOf body principal) c
  | .error _ => Standing adapters worker params a C digestOf runId body principal

/-- The signal that is sent carries the digest of what was read. -/
theorem signal_wp {run : Evidence.Run} {rows : List Evidence.Row} {appName : Option String}
    {workflowId : Option String}
    (standing : Standing adapters worker params a C digestOf runId body principal () c h)
    (assembled : Assembled adapters worker params a C run rows c h) (named : Named appName h)
    (digest : digestOf (Evidence.document runId run rows appName) = body.evidenceDigest)
    (awaited : Awaited adapters worker params a c) :
    (ask (.signal workflowId (decisionOf body principal)) >>= fun r =>
      Task.ofExcept (r.mapError unreachable) >>= fun _ =>
        (pure ⟨body.approved, principal⟩ : Decide Recorded)).wp
      ((deciding adapters worker).under C)
      (Standing adapters worker params a C digestOf runId body principal)
      (Ended adapters worker params a C digestOf runId body principal) () c h := by
  refine Task.wp_bind.mpr (Task.wp_call.mpr fun s' c' h' drift => ?_)
  have called : Standing adapters worker params a C digestOf runId body principal () c
      (h ++ [.call (.signal workflowId (decisionOf body principal))]) := by
    refine ⟨standing.runs, fun workflowId signal mem => ?_, fun answer mem => ?_⟩
    · rcases List.mem_append.mp mem with mem | last
      · obtain ⟨run, rows, appName, assembled, named, digest⟩ := standing.sent _ _ mem
        exact ⟨run, rows, appName, lasts_assembled.grows assembled, named.grows, digest⟩
      · cases List.mem_singleton.mp last
        exact ⟨run, rows, appName, lasts_assembled.grows assembled, named.grows, digest.symm⟩
    · rcases List.mem_append.mp mem with mem | last
      · exact standing.recorded answer mem
      · cases List.mem_singleton.mp last
  obtain ⟨standing, awaited⟩ := drift_lasts lasts_awaited called awaited drift
  refine ⟨standing, fun r s'' c'' served => ?_⟩
  obtain ⟨allowed, served⟩ := served
  have standing := standing.concat (l := .reply (.signal workflowId (decisionOf body principal)) r)
    (by simp) (by simp)
  cases served with
  | signal arrives =>
      exact ⟨rfl, standing.stepped (step_of_delivered adapters worker arrives), c', c'',
        workflowId, awaited, allowed, arrives, .refl⟩
  | signal_failed exc => exact standing
  | signal_lost exc arrives => exact standing.stepped (step_of_delivered adapters worker arrives)

theorem forward_wp {run : Evidence.Run} {rows : List Evidence.Row} {appName : Option String}
    (standing : Standing adapters worker params a C digestOf runId body principal () c h)
    (assembled : Assembled adapters worker params a C run rows c h) (named : Named appName h)
    (digest : digestOf (Evidence.document runId run rows appName) = body.evidenceDigest) :
    (forward body principal body.evidenceDigest).wp ((deciding adapters worker).under C)
      (Standing adapters worker params a C digestOf runId body principal)
      (Ended adapters worker params a C digestOf runId body principal) () c h := by
  have lasts : Lasts adapters worker fun c h =>
      Assembled adapters worker params a C run rows c h ∧ Named appName h :=
    lasts_assembled.and lasts_named
  refine ask_wp lasts (by simp) (by simp) standing ⟨assembled, named⟩ ?_
  intro c r h standing read _ _
  refine ofExcept_wp (fun _ => standing) fun workflowId _ => ?_
  refine ask_wp lasts (by simp) (by simp) standing read ?_
  intro c r h standing read _ served
  refine ofExcept_wp (fun _ => standing) fun status same => ?_
  subst same
  split
  · exact standing
  next suspended =>
    have awaited : Awaited adapters worker params a c := by
      cases served with
      | fetchStatus =>
          obtain ⟨row, found, status⟩ := Option.map_eq_some_iff.mp (not_not.mp suspended)
          exact ⟨c, row, standing.runs, found, status, .refl⟩
    refine ask_wp (lasts.and lasts_awaited) (by simp) (by simp) standing ⟨read, awaited⟩ ?_
    intro c r h standing held _ _
    exact ofExcept_wp (fun _ => standing) fun _ _ =>
      signal_wp standing held.1.1 held.1.2 digest held.2

theorem decide_wp
    (standing : Standing adapters worker params a C digestOf runId body principal () c h) :
    (decide digestOf runId body principal).wp ((deciding adapters worker).under C)
      (Standing adapters worker params a C digestOf runId body principal)
      (Ended adapters worker params a C digestOf runId body principal) () c h := by
  refine assemble_bind standing (fun _ _ _ standing => standing) ?_
  intro run rows appName c h standing assembled named
  split
  · exact standing
  next same =>
    rw [not_not.mp same]
    exact forward_wp standing assembled named (not_not.mp same)

theorem serve_wp
    (standing : Standing adapters worker params a C digestOf runId body principal () c h) :
    (serve digestOf runId body principal).wp ((deciding adapters worker).under C)
      (Standing adapters worker params a C digestOf runId body principal)
      (fun _ => Standing adapters worker params a C digestOf runId body principal) () c h := by
  refine Task.wp_bind.mpr (Task.wp_attempt.mpr (Task.wp_mono (decide_wp standing) ?_))
  intro answer s c h ended
  refine Task.wp_call.mpr fun s' c' h' drift => ?_
  have standing : Standing adapters worker params a C digestOf runId body principal s c h := by
    cases answer with
    | error exc => exact ended
    | ok answer => exact ended.2.1
  have called : Standing adapters worker params a C digestOf runId body principal s c
      (h ++ [.call (.respond answer)]) := by
    refine ⟨standing.runs, fun workflowId signal mem => ?_, fun told mem => ?_⟩
    · rcases List.mem_append.mp mem with mem | last
      · obtain ⟨run, rows, appName, assembled, named, digest⟩ := standing.sent _ _ mem
        exact ⟨run, rows, appName, lasts_assembled.grows assembled, named.grows, digest⟩
      · cases List.mem_singleton.mp last
    · rcases List.mem_append.mp mem with mem | last
      · exact standing.recorded told mem
      · cases List.mem_singleton.mp last
        exact ended.2.2
  obtain ⟨standing, -⟩ := drift_lasts lasts_runs called called.runs drift
  exact ⟨standing, fun r s'' c'' served => by cases served.2⟩

/-- The run lemma: wherever a request stands, its answer and its signal stand on what it
read. -/
theorem standing_of_reaches (flow : Runs adapters worker params a c)
    {d : Config Unit (FlowConfig W) DecideOp DecideRep Unit (Except ApiExc Unit)}
    (run : ((deciding adapters worker).under C).Reaches
      (.launch (serve digestOf runId body principal ()) c []) d) :
    Standing adapters worker params a C digestOf runId body principal () d.world d.history := by
  have start : Standing adapters worker params a C digestOf runId body principal () c [] :=
    ⟨flow, fun _ _ mem => absurd mem List.not_mem_nil, fun _ mem => absurd mem List.not_mem_nil⟩
  have sound := wp_sound (serve_wp start) run
  split at sound <;> exact sound

/-! ## The evidence a signal is bound to -/

/-- The row already says `suspended` when it is read for the evidence. -/
def Suspended (_ : Unit) (c : FlowConfig W) : DecideOp → Prop
  | .fetchRun => ∀ row, c.world.store.row = some row → row.status = "suspended"
  | _ => True

/-- The signal carries the digest of a document that was read while the run was suspended,
with every event up to `gate_reached`. -/
def AtGate (digestOf : Evidence.Document → String) (runId : UUID) (signal : ApprovalSignal)
    (c : FlowConfig W) (h : DecideHistory) : Prop :=
  ∃ run rows appName, .reply .fetchRun (.ok (some run)) ∈ h ∧
    .reply .fetchEvents (.ok rows) ∈ h ∧ Named appName h ∧
    signal.evidenceDigest = digestOf (Evidence.document runId run rows appName) ∧
    (Evidence.document runId run rows appName).status = "suspended" ∧
    ∃ gate ∈ (Evidence.document runId run rows appName).events,
      gate.event.kind = "gate_reached" ∧ ∀ event ∈ c.world.store.trail,
        event.seq ≤ gate.event.seq →
          ∃ row ∈ (Evidence.document runId run rows appName).events, row.event = event

theorem mem_ordered {rows : List Evidence.Row} {trail : List EventRecorded}
    {event : EventRecorded} (order : Ordered rows trail) (mem : event ∈ trail) :
    ∃ row ∈ rows, row.event = event :=
  List.mem_map.mp (order.1.mem_iff.mpr mem)

/-- On the trail of a run, a number says which event it is. -/
theorem event_of_seq (flow : Runs adapters worker params a c) {event row : EventRecorded}
    (mem : event ∈ c.world.store.trail) (mem' : row ∈ c.world.store.trail)
    (same : row.seq = event.seq) : row = event := by
  have nodup := (ledger_of_runs flow).nodup
  rw [List.append_assoc, List.map_append, List.nodup_append] at nodup
  exact List.inj_on_of_nodup_map nodup.1 mem' mem same

/-- Whatever the run records meanwhile and whoever else decides: as long as the row that is
read for the evidence says `suspended`, a signal carries the digest of what was there at the
gate. -/
theorem atGate_of_suspended (flow : Runs adapters worker params a c)
    {d : Config Unit (FlowConfig W) DecideOp DecideRep Unit (Except ApiExc Unit)}
    (run : ((deciding adapters worker).under Suspended).Reaches
      (.launch (serve digestOf runId body principal ()) c []) d)
    {workflowId : Option String} {signal : ApprovalSignal}
    (sent : .call (.signal workflowId signal) ∈ d.history) :
    AtGate digestOf runId signal d.world d.history := by
  have standing := standing_of_reaches flow run
  obtain ⟨read, rows, appName, assembled, named, digest⟩ := standing.sent _ _ sent
  obtain ⟨c₁, c₂, first, suspended, row, more, order, rest⟩ := assembled.moments
  have status : read.row.status = "suspended" := suspended _ row
  have second : Runs adapters worker params a c₂ := first.trans more
  obtain ⟨gate, recorded, kind, numbers⟩ :=
    (reached_of_suspended first (suspended_of_row first row status)).grows more.grows
  have ledger := ledger_of_runs second
  obtain ⟨gate_row, listed, rfl⟩ := mem_ordered order ((ledger.trail _).mpr (.inl recorded))
  refine ⟨read, rows, appName, assembled.run_read, assembled.rows_read, named, digest, status,
    gate_row, listed, kind, fun event mem early => ?_⟩
  have last := ledger_of_runs standing.runs
  obtain ⟨low, -⟩ := last.bound (List.mem_append_left _ (List.mem_append_left _ mem))
  obtain ⟨known, on_record, seq⟩ := numbers event.seq low early
  have on_trail := (ledger.trail known).mpr on_record
  cases event_of_seq standing.runs mem ((reaches_trail rest).subset on_trail) seq
  exact mem_ordered order on_trail

/-! ## The decisions that are counted -/

/-- The run has not gone back to running when the signal reaches it. -/
def Timely (_ : Unit) (c : FlowConfig W) : DecideOp → Prop
  | .signal _ _ => .reply (.recordRunStatus "running") () ∉ c.history
  | _ => True

/-- Wherever the state is handed over, the decision is stored on it; Release is called on none
that rejects. -/
def Counted (signal : ApprovalSignal) (c : FlowConfig W) : Prop :=
  ∀ before nodeId activityId state rest,
    c.history = before ++ .call (.runNode nodeId activityId state) :: rest →
    nodeId ∈ heirs → approvalOf state.riskTier signal ∈ state.approvals ∧
      (nodeId = "release" → signal.approved = true)

theorem history_of_delivered {signal : ApprovalSignal}
    (arrives : delivered c signal = some c') :
    c'.history = c.history ++ [.env (.signal signal)] := by
  obtain ⟨proc, world, history⟩ := c
  cases proc with
  | done s r => cases arrives
  | await s op k =>
      cases arrives
      rfl

/-- However many decide at once: as long as a signal reaches a run that has not gone back to
running, and the gate could be announced, whoever is answered `recorded: true` was counted. -/
theorem counted_of_timely (flow : Runs adapters worker params a c)
    {d : Config Unit (FlowConfig W) DecideOp DecideRep Unit (Except ApiExc Unit)}
    (run : ((deciding adapters worker).under Timely).Reaches
      (.launch (serve digestOf runId body principal ()) c []) d)
    (notified : ¬ Unnotified d.world.history) {answer : Recorded}
    (answered : .call (.respond (.ok answer)) ∈ d.history) :
    Counted (decisionOf body principal) d.world := by
  have standing := standing_of_reaches flow run
  obtain ⟨c₁, c₂, workflowId, awaited, waiting, arrives, rest⟩ :=
    standing.recorded answer answered
  obtain ⟨c₀, row, first, found, suspended, more⟩ := awaited
  obtain ⟨later, grown⟩ := rest.grows
  rw [history_of_delivered arrives, List.append_assoc] at grown
  have asked : .call (.recordRunStatus "suspended") ∈ d.world.history := by
    rw [← grown]
    exact List.mem_append_left _ (more.grows.subset (suspended_of_row first found suspended))
  intro before nodeId activityId state rest called heir
  exact counted_of_waiting standing.runs notified grown.symm asked waiting called heir

/-! ## Two races -/

/-- A change that one approver has to wave through. -/
def mediumParams : FlowInput := { shopParams with provisionalRiskTier := .medium }

/-- A short digest: the status, and the kinds of the events. -/
def rendering (document : Evidence.Document) : String :=
  Text.join "," (document.status :: document.events.map fun row => row.event.kind)

def raceMove (signals : List ApprovalSignal) (moves : DecideOp → FlowConfig Unit → Bool)
    (c : FlowConfig Unit) (op : DecideOp) : Option (Unit × Unit × FlowConfig Unit) :=
  if moves op c then
    ((obligingScript.flow plainWorker signals).next c).map fun c' => ((), (), c')
  else none

theorem raceMove_moves {signals : List ApprovalSignal}
    {moves : DecideOp → FlowConfig Unit → Bool} {c c' : FlowConfig Unit} {op : DecideOp}
    {l s' : Unit} (moved : raceMove signals moves c op = some (l, s', c')) :
    Moves obliging plainWorker () c l s' c' := by
  unfold raceMove at moved
  split_ifs at moved
  obtain ⟨next, taken, same⟩ := Option.map_eq_some_iff.mp moved
  cases same
  exact .flow (Schedule.next_step _ taken)

def raceAnswer (c : FlowConfig Unit) :
    (op : DecideOp) → Option (DecideRep op × Unit × FlowConfig Unit)
  | .fetchRun => some (.ok (c.world.store.row.map fun row => ⟨row, ""⟩), (), c)
  | .fetchEvents =>
      if c.world.store.trail.Pairwise fun a b => a.seq ≤ b.seq then
        some (.ok (c.world.store.trail.map fun event => ⟨event, ""⟩), (), c)
      else none
  | .fetchAppName _ => some (.ok (some "shop"), (), c)
  | .fetchWorkflowId => some (.ok (some "kuwarden-1"), (), c)
  | .fetchStatus => some (.ok (c.world.store.row.map RunRow.status), (), c)
  | .connect => some (.ok (), (), c)
  | .signal _ a => (delivered c a).map fun c' => (.ok (), (), c')
  | .respond _ => none

theorem raceAnswer_serves {c c' : FlowConfig Unit} {op : DecideOp} {r : DecideRep op}
    {s' : Unit} (answered : raceAnswer c op = some (r, s', c')) : Serves () c op r s' c' := by
  cases op with
  | fetchRun =>
      cases answered
      refine .fetchRun _ ?_
      rw [Option.map_map]
      exact Option.map_id_fun' ▸ rfl
  | fetchEvents =>
      simp only [raceAnswer] at answered
      split_ifs at answered with order
      cases answered
      have same : (c.world.store.trail.map fun event => (⟨event, ""⟩ : Evidence.Row)).map
          Evidence.Row.event = c.world.store.trail := by
        rw [List.map_map]
        exact List.map_id _
      refine .fetchEvents _ ⟨?_, ?_⟩
      · rw [same]
      · rw [same]
        exact order
  | fetchAppName | fetchWorkflowId | fetchStatus | connect => cases answered; constructor
  | signal workflowId a =>
      obtain ⟨reached, arrives, same⟩ := Option.map_eq_some_iff.mp answered
      cases same
      exact .signal arrives
  | respond answer => cases answered

def race (signals : List ApprovalSignal) (moves : DecideOp → FlowConfig Unit → Bool) :
    Schedule (deciding obliging plainWorker) where
  move _ c op := raceMove signals moves c op
  answer _ c op := raceAnswer c op
  move_env := raceMove_moves
  answer_serve := raceAnswer_serves

abbrev DecideConfig :=
  Config Unit (FlowConfig Unit) DecideOp DecideRep Unit (Except ApiExc Unit)

def onWorkflowId : DecideOp → FlowConfig Unit → Bool
  | .fetchWorkflowId, _ => true
  | _, _ => false

def released (c : FlowConfig Unit) : Bool :=
  (c.history.findSome? (callOf "release")).isSome

def onConnect : DecideOp → FlowConfig Unit → Bool
  | .connect, c => !released c
  | _, _ => false

def early : Decision := ⟨true, "running", ""⟩

/-- The evidence is read when the run has just begun; it is suspended before its status is
read. -/
def earlyRun : DecideConfig :=
  (race [] onWorkflowId).play 100 (.launch (serve rendering ⟨1⟩ early "ada" ())
    (obligingScript.run plainWorker [] mediumParams () 1) [])

def approval : ApprovalSignal := ⟨"ada", true, "d1", ""⟩

def atGate : FlowConfig Unit := obligingScript.run plainWorker [] mediumParams () 100

def gateDigest : String :=
  rendering (Evidence.document ⟨1⟩ ((atGate.world.store.row.map fun row => ⟨row, ""⟩).getD
    ⟨⟨started mediumParams, "", none⟩, ""⟩) (atGate.world.store.trail.map fun event => ⟨event, ""⟩)
    (some "shop"))

def late : Decision := ⟨false, gateDigest, "no"⟩

def lateRun : DecideConfig :=
  (race [approval] onConnect).play 100 (.launch (serve rendering ⟨1⟩ late "bob" ()) atGate [])

theorem mem_of_findSome {β : Type} {h : DecideHistory}
    {f : Label DecideOp DecideRep Unit → Option β} {b : β} (found : h.findSome? f = some b) :
    ∃ l ∈ h, f l = some b :=
  List.exists_of_findSome?_eq_some found

def sentOf : Label DecideOp DecideRep Unit → Option ApprovalSignal
  | .call (.signal _ a) => some a
  | _ => none

theorem call_of_sentOf {h : DecideHistory} {signal : ApprovalSignal}
    (found : h.findSome? sentOf = some signal) :
    ∃ workflowId, .call (.signal workflowId signal) ∈ h := by
  obtain ⟨l, mem, is⟩ := mem_of_findSome found
  unfold sentOf at is
  split at is
  next workflowId a => cases is; exact ⟨workflowId, mem⟩
  next => cases is

/-- The answer that says `recorded: true`, if this is it. -/
def recordedOf : Label DecideOp DecideRep Unit → Option Recorded
  | .call (.respond (.ok answer)) => some answer
  | _ => none

theorem call_of_recordedOf {h : DecideHistory} {answer : Recorded}
    (found : h.findSome? recordedOf = some answer) : .call (.respond (.ok answer)) ∈ h := by
  obtain ⟨l, mem, is⟩ := mem_of_findSome found
  unfold recordedOf at is
  split at is
  next => cases is; exact mem
  next => cases is

def readStatus : Label DecideOp DecideRep Unit → Option String
  | .reply .fetchRun r =>
      match (show Except PyError (Option Evidence.Run) from r) with
      | .ok (some run) => some run.row.status
      | _ => none
  | _ => none

/-- The signal is bound to the evidence of a run that has recorded nothing yet. -/
theorem early_evidence_signed : ∃ c d, Runs obliging plainWorker mediumParams () c ∧
    (deciding obliging plainWorker).Reaches (.launch (serve rendering ⟨1⟩ early "ada" ()) c [])
      d ∧ ∃ workflowId signal, .call (.signal workflowId signal) ∈ d.history ∧
        ¬ AtGate rendering ⟨1⟩ signal d.world d.history := by
  have run : earlyRun.history.findSome? sentOf = some ⟨"ada", true, "running", ""⟩ ∧
      earlyRun.history.all (fun l => readStatus l ≠ some "suspended") = true := by decide +kernel
  obtain ⟨found, running⟩ := run
  obtain ⟨workflowId, sent⟩ := call_of_sentOf found
  refine ⟨_, earlyRun, obligingScript.run_runs plainWorker [] mediumParams () 1,
    Schedule.play_reaches _ _ _, workflowId, _, sent, ?_⟩
  rintro ⟨run, rows, appName, read, -, -, -, suspended, -⟩
  have other := List.all_eq_true.mp running _ read
  exact of_decide_eq_true other (congrArg some suspended)

/-- A rejection that reaches the run after it went back to running: Release is called. -/
theorem late_rejection_lost : ∃ c d, Runs obliging plainWorker mediumParams () c ∧
    (deciding obliging plainWorker).Reaches (.launch (serve rendering ⟨1⟩ late "bob" ()) c [])
      d ∧ .call (.respond (.ok ⟨false, "bob"⟩)) ∈ d.history ∧
        ¬ Counted (decisionOf late "bob") d.world := by
  have run : lateRun.history.findSome? recordedOf = some ⟨false, "bob"⟩ ∧
      (lateRun.world.history.findSome? (callOf "release")).isSome = true := by decide +kernel
  obtain ⟨answered, released⟩ := run
  refine ⟨atGate, lateRun, obligingScript.run_runs plainWorker [] mediumParams () 100,
    Schedule.play_reaches _ _ _, call_of_recordedOf answered, fun counted => ?_⟩
  obtain ⟨state, found⟩ := Option.isSome_iff_exists.mp released
  obtain ⟨before, activityId, rest, called⟩ := called_of_findSome found
  have approves := (counted before "release" activityId state rest called (by decide)).2 rfl
  cases approves

/-! ## A decision in time -/

def onRespond : DecideOp → FlowConfig Unit → Bool
  | .respond _, c => !released c
  | _, _ => false

/-- The same races, of which only those steps are taken that pass a check. -/
def checked {C : Unit → FlowConfig Unit → DecideOp → Prop}
    (check : FlowConfig Unit → DecideOp → Bool)
    (sound : ∀ {c op}, check c op = true → C () c op) :
    Schedule ((deciding obliging plainWorker).under C) where
  move _ c op := raceMove [] onRespond c op
  answer _ c op := if check c op then raceAnswer c op else none
  move_env := raceMove_moves
  answer_serve := by
    intro s c op r s' c' answered
    split_ifs at answered with passes
    exact ⟨sound passes, raceAnswer_serves answered⟩

def suspends (c : FlowConfig Unit) : DecideOp → Bool
  | .fetchRun => c.world.store.row.all fun row => row.status = "suspended"
  | _ => true

theorem suspended_of_suspends {c : FlowConfig Unit} {op : DecideOp}
    (suspends : suspends c op = true) : Suspended () c op := by
  cases op with
  | fetchRun =>
      intro row found
      simpa [Decide.suspends, found] using suspends
  | _ => trivial

def resumes : Label FlowOp FlowRep FlowMove → Bool
  | .reply (.recordRunStatus status) _ => status = "running"
  | _ => false

def punctual (c : FlowConfig Unit) : DecideOp → Bool
  | .signal _ _ => c.history.all fun l => !resumes l
  | _ => true

theorem timely_of_punctual {c : FlowConfig Unit} {op : DecideOp}
    (punctual : punctual c op = true) : Timely () c op := by
  cases op with
  | signal workflowId a =>
      intro mem
      exact absurd (List.all_eq_true.mp punctual _ mem) (by simp [resumes])
  | _ => trivial

def prompt : Decision := ⟨true, gateDigest, ""⟩

def promptRun {C : Unit → FlowConfig Unit → DecideOp → Prop}
    (plan : Schedule ((deciding obliging plainWorker).under C)) : DecideConfig :=
  plan.play 100 (.launch (serve rendering ⟨1⟩ prompt "ada" ()) atGate [])

theorem promptRun_reaches {C : Unit → FlowConfig Unit → DecideOp → Prop}
    (plan : Schedule ((deciding obliging plainWorker).under C)) :
    ((deciding obliging plainWorker).under C).Reaches
      (.launch (serve rendering ⟨1⟩ prompt "ada" ()) atGate []) (promptRun plan) :=
  Schedule.play_reaches _ _ _

theorem atGate_runs : Runs obliging plainWorker mediumParams () atGate :=
  Script.run_runs _ _ _ _ _ _

def suspendedRun : DecideConfig := promptRun (checked suspends suspended_of_suspends)

theorem atGate_of_suspended_prompt : ∃ signal,
    AtGate rendering ⟨1⟩ signal suspendedRun.world suspendedRun.history := by
  have sent : (suspendedRun.history.findSome? sentOf).isSome = true := by decide +kernel
  obtain ⟨signal, found⟩ := Option.isSome_iff_exists.mp sent
  obtain ⟨workflowId, called⟩ := call_of_sentOf found
  exact ⟨signal, atGate_of_suspended atGate_runs (promptRun_reaches _) called⟩

def refused : Label FlowOp FlowRep FlowMove → Bool
  | .reply (.notifyGateReached _) r =>
      match (show Except PyError Nat from r) with
      | .ok _ => false
      | .error _ => true
  | _ => false

theorem notified_of_all {h : FlowHistory} (all : h.all (fun l => !refused l) = true) :
    ¬ Unnotified h := by
  rintro ⟨notice, e, mem⟩
  exact absurd (List.all_eq_true.mp all _ mem) (by simp [refused])

def timelyRun : DecideConfig := promptRun (checked punctual timely_of_punctual)

/-- The run comes to Release with the approval on its state. -/
theorem counted_of_timely_prompt :
    Counted (decisionOf prompt "ada") timelyRun.world ∧ released timelyRun.world = true := by
  have run : timelyRun.history.findSome? recordedOf = some ⟨true, "ada"⟩ ∧
      timelyRun.world.history.all (fun l => !refused l) = true ∧
        released timelyRun.world = true := by decide +kernel
  obtain ⟨answered, notified, came⟩ := run
  exact ⟨counted_of_timely atGate_runs (promptRun_reaches _) (notified_of_all notified)
    (call_of_recordedOf answered), came⟩

end KuWarden.Api.Decide
