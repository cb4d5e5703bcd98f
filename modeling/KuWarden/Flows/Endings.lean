import KuWarden.Activities.RunRow
import KuWarden.Flows.FanOut
import KuWarden.Flows.Frames
import KuWarden.Flows.Play

/-!
How a run is closed out. The handlers of a rejection and of a failure run two nodes before
they come to `_finish`; where one of these fails for good, nothing closes the run.
-/
namespace KuWarden.Flow

open Process RowWrite

variable {W Lbl : Type} {adapters : Adapters W Lbl} {worker : Worker} {params : FlowInput}

def endOf : Label FlowOp FlowRep FlowMove → Option String
  | .reply (.recordRunEnded status) _ => some status
  | _ => none

/-- The statuses a run was ended with. -/
def endings (h : FlowHistory) : List String := h.filterMap endOf

def lapse : Label FlowOp FlowRep FlowMove → Bool
  | .reply (.runNode nodeId _ _) reply =>
      (nodeId = "compensate" || nodeId = "reporter") &&
        match (show Except PyError FlowState from reply) with
        | .ok _ => false
        | .error _ => true
  | _ => false

/-- A run that is over is recorded as such: with one cost, and with one terminal status,
which its row shows. -/
structure ClosedOut (w : FlowWorld W) (h : FlowHistory) : Prop where
  cost : (recorded "run_cost" h).length = 1
  status : ∃ status ∈ terminalStatuses, endings h = [status]
  shown : Over w.store

/-- Nothing has ended yet, and neither Compensation nor Reporter has failed. `n` costs are on
record, and once the run is `known` it has a row. -/
structure Underway (n : Nat) (known : Bool) (s : DeliveryFlow) (w : FlowWorld W)
    (h : FlowHistory) : Prop where
  cost : (recorded "run_cost" h).length = n
  endings : endings h = []
  sound : h.any lapse = false
  row : known = true → w.store.row.isSome = true
  staffed : Staffed s w

theorem endings_append {h : FlowHistory} {l : Label FlowOp FlowRep FlowMove} :
    endings (h ++ [l]) = endings h ++ (endOf l).toList := by
  unfold endings
  rw [List.filterMap_append]
  cases found : endOf l with
  | none => rw [List.filterMap_cons_none found]; rfl
  | some status => rw [List.filterMap_cons_some found]; rfl

variable {s s' : DeliveryFlow} {w w' : FlowWorld W} {h : FlowHistory} {status : String}
  {n : Nat} {known : Bool}

/-- A label that says nothing of how the run ends. -/
theorem Underway.concat {l : Label FlowOp FlowRep FlowMove} (underway : Underway n known s w h)
    (cost : recordOf "run_cost" l = []) (ends : endOf l = none) (sound : lapse l = false)
    (row : w.store.row.isSome = true → w'.store.row.isSome = true) (staffed : Staffed s' w') :
    Underway n known s' w' (h ++ [l]) where
  cost := by rw [recorded_concat, cost, List.append_nil, underway.cost]
  endings := by rw [endings_append, underway.endings, ends, Option.toList_none, List.append_nil]
  sound := by rw [List.any_append, underway.sound, List.any_cons, sound]; rfl
  row same := row (underway.row same)
  staffed := staffed

theorem record_event_row {store : AuditStore} {event : EventRecorded} :
    (store.recordEvent event).row = store.row := by
  unfold AuditStore.recordEvent
  split <;> rfl

/-- What moves beside the main line leaves the run as it stands. -/
theorem Underway.moved {l : FlowMove} (underway : Underway n known s w h)
    (move : (system adapters worker).env s w l s' w') :
    Underway n known s' w' (h ++ [.env l]) ∧ s'.status = s.status := by
  have beside := underway.staffed.moves move
  have staffed := underway.staffed.moved beside
  cases beside with
  | noted =>
      refine ⟨underway.concat rfl rfl rfl (fun row => ?_) staffed, rfl⟩
      rw [record_event_row]
      exact row
  | _ => exact ⟨underway.concat rfl rfl rfl id staffed, rfl⟩

/-- The run is under way, and this is the status it has come to. -/
structure Bound (n : Nat) (known : Bool) (status : String) (s : DeliveryFlow)
    (w : FlowWorld W) (h : FlowHistory) : Prop where
  underway : Underway n known s w h
  status : s.status = status

theorem Bound.moved {l : FlowMove} (bound : Bound n known status s w h)
    (move : (system adapters worker).env s w l s' w') : Bound n known status s' w' (h ++ [.env l]) := by
  obtain ⟨underway, same⟩ := bound.underway.moved move
  exact ⟨underway, same.trans bound.status⟩

theorem Bound.issued {event : EventRecorded} (bound : Bound n known status s w h) :
    Bound n known status { s with seq := s.seq + 1 } w (h ++ [.call (.recordEvent event)]) :=
  ⟨bound.underway.concat rfl rfl rfl id (bound.underway.staffed.mono (Nat.le_succ _)),
    bound.status⟩

/-- An event goes on record, and the run goes on. -/
theorem emit_bound {kind : String} {payload : Payload} {nodeId mode : Option String}
    (bound : Bound n known status s w h) :
    (emit kind payload nodeId mode).wp (system adapters worker) (Bound n known status)
      (fun r s w h => (∃ a, r = .ok a) ∧
        Bound (if kind = "run_cost" then n + 1 else n) known status s w h) s w h := by
  refine emit_wp (fun event s w h => event.kind = kind ∧ Bound n known status s w h)
    (fun held move => ⟨held.1, held.2.moved move⟩) ⟨rfl, bound.issued⟩
    (fun _ _ _ _ held => held.2) ?_
  rintro s' w' h' ⟨-, underway, same⟩
  refine ⟨⟨(), rfl⟩, ⟨?_, ?_, ?_, ?_, underway.staffed⟩, same⟩
  · rw [recorded_concat, List.length_append, underway.cost]
    unfold recordOf
    dsimp only
    split <;> rfl
  · rw [endings_append, underway.endings]
    rfl
  · rw [List.any_append, underway.sound]
    rfl
  · intro same
    rw [record_event_row]
    exact underway.row same

theorem emit_going {kind : String} {payload : Payload} {nodeId mode : Option String}
    (other : kind ≠ "run_cost") (bound : Bound n known status s w h) :
    (emit kind payload nodeId mode).wp (system adapters worker) (Bound n known status)
      (fun r s w h => (∃ a, r = .ok a) ∧ Bound n known status s w h) s w h := by
  have emitted : (emit kind payload nodeId mode).wp (system adapters worker)
    (Bound n known status) _ s w h := emit_bound bound
  rwa [if_neg other] at emitted

/-- A call that ends nothing, and is answered by no failure of Compensation or Reporter. -/
theorem underway_call {op : FlowOp} (event : ∀ event, op ≠ .recordEvent event)
    (ended : ∀ status, op ≠ .recordRunEnded status)
    (node : ∀ nodeId activityId state, op = .runNode nodeId activityId state →
      nodeId ≠ "compensate" ∧ nodeId ≠ "reporter") :
    (Task.call op : Flow (FlowRep op)).Keeps (system adapters worker) (Underway n known) := by
  refine Task.keeps_call ?_ (fun underway move => (underway.moved move).1) ?_
  · exact fun underway => underway.concat rfl rfl rfl id underway.staffed
  · intro s w h r s' w' underway served
    have staffed := underway.staffed.served served
    cases served with
    | recordEvent => exact absurd rfl (event _)
    | recordRunEnded => exact absurd rfl (ended _)
    | recordRunStarted =>
        refine underway.concat rfl rfl rfl (fun row => ?_) staffed
        unfold AuditStore.recordRunStarted
        split
        · exact row
        · rfl
    | recordRunStatus =>
        refine underway.concat rfl rfl rfl (fun row => ?_) staffed
        simpa [AuditStore.recordRunStatus] using row
    | runNode =>
        obtain ⟨compensate, reporter⟩ := node _ _ _ rfl
        exact underway.concat rfl rfl (by simp [lapse, compensate, reporter]) id staffed
    | _ => exact underway.concat rfl rfl rfl id staffed

theorem emit_underway {kind : String} {payload : Payload} {nodeId mode : Option String}
    (other : kind ≠ "run_cost") :
    (emit kind payload nodeId mode).Keeps (system adapters worker) (Underway n known) := by
  intro s w h underway
  exact Proc.wp_mono _ _ _ (emit_going other ⟨underway, rfl⟩)
    (fun _ _ _ bound => bound.underway) fun _ _ _ _ held => held.2.underway

theorem undisturbed_underway :
    Undisturbed adapters worker (fun nodeId => nodeId ≠ "compensate" ∧ nodeId ≠ "reporter")
      (Underway (W := W) n known) := by
  refine undisturbed_of_calls ?_ ?_ fun _ event ended node _ => underway_call event ended node
  · intro s s' w h seq _ underway
    exact ⟨underway.cost, underway.endings, underway.sound, underway.row,
      underway.staffed.mono seq.ge⟩
  · intro kind payload nodeId mode other
    refine emit_underway ?_
    rintro rfl
    exact other (by simp [decisive])

/-! ## The handlers -/

/-- A handler has failed, and nothing ends the run. -/
structure Lapsed (_ : DeliveryFlow) (_ : FlowWorld W) (h : FlowHistory) : Prop where
  endings : endings h = []
  lapse : h.any lapse = true

theorem Lapsed.concat {l : Label FlowOp FlowRep FlowMove} (lapsed : Lapsed s w h)
    (ends : endOf l = none) : Lapsed s' w' (h ++ [l]) where
  endings := by rw [endings_append, lapsed.endings, ends, Option.toList_none, List.append_nil]
  lapse := by rw [List.any_append, lapsed.lapse]; rfl

theorem emit_lapsed {kind : String} {payload : Payload} {nodeId mode : Option String} :
    (emit kind payload nodeId mode).Keeps (system adapters worker) Lapsed :=
  fun _ _ _ lapsed => emit_wp (fun _ => Lapsed) (fun lapsed _ => lapsed.concat rfl)
    (lapsed.concat rfl) (fun _ _ _ _ lapsed => lapsed) fun _ _ _ lapsed => lapsed.concat rfl

/-- What a node of a handler leaves. -/
def Stepped {α : Type} (status : String) :
    Except FlowExc α → Assertion DeliveryFlow (FlowWorld W) FlowOp FlowRep FlowMove
  | .ok _ => Bound 0 true status
  | .error _ => Lapsed

theorem node_outcome_stepped {nodeId : String} {reply : Except PyError FlowState}
    (held : match reply with | .ok _ => Bound 0 true status s w h | .error _ => Lapsed s w h) :
    (nodeOutcome nodeId true reply).wp (system adapters worker) (fun _ _ _ => True)
      (Stepped status) s w h := by
  cases reply with
  | error exc =>
      refine Task.wp_bind.mpr (Proc.wp_mono _ _ _ (emit_lapsed s w h held)
        (fun _ _ _ _ => trivial) ?_)
      rintro (e | _) s w h lapsed
      · exact lapsed
      · exact lapsed
  | ok state =>
      refine Task.wp_bind.mpr (Task.wp_bind.mpr (Task.wp_read.mpr (Task.wp_bind.mpr
        ((Task.wp_update _).mpr ?_))))
      have published : ∀ fresh latest, Bound 0 true status { s with fresh, latest } w h :=
        fun _ _ => ⟨⟨held.underway.cost, held.underway.endings, held.underway.sound,
          held.underway.row, held.underway.staffed⟩, held.status⟩
      refine Task.wp_bind.mpr (Proc.wp_mono _ _ _ (emit_going (by simp) (published _ _))
        (fun _ _ _ _ => trivial) ?_)
      rintro _ s w h ⟨⟨_, rfl⟩, bound⟩
      exact ⟨⟨bound.underway.cost, bound.underway.endings, bound.underway.sound,
        bound.underway.row, bound.underway.staffed⟩, bound.status⟩

/-- A node that a handler runs returns, or the run has lapsed. -/
theorem handler_step {nodeId : String} {state : FlowState}
    (handler : nodeId = "compensate" ∨ nodeId = "reporter") (bound : Bound 0 true status s w h) :
    (nodeStep nodeId state).wp (system adapters worker) (fun _ _ _ => True) (Stepped status)
      s w h := by
  have began : Bound 0 true status { s with node := some nodeId } w h :=
    ⟨⟨bound.underway.cost, bound.underway.endings, bound.underway.sound, bound.underway.row,
      bound.underway.staffed⟩, bound.status⟩
  refine Task.wp_bind.mpr ((Task.wp_update _).mpr (Task.wp_bind.mpr
    (Proc.wp_mono _ _ _ (emit_going (by simp) began) (fun _ _ _ _ => trivial) ?_)))
  rintro _ s₁ w₁ h₁ ⟨⟨_, rfl⟩, bound₁⟩
  refine Task.wp_bind.mpr (Task.wp_bind.mpr (Task.wp_read.mpr (Task.wp_call.mpr ?_)))
  intro s₂ w₂ h₂ drift
  have bound₂ : Bound 0 true status s₂ w₂ h₂ := Task.keeps_drift (P := Bound 0 true status)
    (fun bound move => bound.moved move)
    ⟨bound₁.underway.concat rfl rfl rfl id bound₁.underway.staffed, bound₁.status⟩ drift
  refine ⟨trivial, fun reply s₃ w₃ served => ?_⟩
  have staffed := bound₂.underway.staffed.served served
  cases served with
  | runNode =>
      refine node_outcome_stepped ?_
      cases reply with
      | ok state =>
          exact ⟨bound₂.underway.concat rfl rfl (by simp [lapse]) id staffed, bound₂.status⟩
      | error e =>
          refine ⟨?_, ?_⟩
          · rw [endings_append, bound₂.underway.endings]
            rfl
          · rcases handler with rfl | rfl <;> simp [lapse]

/-- The run has been closed out and no handler failed, or one did and nothing closed it. -/
def Decided (_ : DeliveryFlow) (w : FlowWorld W) (h : FlowHistory) : Prop :=
  ClosedOut w h ∧ h.any lapse = false ∨ endings h = [] ∧ h.any lapse = true

theorem Lapsed.decided (lapsed : Lapsed s w h) : Decided s w h :=
  .inr ⟨lapsed.endings, lapsed.lapse⟩

/-- Past a step of a handler, unless it lapses. -/
theorem stepped_bind {α β : Type} {t : Flow α} {f : α → Flow β}
    (ht : t.wp (system adapters worker) (fun _ _ _ => True) (Stepped status) s w h)
    (rest : ∀ a s w h, Bound 0 true status s w h →
      (f a).wp (system adapters worker) (fun _ _ _ => True) (fun _ => Decided) s w h) :
    (t >>= f).wp (system adapters worker) (fun _ _ _ => True) (fun _ => Decided) s w h := by
  refine Task.wp_bind.mpr (Task.wp_mono ht ?_)
  rintro (e | a) s w h held
  · exact Lapsed.decided held
  · exact rest a s w h held

/-- `_finish` closes the run out. -/
theorem finish_closes (bound : Bound 0 true status s w h) (terminal : status ∈ terminalStatuses) :
    finish.wp (system adapters worker) (fun _ _ _ => True)
      (fun r _ w h => (∃ a, r = .ok a) ∧ ClosedOut w h ∧ h.any lapse = false) s w h := by
  refine Task.wp_bind.mpr (Task.wp_read.mpr (Task.wp_bind.mpr (Proc.wp_mono _ _ _
    (emit_bound bound) (fun _ _ _ _ => trivial) ?_)))
  rintro _ s₁ w₁ h₁ ⟨⟨_, rfl⟩, bound₁⟩
  refine Task.wp_bind.mpr (Task.wp_read.mpr (Task.wp_call.mpr ?_))
  intro s₂ w₂ h₂ drift
  have bound₂ : Bound 1 true status s₂ w₂ h₂ := Task.keeps_drift (P := Bound 1 true status)
    (fun bound move => bound.moved move)
    ⟨bound₁.underway.concat rfl rfl rfl id bound₁.underway.staffed, bound₁.status⟩ drift
  refine ⟨trivial, fun r s₃ w₃ served => ?_⟩
  obtain ⟨row, stands⟩ := Option.isSome_iff_exists.mp (bound₂.underway.row rfl)
  cases served with
  | recordRunEnded now =>
      have terminal := bound₁.status ▸ terminal
      refine ⟨⟨_, rfl⟩, ⟨?_, ⟨s₁.status, terminal, ?_⟩, ?_⟩, ?_⟩
      · rw [recorded_concat, List.length_append, bound₂.underway.cost]
        rfl
      · rw [endings_append, bound₂.underway.endings]
        rfl
      · refine ⟨s₁.status, some now, ?_, terminal⟩
        simp [AuditStore.standing, AuditStore.recordRunEnded, stands]
      · rw [List.any_append, bound₂.underway.sound]
        rfl

theorem finish_decided {α : Type} {f : Unit → Flow α} (bound : Bound 0 true status s w h)
    (terminal : status ∈ terminalStatuses)
    (rest : ∀ s w h, Decided s w h →
      (f ()).wp (system adapters worker) (fun _ _ _ => True) (fun _ => Decided) s w h) :
    (finish >>= f).wp (system adapters worker) (fun _ _ _ => True) (fun _ => Decided) s w h := by
  refine Task.wp_bind.mpr (Task.wp_mono (finish_closes bound terminal) ?_)
  rintro _ s w h ⟨⟨_, rfl⟩, closed⟩
  exact rest s w h (.inl closed)

theorem conclude_decided {obj : Obj} (bound : Bound 0 true status s w h)
    (terminal : status ∈ terminalStatuses) :
    (conclude params obj).wp (system adapters worker) (fun _ _ _ => True) (fun _ => Decided)
      s w h :=
  stepped_bind (handler_step (.inr rfl) bound) fun _ _ _ _ bound =>
    finish_decided bound terminal fun _ _ _ decided => decided

/-- What compensation left is on record, and the run comes to this status. -/
theorem cleaned_bind {α : Type} {state : FlowState} {next : String} {f : Unit → Flow α}
    (bound : Bound 0 true status s w h)
    (rest : ∀ s w h, Bound 0 true next s w h →
      (f ()).wp (system adapters worker) (fun _ _ _ => True) (fun _ => Decided) s w h) :
    (emitCleanup state >>= fun _ =>
      (Task.update fun flow => { flow with status := next }) >>= f).wp
        (system adapters worker) (fun _ _ _ => True) (fun _ => Decided) s w h := by
  have renamed : ∀ s w h, Bound 0 true status s w h →
      ((Task.update fun flow => { flow with status := next } : Flow Unit) >>= f).wp
        (system adapters worker) (fun _ _ _ => True) (fun _ => Decided) s w h := by
    intro s w h bound
    refine Task.wp_bind.mpr ((Task.wp_update _).mpr (rest _ _ _ ?_))
    exact ⟨⟨bound.underway.cost, bound.underway.endings, bound.underway.sound,
      bound.underway.row, bound.underway.staffed⟩, rfl⟩
  unfold emitCleanup
  split
  · exact renamed s w h bound
  · refine Task.wp_bind.mpr (Proc.wp_mono _ _ _ (emit_going (by simp) bound)
      (fun _ _ _ _ => trivial) ?_)
    rintro _ s w h ⟨⟨_, rfl⟩, bound⟩
    exact renamed s w h bound

theorem ending_decided {obj : Obj} {outcome : Except FlowExc Obj}
    (underway : Underway 0 true s w h) :
    (ending params obj outcome).wp (system adapters worker) (fun _ _ _ => True)
      (fun _ => Decided) s w h := by
  have bound : Bound 0 true s.status s w h := ⟨underway, rfl⟩
  rcases outcome with (⟨reason, falsifiedBy⟩ | ⟨error, message⟩) | obj
  · refine Task.wp_bind.mpr (Proc.wp_mono _ _ _ (emit_going (by simp) bound)
      (fun _ _ _ _ => trivial) ?_)
    rintro _ s₁ w₁ h₁ ⟨⟨_, rfl⟩, bound₁⟩
    refine Task.wp_bind.mpr (Task.wp_bind.mpr (Task.wp_read.mpr (Task.wp_bind.mpr
      (Task.wp_bind.mpr ((Task.wp_update _).mpr ?_)))))
    have marked : ∀ obj, Bound 0 true s.status (seen obj s₁) w₁ h₁ := fun _ =>
      ⟨⟨bound₁.underway.cost, bound₁.underway.endings, bound₁.underway.sound,
        bound₁.underway.row, bound₁.underway.staffed⟩, bound₁.status⟩
    refine stepped_bind (handler_step (.inl rfl) (marked _)) fun obj s₂ w₂ h₂ bound₂ => ?_
    refine cleaned_bind bound₂ fun s₃ w₃ h₃ bound₃ => ?_
    exact conclude_decided bound₃ (by decide)
  · refine Task.wp_bind.mpr (Proc.wp_mono _ _ _ (emit_going (by simp) bound)
      (fun _ _ _ _ => trivial) ?_)
    rintro _ s₁ w₁ h₁ ⟨⟨_, rfl⟩, bound₁⟩
    refine Task.wp_bind.mpr (Task.wp_bind.mpr (Task.wp_read.mpr ?_))
    refine stepped_bind (handler_step (.inl rfl) bound₁) fun obj s₂ w₂ h₂ bound₂ => ?_
    refine cleaned_bind bound₂ fun s₃ w₃ h₃ bound₃ => ?_
    refine stepped_bind (handler_step (.inr rfl) bound₃) fun _ s₄ w₄ h₄ bound₄ => ?_
    exact finish_decided bound₄ (by decide) fun _ _ _ decided => decided
  · have succeeded : Bound 0 true "succeeded" { s with status := "succeeded" } w h :=
      ⟨⟨underway.cost, underway.endings, underway.sound, underway.row, underway.staffed⟩, rfl⟩
    exact Task.wp_bind.mpr ((Task.wp_update _).mpr (conclude_decided succeeded (by decide)))

theorem fan_out_underway (brief : FlowState) :
    (fanOut brief).Keeps (system adapters worker) (Underway n known) :=
  Task.keeps_bind (emit_underway (by simp)) fun _ => underway_call (by simp) (by simp) (by simp)

/-- The first thing a run does gives it a row. -/
theorem started_underway (a : W) (s : DeliveryFlow) :
    (Task.call (FlowOp.recordRunStarted (started params)) : Flow Unit).wp
      (system adapters worker) (fun _ _ _ => True)
      (fun r s w h => (∃ a, r = .ok a) ∧ Underway 0 true s w h) s ⟨a, {}, .empty⟩ [] := by
  refine Task.wp_call.mpr ?_
  intro s₁ w₁ h₁ drift
  have start : Underway 0 false s ⟨a, {}, .empty⟩ [] :=
    ⟨rfl, rfl, rfl, by simp, staffed_empty s a {}⟩
  have underway : Underway 0 false s₁ w₁ h₁ := Task.keeps_drift (P := Underway 0 false)
    (fun underway move => (underway.moved move).1)
    (start.concat rfl rfl rfl id start.staffed) drift
  refine ⟨trivial, fun r s₂ w₂ served => ⟨⟨_, rfl⟩, ?_⟩⟩
  have staffed := underway.staffed.served served
  cases served
  obtain ⟨cost, ends, sound, -, -⟩ :=
    underway.concat (l := .reply (.recordRunStarted (started params)) ()) rfl rfl rfl id
      underway.staffed
  refine ⟨cost, ends, sound, fun _ => ?_, staffed⟩
  dsimp only [AuditStore.recordRunStarted]
  cases found : w₁.store.row <;> simp [found]

theorem run_decided {a : W} {c : FlowConfig W} {s : DeliveryFlow}
    {r : Except FlowExc FlowResult} (run : Runs adapters worker params a c)
    (done : c.proc = .done s r) : Decided s c.world c.history := by
  have kept : Undisturbed adapters worker _ (Underway (W := W) 0 true) := undisturbed_underway
  have whole : (Flow.run params).wp (system adapters worker) (fun _ _ _ => True)
      (fun _ => Decided) {} ⟨a, {}, .empty⟩ [] := by
    refine Task.wp_bind.mpr (Task.wp_read.mpr (Task.wp_bind.mpr ((Task.wp_update _).mpr
      (Task.wp_bind.mpr ?_))))
    refine Proc.wp_mono _ _ _ (started_underway a _) (fun _ _ _ _ => trivial) ?_
    rintro _ s₁ w₁ h₁ ⟨⟨_, rfl⟩, underway⟩
    refine Task.wp_bind.mpr (Task.wp_attempt.mpr (Proc.wp_mono _ _ _
      (kept.deliver (by decide) (by decide) (by decide) (by decide) (by decide) (by decide)
        fan_out_underway emit_underway s₁ w₁ h₁ underway) (fun _ _ _ _ => trivial) ?_))
    exact fun outcome s₂ w₂ h₂ underway => ending_decided underway
  have held := wp_sound whole run
  rw [done] at held
  exact held

/-- A run is closed out, once and for all, unless Compensation or Reporter failed in it. -/
theorem closedOut_iff {a : W} {c : FlowConfig W} {s : DeliveryFlow}
    {r : Except FlowExc FlowResult} (run : Runs adapters worker params a c)
    (done : c.proc = .done s r) :
    ClosedOut c.world c.history ↔ ∀ l ∈ c.history, lapse l = false := by
  have sound : c.history.any lapse = false ↔ ∀ l ∈ c.history, lapse l = false := by
    simp
  rw [← sound]
  rcases run_decided run done with ⟨closed, still⟩ | ⟨open_, lapsed⟩
  · exact iff_of_true closed still
  · refine iff_of_false ?_ (by simp [lapsed])
    rintro ⟨-, ⟨status, -, ended⟩, -⟩
    rw [open_] at ended
    cases ended

/-- The run in which everyone obliges is ended once, and returns. -/
theorem obligedRun_ends :
    (ended obligedRun).isSome = true ∧ endings obligedRun.history ≠ [] := by
  decide +kernel

theorem closedOut_iff_obliged : ∃ s r, obligedRun.proc = .done s r ∧
    (ClosedOut obligedRun.world obligedRun.history ↔
      ∀ l ∈ obligedRun.history, lapse l = false) := by
  obtain ⟨s, r, done⟩ := done_of_ended obligedRun_ends.1
  exact ⟨s, r, done, closedOut_iff obligedRun_runs done⟩

/-- A ticket system that takes no comments; everything else obliges. -/
def mute : (op : AdapterOp) → AdapterRep op
  | .comment _ _ _ => .error ⟨.adapterError, "503 Service Unavailable", none⟩
  | op => oblige op

def muteRun : FlowConfig Unit :=
  (answeringScript mute).run plainWorker [] shopParams () 100

/-- The change is released, its report fails, and the run is shown as running for good. -/
theorem report_failed_left_open : ∃ s r, Runs (answering mute) plainWorker shopParams () muteRun ∧
    muteRun.proc = .done s r ∧ muteRun.world.store.standing = some ("running", none) ∧
      ¬ ClosedOut muteRun.world muteRun.history := by
  have plays : (ended muteRun).isSome = true ∧
      muteRun.world.store.standing = some ("running", none) ∧
        (endings muteRun.history).isEmpty = true := by decide +kernel
  obtain ⟨returns, open_, none⟩ := plays
  obtain ⟨s, r, done⟩ := done_of_ended returns
  refine ⟨s, r, Script.run_runs _ _ _ _ _ _, done, open_, fun closed => ?_⟩
  obtain ⟨status, -, ended⟩ := closed.status
  rw [List.isEmpty_iff.mp none] at ended
  cases ended

end KuWarden.Flow
