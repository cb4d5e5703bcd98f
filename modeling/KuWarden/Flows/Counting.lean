import KuWarden.Flows.Calls
import KuWarden.Flows.Latest
import KuWarden.Flows.Ledger

/-!
What the gate counts. The signals that have arrived when the run goes back to running are its
approvals; they are stored on the state that Release is called with, or Compensate.
-/
namespace KuWarden.Flow

open Process

def signalOf : Label FlowOp FlowRep FlowMove → Option ApprovalSignal
  | .env (.signal a) => some a
  | _ => none

def arrived (h : FlowHistory) : List ApprovalSignal := h.filterMap signalOf

/-- `gate_reached` is on record, and every event numbered before it. -/
def Reached (h : FlowHistory) : Prop :=
  ∃ gate ∈ mains h, gate.kind = "gate_reached" ∧ ∀ n, 1 ≤ n → n ≤ gate.seq →
    ∃ event, (event ∈ mains h ∨ event ∈ besides h) ∧ event.seq = n

def Unasked (h : FlowHistory) : Prop := ∀ op, .call op ∈ h → ¬ Suspends op

def Unhanded (h : FlowHistory) : Prop := ∀ op, .call op ∈ h → ¬ HandsOver op

/-- Nobody could be told that the gate was reached, and the run fails at it. -/
def Unnotified (h : FlowHistory) : Prop :=
  ∃ notice e, .reply (.notifyGateReached notice) (.error e) ∈ h

/-- The approvals on a state are the signals that had arrived when the run went back to
running. -/
def Stored (h : FlowHistory) (state : FlowState) : Prop :=
  ∃ early late, h = early ++ .reply (.recordRunStatus "running") () :: late ∧
    state.approvals = (arrived early).map (approvalOf state.riskTier)

/-- What a past must hold for the flow to make this call. -/
structure Fits (h : FlowHistory) (op : FlowOp) : Prop where
  suspends : Suspends op → Reached h ∧ Unhanded h
  release : ∀ activityId state, op = .runNode "release" activityId state →
    Unasked h ∨ Stored h state ∧ ∀ a ∈ state.approvals, a.approved = true
  compensate : ∀ activityId state, op = .runNode "compensate" activityId state →
    Unasked h ∨ Unnotified h ∨ Stored h state

/-- Every call so far was one that fits. -/
def Met (h : FlowHistory) : Prop := CallsMeet Fits h

variable {W Lbl : Type} {adapters : Adapters W Lbl} {worker : Worker}

/-! ## What a past keeps -/

/-- A statement about the past that such calls cannot make false, nor anything that is no
call. -/
structure Steady (ops : FlowOp → Prop) (H : FlowHistory → Prop) : Prop where
  called : ∀ {h op}, ops op → H h → H (h ++ [.call op])
  other : ∀ {h l}, (∀ op, l ≠ .call op) → H h → H (h ++ [l])

variable {ops : FlowOp → Prop} {H K : FlowHistory → Prop} {h : FlowHistory}

theorem Steady.and (hH : Steady ops H) (hK : Steady ops K) : Steady ops fun h => H h ∧ K h where
  called op held := ⟨hH.called op held.1, hK.called op held.2⟩
  other op held := ⟨hH.other op held.1, hK.other op held.2⟩

theorem Steady.or (hH : Steady ops H) (hK : Steady ops K) : Steady ops fun h => H h ∨ K h where
  called op := Or.imp (hH.called op) (hK.called op)
  other op := Or.imp (hH.other op) (hK.other op)

/-- Only the calls of a stretch need looking at. -/
theorem Steady.keeps {α : Type} {t : Flow α} (steady : Steady ops H) (only : t.Only ops) :
    t.Keeps (system adapters worker) fun _ _ h => H h :=
  only.keeps (P := fun _ h => H h) (fun op held => steady.called op held)
    (fun held _ => steady.other (by simp) held) fun _ held _ => steady.other (by simp) held

theorem steady_of_grows (grows : ∀ {h l}, H h → H (h ++ [l])) : Steady ops H :=
  ⟨fun _ => grows, fun _ => grows⟩

variable (ops) in
theorem steady_reached : Steady ops Reached := by
  refine steady_of_grows fun {h l} reached => ?_
  obtain ⟨gate, mem, kind, numbers⟩ := reached
  have mains_mem : ∀ {event}, event ∈ mains h → event ∈ mains (h ++ [l]) := by
    intro event mem
    rw [mains_append]
    exact List.mem_append_left _ mem
  refine ⟨gate, mains_mem mem, kind, fun n low high => ?_⟩
  obtain ⟨event, mem, seq⟩ := numbers n low high
  refine ⟨event, mem.imp mains_mem fun mem => ?_, seq⟩
  rw [besides_append]
  exact List.mem_append_left _ mem

theorem steady_unnotified : Steady ops Unnotified := by
  refine steady_of_grows fun unnotified => ?_
  obtain ⟨notice, e, mem⟩ := unnotified
  exact ⟨notice, e, List.mem_append_left _ mem⟩

theorem steady_stored {state : FlowState} : Steady ops fun h => Stored h state := by
  refine steady_of_grows fun {h l} stored => ?_
  obtain ⟨early, late, split, approvals⟩ := stored
  exact ⟨early, late ++ [l], by simp [split], approvals⟩

/-- No call in `bad` was made, and none of these is one. -/
theorem steady_never {bad : FlowOp → Prop} (never : ∀ op, ops op → ¬ bad op) :
    Steady ops fun h => ∀ op, .call op ∈ h → ¬ bad op := by
  constructor
  · intro h op is held op' mem
    rcases List.mem_append.mp mem with mem | last
    · exact held op' mem
    · cases List.mem_singleton.mp last
      exact never op is
  · intro h l other held op' mem
    rcases List.mem_append.mp mem with mem | last
    · exact held op' mem
    · exact absurd (List.mem_singleton.mp last).symm (other op')

/-- A call that neither suspends the run nor hands it over. -/
def Ordinary (op : FlowOp) : Prop := ¬ Suspends op ∧ ¬ HandsOver op

theorem fits_of_ordinary {op : FlowOp} (ordinary : Ordinary op) : Fits h op where
  suspends suspends := absurd suspends ordinary.1
  release _ _ same := absurd (show HandsOver op by subst same; simp [HandsOver, heirs]) ordinary.2
  compensate _ _ same :=
    absurd (show HandsOver op by subst same; simp [HandsOver, heirs]) ordinary.2

/-- Calls that fit wherever `K` holds, and leave it so, leave a past met. -/
theorem Steady.met (steady : Steady ops K) (fits : ∀ {h op}, ops op → K h → Fits h op) :
    Steady ops fun h => Met h ∧ K h where
  called op held := ⟨callsMeet_append_call.mpr ⟨held.1, fits op held.2⟩, steady.called op held.2⟩
  other op held := ⟨(callsMeet_append_other op).mpr held.1, steady.other op held.2⟩

theorem steady_met : Steady Ordinary Met where
  called op met := callsMeet_append_call.mpr ⟨met, fits_of_ordinary op⟩
  other op met := (callsMeet_append_other op).mpr met

/-- Nothing has come of the gate yet. -/
def Calm (h : FlowHistory) : Prop := Met h ∧ Unasked h ∧ Unhanded h

theorem steady_calm : Steady Ordinary Calm :=
  steady_met.and ((steady_never fun _ ordinary => ordinary.1).and
    (steady_never fun _ ordinary => ordinary.2))

theorem ordinary_of_plain : ∀ op, Plain op → Ordinary op := by
  intro op plain
  cases op <;> first | exact plain.elim | exact ⟨id, id⟩ | exact ⟨id, plain.1⟩

theorem ordinary_of_cycles : ∀ op, Cycles op → Ordinary op := by
  intro op cycles
  cases op with
  | recordEvent => exact ⟨id, id⟩
  | runNode nodeId _ _ =>
      cases show nodeId = "coder" from cycles
      exact ⟨id, by simp [HandsOver, heirs]⟩
  | _ => exact cycles.elim

theorem ordinary_of_fansOut : ∀ op, FansOut op → Ordinary op := by
  intro op fans
  cases op <;> first | exact fans.elim | exact ⟨id, id⟩

theorem ordinary_of_endsRun : ∀ op, EndsRun op → Ordinary op := by
  intro op ends
  cases op <;> first | exact ends.elim | exact ⟨id, id⟩

/-! ## What has arrived -/

variable {s s' : DeliveryFlow} {w w' : FlowWorld W}

/-- The approvals of the flow are what has arrived. -/
structure Tuned (s : DeliveryFlow) (w : FlowWorld W) (h : FlowHistory) : Prop where
  ledger : Ledger s w h
  heard : s.approvals = arrived h

theorem arrived_concat {l : Label FlowOp FlowRep FlowMove} :
    arrived (h ++ [l]) = arrived h ++ (signalOf l).toList := by
  unfold arrived
  rw [List.filterMap_append]
  cases found : signalOf l with
  | none => rw [List.filterMap_cons_none found]; rfl
  | some a => rw [List.filterMap_cons_some found]; rfl

theorem arrived_silent {l : Label FlowOp FlowRep FlowMove} (silent : signalOf l = none) :
    arrived (h ++ [l]) = arrived h := by
  rw [arrived_concat, silent, Option.toList_none, List.append_nil]

theorem heard_moved {l : FlowMove} (staffed : Staffed s w) (heard : s.approvals = arrived h)
    (move : (system adapters worker).env s w l s' w') :
    s'.approvals = arrived (h ++ [.env l]) := by
  cases staffed.moves move with
  | signal a => rw [arrived_concat, ← heard]; rfl
  | returned => rw [arrived_silent rfl]; exact heard
  | failed => rw [arrived_silent rfl]; exact heard
  | noted => rw [arrived_silent rfl]; exact heard

theorem Tuned.moved {l : FlowMove} (tuned : Tuned s w h)
    (move : (system adapters worker).env s w l s' w') : Tuned s' w' (h ++ [.env l]) :=
  ⟨tuned.ledger.moved move, heard_moved tuned.ledger.staffed tuned.heard move⟩

theorem tuned_call {op : FlowOp} (event : ∀ event, op ≠ .recordEvent event)
    (starts : ∀ brief, op ≠ .startVerifiers brief) :
    (Task.call op : Flow (FlowRep op)).Keeps (system adapters worker) Tuned := by
  refine Task.keeps_call ?_ (fun tuned move => tuned.moved move) ?_
  · intro s w h tuned
    exact ⟨tuned.ledger.called event, tuned.heard.trans (arrived_silent rfl).symm⟩
  · intro s w h r s' w' tuned served
    have ledger := tuned.ledger.served event starts served
    obtain ⟨rfl, -⟩ := serves_calm served starts
    exact ⟨ledger, tuned.heard.trans (arrived_silent rfl).symm⟩

theorem emit_tuned {kind : String} {payload : Payload} {nodeId mode : Option String} :
    (emit kind payload nodeId mode).Keeps (system adapters worker) Tuned := by
  intro s w h tuned
  refine emit_wp (fun event s w h => Awaits event s w h ∧ s.approvals = arrived h)
    (fun held move => ⟨held.1.moved move, heard_moved held.1.ledger.staffed held.2 move⟩)
    ⟨tuned.ledger.awaits rfl, tuned.heard.trans (arrived_silent rfl).symm⟩
    (fun _ _ _ _ held => ⟨held.1.ledger, held.2⟩) ?_
  exact fun s' w' h' held =>
    ⟨held.1.recorded, held.2.trans (arrived_silent rfl).symm⟩

theorem tuned_bookkeeping : Bookkeeping (W := W) Tuned := by
  intro s s' w h seq approvals tuned
  exact ⟨ledger_bookkeeping s s' w h seq approvals tuned.ledger, approvals.trans tuned.heard⟩

theorem undisturbed_tuned :
    Undisturbed adapters worker (fun _ => True) (Tuned (W := W)) :=
  undisturbed_of_calls tuned_bookkeeping (fun _ _ _ _ _ => emit_tuned)
    fun _ event _ _ starts => tuned_call event starts

theorem fan_out_tuned (brief : FlowState) (tuned : Tuned s w h) (alone : Alone s w h) :
    (fanOut brief).wp (system adapters worker) Tuned (fun _ => Tuned) s w h := by
  have both : Undisturbed adapters worker (fun _ => True) fun s w h =>
      Tuned s w h ∧ Alone s w h := undisturbed_tuned.and undisturbed_alone
  refine Task.wp_past (both.emit (by simp [decisive])) (fun _ _ _ held => held.1)
    ⟨tuned, alone⟩ ?_
  intro _ s w h held
  refine Task.wp_call.mpr ?_
  intro s' w' h' drift
  have called : Tuned s w (h ++ [.call (.startVerifiers brief)]) :=
    ⟨held.1.ledger.called (by simp), held.1.heard.trans (arrived_silent rfl).symm⟩
  obtain ⟨tuned, alone⟩ := Task.keeps_drift (P := fun s w h => Tuned s w h ∧ Alone s w h)
    (fun held move => ⟨held.1.moved move, alone_moved held.2 move⟩) ⟨called, held.2⟩ drift
  refine ⟨tuned, fun r s'' w'' served => ?_⟩
  cases served
  obtain ⟨approvals, -⟩ := startSlots_branch brief verifierIds s'
  exact ⟨tuned.ledger.started alone brief,
    (approvals.trans tuned.heard).trans (arrived_silent rfl).symm⟩

theorem verify_tuned {obj : Obj} (tuned : Tuned s w h) (alone : Alone s w h) :
    (verify obj).wp (system adapters worker) Tuned (fun _ => Tuned) s w h :=
  Task.wp_pair (fan_out_tuned _ tuned alone) fun _ => undisturbed_tuned.gathered emit_tuned

/-! ## Up to the gate -/

variable {α : Type} {params : FlowInput} {obj : Obj}

/-- Every call so far fits. -/
abbrev Fitting (_ : DeliveryFlow) (_ : FlowWorld W) (h : FlowHistory) : Prop := Met h

/-- The main line waits for nothing, and nothing has come of the gate yet. -/
structure Prepared (s : DeliveryFlow) (w : FlowWorld W) (h : FlowHistory) : Prop where
  tuned : Tuned s w h
  calm : Calm h
  idle : inFlight h = []

/-- What a stretch leaves that neither suspends the run nor hands it over. -/
theorem Prepared.past {t : Flow α}
    {Q : Except FlowExc α → Assertion DeliveryFlow (FlowWorld W) FlowOp FlowRep FlowMove}
    (prepared : Prepared s w h) (only : t.Only Ordinary)
    (tuned : t.wp (system adapters worker) Tuned (fun _ => Tuned) s w h)
    (ht : t.wp (system adapters worker) (fun _ _ _ => True) Q s w h) :
    t.wp (system adapters worker) Fitting (fun r s w h => Prepared s w h ∧ Q r s w h) s w h := by
  have kept : t.Keeps (system adapters worker) _ := steady_calm.keeps only
  have calm := kept s w h prepared.calm
  refine Proc.wp_mono _ _ _ (Proc.wp_and _ _ _ (Proc.wp_and _ _ _ calm tuned)
    (Proc.wp_and _ _ _ ht (inFlight_settles t s w h))) (fun _ _ _ both => both.1.1.1) ?_
  rintro r s w h ⟨⟨calm, tuned⟩, left, settled⟩
  rw [prepared.idle] at settled
  exact ⟨⟨tuned, calm, settled.eq_nil⟩, left⟩

theorem opening_only (plain : ∀ op, Plain op → ops op) (cycles : ∀ op, Cycles op → ops op) :
    (opening params obj).Only ops :=
  Task.only_bind (node_step_only plain (by decide)) fun _ =>
    Task.only_bind (node_step_only plain (by decide)) fun _ =>
    Task.only_bind (cycle_only plain cycles) fun _ =>
    Task.only_bind (report_isolation_only plain) fun _ => settle_tier_only plain

theorem Undisturbed.opening {P : Assertion DeliveryFlow (FlowWorld W) FlowOp FlowRep FlowMove}
    (kept : Undisturbed adapters worker (fun _ => True) P) :
    (opening params obj).Keeps (system adapters worker) P :=
  Task.keeps_bind (kept.nodeStep trivial) fun _ =>
    Task.keeps_bind (kept.nodeStep trivial) fun _ =>
    Task.keeps_bind (kept.cycle trivial trivial trivial) fun _ =>
    Task.keeps_bind kept.reportIsolation fun _ => kept.settleTier

theorem Alone.quiet (alone : Alone s w h) : Quiet w.pool := by
  rw [show w.pool = .empty from alone]
  exact quiet_empty

theorem opening_prepared (prepared : Prepared s w h) (alone : Alone s w h) :
    (opening params obj).wp (system adapters worker) Fitting
      (fun r s w h => Prepared s w h ∧ Alone s w h ∧ ∀ obj, r = .ok obj → Sole obj s w h)
      s w h := by
  refine prepared.past (opening_only ordinary_of_plain ordinary_of_cycles)
    (undisturbed_tuned.opening s w h prepared.tuned) ?_
  exact Proc.wp_mono _ _ _ (Proc.wp_and _ _ _ (undisturbed_alone.opening s w h alone)
    (opening_sole alone.quiet)) (fun _ _ _ _ => trivial) fun _ _ _ _ both => both

theorem verify_prepared (prepared : Prepared s w h) (alone : Alone s w h) :
    (verify obj).wp (system adapters worker) Fitting
      (fun r s w h => Prepared s w h ∧ ∀ obj, r = .ok obj → Sole obj s w h) s w h :=
  prepared.past (verify_only ordinary_of_plain ordinary_of_fansOut)
    (verify_tuned prepared.tuned alone) (verify_sole alone.quiet)

theorem judge_prepared (prepared : Prepared s w h) (sole : Sole obj s w h) :
    (judge params obj).wp (system adapters worker) Fitting
      (fun r s w h => Prepared s w h ∧ ∀ obj, r = .ok obj → Sole obj s w h) s w h := by
  refine Task.wp_mono (prepared.past (judge_only ordinary_of_plain)
    (undisturbed_tuned.judge s w h prepared.tuned) (judge_held sole)) ?_
  rintro r s w h ⟨prepared, obj', sole, held⟩
  refine ⟨prepared, fun obj same => ?_⟩
  rw [held obj same]
  exact sole

theorem publish_preview_latest {state : FlowState} {latest : Option Obj}
    (held : Latest latest s w h) :
    (publishPreview state).wp (system adapters worker) (fun _ _ _ => True)
      (fun _ => Latest latest) s w h := by
  unfold publishPreview
  split
  · exact held
  · refine call_latest_bind (by simp) held fun preview s w h held => ?_
    split
    · exact Task.wp_mono (emit_latest held) fun _ _ _ _ emitted => emitted.2
    · exact held

/-- The gate is on record, and its approvals are handed to nobody yet. -/
structure Gating (obj : Obj) (s : DeliveryFlow) (w : FlowWorld W) (h : FlowHistory) : Prop where
  tuned : Tuned s w h
  met : Met h
  unhanded : Unhanded h
  reached : Reached h
  sole : Sole obj s w h

/-- The main line waits for the record of the gate, and for nothing else. -/
structure Reaching (obj : Obj) (event : EventRecorded) (s : DeliveryFlow) (w : FlowWorld W)
    (h : FlowHistory) : Prop where
  awaits : Awaits event s w h
  heard : s.approvals = arrived h
  calm : Calm h
  sole : Sole obj s w h
  alone : inFlight h = [event]
  last : event.seq = s.seq

theorem pending_quiet {pool : VerifierPool} (quiet : Quiet pool) : pending pool = [] := by
  refine List.filterMap_eq_nil_iff.mpr fun entry mem => ?_
  obtain ⟨r, finished⟩ := quiet entry mem
  obtain ⟨v, slot⟩ := entry
  rw [show slot = .finished r from finished]
  rfl

theorem Reaching.moved {event : EventRecorded} {l : FlowMove}
    (reaching : Reaching obj event s w h) (move : (system adapters worker).env s w l s' w') :
    Reaching obj event s' w' (h ++ [.env l]) where
  awaits := reaching.awaits.moved move
  heard := heard_moved reaching.awaits.ledger.staffed reaching.heard move
  calm := steady_calm.other (by simp) reaching.calm
  sole := reaching.sole.moved move
  alone := by
    rw [inFlight_append]
    exact reaching.alone
  last := by
    obtain ⟨a, rfl, rfl, rfl⟩ := moves_of_quiet reaching.sole.quiet move
    exact reaching.last

/-- With the gate on record, so is everything before it. -/
theorem Reaching.gating {event : EventRecorded} (reaching : Reaching obj event s w h)
    (kind : event.kind = "gate_reached") :
    Gating obj s { w with store := w.store.recordEvent event }
      (h ++ [.reply (.recordEvent event) ()]) := by
  have ledger := reaching.awaits.recorded
  have waits : inFlight (h ++ [.reply (.recordEvent event) ()]) = [] := by
    rw [inFlight_append, reaching.alone]
    exact List.erase_cons_head ..
  have numbers := ledger.numbers
  rw [waits, pending_quiet reaching.sole.quiet, List.append_nil, List.append_nil] at numbers
  obtain ⟨met, -, unhanded⟩ := reaching.calm
  refine ⟨⟨ledger, reaching.heard.trans (arrived_silent rfl).symm⟩,
    steady_met.other (by simp) met, ?_, ⟨event, ?_, kind, ?_⟩,
    ⟨reaching.sole.quiet, reaching.sole.same⟩⟩
  · intro op mem
    rcases List.mem_append.mp mem with mem | last
    · exact unhanded op mem
    · cases List.mem_singleton.mp last
  · rw [mains_append]
    exact List.mem_append_right _ List.mem_cons_self
  · intro n low high
    have mem : n ∈ List.range' 1 s.seq := List.mem_range'_1.mpr (by rw [← reaching.last]; omega)
    obtain ⟨row, on_trail, seq⟩ := List.mem_map.mp (numbers.mem_iff.mpr mem)
    exact ⟨row, (ledger.trail row).mp on_trail, seq⟩

theorem emit_reached {payload : Payload} (prepared : Prepared s w h) (sole : Sole obj s w h) :
    (emit "gate_reached" payload).wp (system adapters worker) Fitting
      (fun r s w h => r = .ok () ∧ Gating obj s w h ∧ Unasked h) s w h := by
  refine emit_wp (fun event s w h => Reaching obj event s w h ∧ event.kind = "gate_reached")
    (fun held move => ⟨held.1.moved move, held.2⟩) ⟨?_, rfl⟩
    (fun _ _ _ _ held => held.1.calm.1) ?_
  · refine ⟨prepared.tuned.ledger.awaits rfl, prepared.tuned.heard.trans (arrived_silent rfl).symm,
      steady_calm.called ⟨id, id⟩ prepared.calm, ⟨sole.quiet, sole.same⟩, ?_, rfl⟩
    rw [inFlight_append, prepared.idle]
    rfl
  · rintro s' w' h' ⟨reaching, kind⟩
    exact ⟨rfl, reaching.gating kind, (steady_calm.other (by simp) reaching.calm).2.1⟩

/-! ## At the gate -/

theorem serves_latest {latest : Option Obj} {op : FlowOp} {r : FlowRep op}
    (starts : ∀ brief, op ≠ .startVerifiers brief) (held : Latest latest s w h)
    (served : (system adapters worker).serve s w op r s' w') :
    Latest latest s' w' (h ++ [.reply op r]) := by
  obtain ⟨rfl, pool⟩ := serves_calm served starts
  exact ⟨pool ▸ held.quiet, held.same⟩

theorem Gating.concat {l : Label FlowOp FlowRep FlowMove} (gating : Gating obj s w h)
    (other : ∀ op, l ≠ .call op) (tuned : Tuned s' w' (h ++ [l]))
    (sole : Sole obj s' w' (h ++ [l])) : Gating obj s' w' (h ++ [l]) where
  tuned := tuned
  met := steady_met.other other gating.met
  unhanded := (steady_never fun op (is : ¬ HandsOver op) => is).other other gating.unhanded
  reached := (steady_reached Suspends).other other gating.reached
  sole := sole

/-- A call of the suspended run fits, and leaves it at the gate. -/
theorem ask_gating {op : FlowOp} {t : FlowRep op → Flow α}
    {Q : Except FlowExc α → Assertion DeliveryFlow (FlowWorld W) FlowOp FlowRep FlowMove}
    (suspends : Suspends op) (gating : Gating obj s w h)
    (ht : ∀ r s w h, Gating obj s w (h ++ [.reply op r]) →
      (t r).wp (system adapters worker) Fitting Q s w (h ++ [.reply op r])) :
    (Task.call op >>= t).wp (system adapters worker) Fitting Q s w h := by
  have event : ∀ event, op ≠ .recordEvent event := by
    rintro event rfl
    exact suspends
  have starts : ∀ brief, op ≠ .startVerifiers brief := by
    rintro brief rfl
    exact suspends
  have handless : ∀ activityId nodeId state, op ≠ .runNode nodeId activityId state := by
    rintro activityId nodeId state rfl
    exact suspends
  have fits : Fits h op := ⟨fun _ => ⟨gating.reached, gating.unhanded⟩,
    fun _ _ same => absurd same (handless _ _ _), fun _ _ same => absurd same (handless _ _ _)⟩
  have called : Gating obj s w (h ++ [.call op]) :=
    ⟨⟨gating.tuned.ledger.called event, gating.tuned.heard.trans (arrived_silent rfl).symm⟩,
      callsMeet_append_call.mpr ⟨gating.met, fits⟩,
      (steady_never fun op (is : ¬ HandsOver op) => is).called
        (fun hands => by cases op <;> first | exact hands | exact suspends) gating.unhanded,
      (steady_reached Suspends).called suspends gating.reached,
      ⟨gating.sole.quiet, gating.sole.same⟩⟩
  refine Task.wp_bind.mpr (Task.wp_call.mpr fun s' w' h' drift => ?_)
  have out : Gating obj s' w' h' := by
    refine Task.keeps_drift (P := Gating obj) (fun gating move => ?_) called drift
    exact gating.concat (by simp) (gating.tuned.moved move) (gating.sole.moved move)
  refine ⟨out.met, fun r s'' w'' served => ht r s'' w'' h' ?_⟩
  refine out.concat (by simp) ⟨out.tuned.ledger.served event starts served, ?_⟩
    (serves_latest starts out.sole served)
  obtain ⟨rfl, -⟩ := serves_calm served starts
  exact out.tuned.heard.trans (arrived_silent rfl).symm

/-- What the run is left with when it fails: nothing has come of the gate, or its approvals
are stored on the latest object. -/
def Lost (s : DeliveryFlow) (w : FlowWorld W) (h : FlowHistory) : Prop :=
  Unasked h ∨ Unnotified h ∨ ∃ obj, Sole obj s w h ∧ Stored h obj.val

/-- What the gate has let pass. -/
def Waved (h : FlowHistory) (state : FlowState) : Prop :=
  Unasked h ∨ Stored h state ∧ ∀ a ∈ state.approvals, a.approved = true

def Gated : Except FlowExc Obj → Assertion DeliveryFlow (FlowWorld W) FlowOp FlowRep FlowMove
  | .ok obj => fun s w h => Met h ∧ Waved h obj.val ∧ Sole obj s w h
  | .error _ => fun s w h => Met h ∧ Lost s w h

/-- How the run comes back from its suspension. -/
def Resumed (obj : Obj) : Except FlowExc (List ApprovalSignal) →
    Assertion DeliveryFlow (FlowWorld W) FlowOp FlowRep FlowMove
  | .ok signals => fun s w h => Gating obj s w h ∧ ∃ early, signals = arrived early ∧
      h = early ++ [.reply (.recordRunStatus "running") ()]
  | .error _ => fun _ _ h => Met h ∧ Unnotified h

theorem Gating.status (gating : Gating obj s w h) (status : String) :
    Gating obj { s with status := status } w h where
  tuned := tuned_bookkeeping s _ w h rfl rfl gating.tuned
  met := gating.met
  unhanded := gating.unhanded
  reached := gating.reached
  sole := ⟨gating.sole.quiet, gating.sole.same⟩

theorem suspend_resumed {needed : Nat} {state : FlowState} (gating : Gating obj s w h) :
    (suspend needed state).wp (system adapters worker) Fitting (Resumed obj) s w h := by
  refine Task.wp_bind.mpr ((Task.wp_update _).mpr ?_)
  refine ask_gating trivial (gating.status _) fun _ s w h gating => ?_
  refine ask_gating trivial gating fun notified s w h gating => ?_
  cases notified with
  | error exc => exact ⟨gating.met, _, exc, List.mem_append_right _ List.mem_cons_self⟩
  | ok _ =>
      refine ask_gating trivial gating fun _ s w h gating => ?_
      refine Task.wp_bind.mpr ((Task.wp_update _).mpr ?_)
      refine ask_gating trivial (gating.status _) fun _ s w h gating => ?_
      refine Task.wp_bind.mpr (Task.wp_read.mpr ⟨gating, h, ?_, rfl⟩)
      exact gating.tuned.heard.trans (arrived_silent rfl)

/-- An event of the main line, while the past holds what it is to hold. -/
theorem emit_steady {K : FlowHistory → Prop} {kind : String} {payload : Payload}
    {nodeId mode : Option String} {latest : Option Obj} (steady : Steady Ordinary K)
    (met : Met h) (held : K h) (left : Latest latest s w h) :
    (emit kind payload nodeId mode).wp (system adapters worker) Fitting
      (fun r s w h => r = .ok () ∧ Met h ∧ K h ∧ Latest latest s w h) s w h := by
  have kept : (emit kind payload nodeId mode).Keeps (system adapters worker) _ :=
    (steady_met.and steady).keeps (record_only fun _ => ⟨id, id⟩)
  refine Proc.wp_mono _ _ _ (Proc.wp_and _ _ _ (kept s w h ⟨met, held⟩) (emit_latest left))
    (fun _ _ _ both => both.1.1) ?_
  rintro r s w h ⟨⟨met, held⟩, same, left⟩
  exact ⟨same, met, held, left⟩

theorem count_gated {early : FlowHistory} {signals : List ApprovalSignal} (met : Met h)
    (sole : Sole obj s w h) (heard : signals = arrived early)
    (split : ∃ late, h = early ++ .reply (.recordRunStatus "running") () :: late) :
    (count signals obj).wp (system adapters worker) Fitting Gated s w h := by
  obtain ⟨late, split⟩ := split
  refine mutate_sole_bind sole fun obj' s counted sole => ?_
  have stored : Stored h obj'.val := by
    refine ⟨early, late, split, ?_⟩
    rw [counted, heard]
  split
  · refine Task.wp_bind.mpr (Task.wp_mono (emit_steady steady_stored met stored sole) ?_)
    rintro _ s w h ⟨rfl, met, stored, sole⟩
    exact ⟨met, .inr (.inr ⟨obj', sole, stored⟩)⟩
  next unrejected =>
    refine Task.wp_bind.mpr (Task.wp_mono (emit_steady steady_stored met stored sole) ?_)
    rintro _ s w h ⟨rfl, met, stored, sole⟩
    refine ⟨met, .inr ⟨stored, fun a mem => ?_⟩, sole⟩
    rw [counted] at mem
    obtain ⟨signal, listed, rfl⟩ := List.mem_map.mp mem
    have approves : ∀ a ∈ signals, a.approved = true := by simpa using unrejected
    exact approves signal listed

theorem gate_gated (prepared : Prepared s w h) (sole : Sole obj s w h) :
    (gate obj).wp (system adapters worker) Fitting Gated s w h := by
  refine Task.wp_bind.mpr (Task.wp_mono (prepared.past (publish_preview_only ordinary_of_plain)
    (undisturbed_tuned.publishPreview s w h prepared.tuned) (publish_preview_latest sole)) ?_)
  rintro (e | _) s w h ⟨prepared, sole⟩
  · exact ⟨prepared.calm.1, .inl prepared.calm.2.1⟩
  refine Task.wp_bind.mpr (Task.wp_mono (emit_reached prepared sole) ?_)
  rintro _ s w h ⟨rfl, gating, unasked⟩
  rw [Task.andThen_ok]
  split
  · refine Task.wp_bind.mpr (Task.wp_mono (emit_steady
      (steady_never fun _ ordinary => ordinary.1) gating.met unasked gating.sole) ?_)
    rintro _ s w h ⟨rfl, met, unasked, sole⟩
    exact ⟨met, .inl unasked, sole⟩
  · refine Task.wp_bind.mpr (Task.wp_mono (suspend_resumed gating) ?_)
    rintro (e | signals) s w h held
    · exact ⟨held.1, .inr (.inl held.2)⟩
    · obtain ⟨gating, early, heard, split⟩ := held
      exact count_gated gating.met gating.sole heard ⟨[], split⟩

/-! ## To Release, or to Compensate -/

theorem Steady.mono {ops' : FlowOp → Prop} (steady : Steady ops' H)
    (le : ∀ op, ops op → ops' op) : Steady ops H where
  called op held := steady.called (le _ op) held
  other op held := steady.other op held

theorem steady_const {p : Prop} : Steady ops fun _ => p := ⟨fun _ => id, fun _ => id⟩

/-- A node whose call fits wherever `K` holds. -/
theorem hand_met {K : FlowHistory → Prop} {nodeId : String} {state : FlowState}
    (steady : Steady (fun op => ¬ Suspends op) K)
    (fits : ∀ {h activityId}, K h → Fits h (.runNode nodeId activityId state)) :
    (nodeStep nodeId state).Keeps (system adapters worker) fun _ _ h => Met h ∧ K h := by
  have only : (nodeStep nodeId state).Only fun op =>
      Plain op ∨ ∃ activityId, op = .runNode nodeId activityId state :=
    any_step_only (fun _ plain => .inl plain) fun _ => .inr ⟨_, rfl⟩
  refine Steady.keeps (Steady.met (steady.mono ?_) ?_) only
  · rintro op (plain | ⟨activityId, rfl⟩)
    · exact (ordinary_of_plain op plain).1
    · exact id
  · rintro h op (plain | ⟨activityId, rfl⟩) held
    · exact fits_of_ordinary (ordinary_of_plain op plain)
    · exact fits held

theorem steady_waved {state : FlowState} :
    Steady (fun op => ¬ Suspends op) fun h => Waved h state :=
  (steady_never fun _ is => is).or (steady_stored.and steady_const)

theorem Waved.fits {state : FlowState} {activityId : String} (waved : Waved h state) :
    Fits h (.runNode "release" activityId state) where
  suspends absurd := absurd.elim
  release _ _ same := by
    cases same
    exact waved
  compensate _ _ same := by simp at same

/-- What the run is left with when it turns to its end. -/
def Delivered :
    Except FlowExc Obj → Assertion DeliveryFlow (FlowWorld W) FlowOp FlowRep FlowMove
  | .ok _ => Fitting
  | .error _ => fun s w h => Met h ∧ Lost s w h

theorem release_delivered (met : Met h) (waved : Waved h obj.val) (sole : Sole obj s w h) :
    (nodeStep "release" obj.val).wp (system adapters worker) Fitting Delivered s w h := by
  refine Proc.wp_mono _ _ _ (Proc.wp_and _ _ _
    (hand_met steady_waved Waved.fits s w h ⟨met, waved⟩) (node_step_leaves sole))
    (fun _ _ _ both => both.1.1) ?_
  rintro (e | released) s w h ⟨⟨met, waved⟩, left⟩
  · exact ⟨met, waved.imp_right fun stored => .inr ⟨obj, left, stored.1⟩⟩
  · exact met

/-- The effect of a release is recorded, which cannot fail the run. -/
theorem report_effect_met {state : FlowState} (met : Met h) :
    (reportEffect state).wp (system adapters worker) Fitting
      (fun r _ _ h => r = .ok () ∧ Met h) s w h := by
  unfold reportEffect
  split
  · exact ⟨rfl, met⟩
  · exact emit_wp (fun _ _ _ h => Met h) (fun met _ => steady_met.other (by simp) met)
      (steady_met.called ⟨id, id⟩ met) (fun _ _ _ _ met => met)
      fun _ _ _ met => ⟨rfl, steady_met.other (by simp) met⟩

theorem approach_eq : approach params obj = opening params obj >>= fun obj =>
    verify obj >>= fun obj => judge params obj >>= gate := by
  unfold approach opening
  simp only [Task.bind_assoc]

theorem deliver_delivered (prepared : Prepared s w h) (alone : Alone s w h) :
    (deliver params obj).wp (system adapters worker) Fitting Delivered s w h := by
  have unmoved : ∀ {s : DeliveryFlow} {w : FlowWorld W} {h}, Prepared s w h → Lost s w h :=
    fun prepared => .inl prepared.calm.2.1
  unfold deliver
  rw [approach_eq]
  simp only [Task.bind_assoc]
  refine Task.wp_bind.mpr (Task.wp_mono (opening_prepared prepared alone) ?_)
  rintro (e | opened) s w h ⟨prepared, alone, -⟩
  · exact ⟨prepared.calm.1, unmoved prepared⟩
  refine Task.wp_bind.mpr (Task.wp_mono (verify_prepared prepared alone) ?_)
  rintro (e | checked) s w h ⟨prepared, sole⟩
  · exact ⟨prepared.calm.1, unmoved prepared⟩
  refine Task.wp_bind.mpr (Task.wp_mono (judge_prepared prepared (sole _ rfl)) ?_)
  rintro (e | judged) s w h ⟨prepared, sole⟩
  · exact ⟨prepared.calm.1, unmoved prepared⟩
  refine Task.wp_bind.mpr (Task.wp_mono (gate_gated prepared (sole _ rfl)) ?_)
  rintro (e | passed) s w h held
  · exact held
  obtain ⟨met, waved, sole⟩ := held
  refine Task.wp_bind.mpr (Task.wp_mono (release_delivered met waved sole) ?_)
  rintro (e | released) s w h held
  · exact held
  refine Task.wp_bind.mpr (Task.wp_mono (report_effect_met held) ?_)
  rintro _ s w h ⟨rfl, met⟩
  exact met

/-- What Compensate may be called on: the run was not suspended, or failed while it was. -/
def Aborted (h : FlowHistory) : Prop := Unasked h ∨ Unnotified h

theorem steady_aborted : Steady (fun op => ¬ Suspends op) Aborted :=
  (steady_never fun _ is => is).or steady_unnotified

/-- A call that is made after an exception. -/
def Closes (op : FlowOp) : Prop :=
  Ordinary op ∨ ∃ activityId state, op = .runNode "compensate" activityId state

theorem closes_of_plain : ∀ op, Plain op → Closes op := fun op plain =>
  .inl (ordinary_of_plain op plain)

theorem fits_compensate {activityId : String} {state : FlowState}
    (held : Unasked h ∨ Unnotified h ∨ Stored h state) :
    Fits h (.runNode "compensate" activityId state) where
  suspends absurd := absurd.elim
  release _ _ same := by simp at same
  compensate _ _ same := by
    cases same
    exact held

/-- What was not stored is missed by nobody. -/
theorem steady_closing : Steady Closes fun h => Met h ∧ Aborted h := by
  refine Steady.met (steady_aborted.mono ?_) ?_
  · rintro op (ordinary | ⟨activityId, state, rfl⟩)
    · exact ordinary.1
    · exact id
  · rintro h op (ordinary | ⟨activityId, state, rfl⟩) aborted
    · exact fits_of_ordinary ordinary
    · exact fits_compensate (aborted.imp_right .inl)

/-- Compensate is handed the latest object; what follows is ordinary. -/
theorem compensate_met {β : Type} {t : Obj → Flow β} {state : FlowState} (met : Met h)
    (stored : Stored h state) (rest : ∀ obj, (t obj).Only Ordinary) :
    (nodeStep "compensate" state >>= t).wp (system adapters worker) Fitting
      (fun _ => Fitting) s w h := by
  have handed : (nodeStep "compensate" state).Keeps (system adapters worker) _ :=
    hand_met steady_stored fun stored => fits_compensate (.inr (.inr stored))
  refine Task.wp_bind.mpr (Proc.wp_mono _ _ _ (handed s w h ⟨met, stored⟩) (fun _ _ _ held => held.1) ?_)
  rintro (e | compensated) s w h ⟨met, -⟩
  · exact met
  · exact steady_met.keeps (rest compensated) s w h met

theorem doomed_bind {β : Type} {latest : Obj} {t : Obj → Flow β}
    {Q : Except FlowExc β → Assertion DeliveryFlow (FlowWorld W) FlowOp FlowRep FlowMove}
    (sole : Sole latest s w h) (ht : (t latest).wp (system adapters worker) Fitting Q s w h) :
    (doomed obj >>= t).wp (system adapters worker) Fitting Q s w h := by
  refine doomed_latest_bind ?_
  rw [sole.same]
  exact ht

theorem ending_met {outcome : Except FlowExc Obj} (delivered : Delivered outcome s w h) :
    (ending params obj outcome).wp (system adapters worker) Fitting (fun _ => Fitting)
      s w h := by
  have plain := ordinary_of_plain
  have ends := ordinary_of_endsRun
  have closing : ∀ {outcome}, Met h → Aborted h → (ending params obj outcome).wp
      (system adapters worker) Fitting (fun _ => Fitting) s w h := by
    intro outcome met aborted
    refine Proc.wp_mono _ _ _ (steady_closing.keeps (ending_only closes_of_plain
      (fun op is => .inl (ends op is)) fun activityId state => .inr ⟨_, _, rfl⟩)
      s w h ⟨met, aborted⟩) (fun _ _ _ held => held.1) fun _ _ _ _ held => held.1
  rcases outcome with e | delivered'
  · obtain ⟨met, unasked | unnotified | ⟨latest, sole, stored⟩⟩ := delivered
    · exact closing met (.inl unasked)
    · exact closing met (.inr unnotified)
    cases e with
    | rejected reason falsifiedBy =>
        refine Task.wp_bind.mpr (Task.wp_mono (emit_steady steady_stored met stored sole) ?_)
        rintro _ s w h ⟨rfl, met, stored, sole⟩
        refine doomed_bind sole (mutate_sole_bind sole fun lost s same sole => ?_)
        refine compensate_met met ?_ fun obj => ?_
        · obtain ⟨early, late, split, approvals⟩ := stored
          refine ⟨early, late, split, ?_⟩
          rw [same]
          exact approvals
        · exact Task.only_bind (emit_cleanup_only plain) fun _ =>
            Task.only_bind (Task.only_update _) fun _ => conclude_only plain ends
    | failure error message =>
        refine Task.wp_bind.mpr (Task.wp_mono (emit_steady steady_stored met stored sole) ?_)
        rintro _ s w h ⟨rfl, met, stored, sole⟩
        refine doomed_bind sole (compensate_met met stored fun obj => ?_)
        exact Task.only_bind (emit_cleanup_only plain) fun _ =>
          Task.only_bind (Task.only_update _) fun _ =>
          Task.only_bind (node_step_only plain (by decide)) fun _ =>
          Task.only_bind (finish_only plain ends) fun _ => Task.only_raise _
  · exact steady_met.keeps (Task.only_bind (Task.only_update _) fun _ =>
      conclude_only plain ends) s w h delivered

theorem run_met (a : W) :
    (run params).wp (system adapters worker) Fitting (fun _ => Fitting) {} ⟨a, {}, .empty⟩
      [] := by
  have start : Prepared { ({} : DeliveryFlow) with fresh := 1 } ⟨a, {}, .empty⟩ [] :=
    ⟨⟨ledger_start a _ rfl, rfl⟩, ⟨callsMeet_nil _,
      fun _ mem => absurd mem List.not_mem_nil, fun _ mem => absurd mem List.not_mem_nil⟩, rfl⟩
  refine Task.wp_bind.mpr (Task.wp_read.mpr (Task.wp_bind.mpr ((Task.wp_update _).mpr ?_)))
  have began : (Task.call (FlowOp.recordRunStarted (started params)) : Flow Unit).wp
      (system adapters worker) Fitting (fun _ s w h => Prepared s w h ∧ Alone s w h) _ _ [] :=
    start.past (Task.only_call ⟨id, id⟩) (tuned_call (by simp) (by simp) _ _ _ start.tuned)
      (Proc.wp_mono _ _ _ (alone_call (by simp) _ ⟨a, {}, .empty⟩ [] rfl)
        (fun _ _ _ _ => trivial) fun _ _ _ _ alone => alone)
  refine Task.wp_bind.mpr (Task.wp_mono began ?_)
  rintro (e | _) s w h ⟨prepared, alone⟩
  · exact prepared.calm.1
  refine Task.wp_bind.mpr (Task.wp_attempt.mpr (Task.wp_mono
    (deliver_delivered prepared alone) ?_))
  exact fun outcome s w h delivered => ending_met delivered

/-- The run lemma: every call of every run fits its past. -/
theorem met_of_runs {a : W} {c : FlowConfig W} (run : Runs adapters worker params a c) :
    Met c.history :=
  wp_invariant (run_met a) run

end KuWarden.Flow
