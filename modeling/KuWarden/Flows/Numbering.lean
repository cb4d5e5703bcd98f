import KuWarden.Flows.Endings
import KuWarden.Flows.Ledger
import Mathlib.Data.List.TakeWhile

/-!
The two things a run numbers: its events, which it closes with what the run cost, and the
executions of its nodes. A verifier that fails while the run is being closed out breaks the
first of them.
-/
namespace KuWarden.Flow

open Process

variable {W Lbl : Type} {adapters : Adapters W Lbl} {worker : Worker} {params : FlowInput}

/-! ## Activity ids -/

def activityIdOf (nodeId : String) (n : Nat) : String := nodeId ++ "#" ++ Text.ofNat n

theorem activityId_inj {nodeId nodeId' : String} {n n' : Nat}
    (same : activityIdOf nodeId n = activityIdOf nodeId' n') : (nodeId, n) = (nodeId', n') := by
  have digits : ∀ n : Nat, '#' ∉ (Text.ofNat n).toList := by
    intro n mem
    exact absurd (Text.isDigit_ofNat mem) (by decide)
  have chars := congrArg String.toList same
  simp only [activityIdOf, String.toList_append, List.append_assoc] at chars
  obtain ⟨node, number⟩ := Text.append_cons_inj (digits n) (digits n') chars
  rw [String.toList_inj.mp node, Text.ofNat_inj number]

/-- The id of an execution that the main line scheduled, or that a verifier has seen the end
of. -/
def activityOf : Label FlowOp FlowRep FlowMove → Option String
  | .call (.runNode _ activityId _) => some activityId
  | .env (.verifier _ (.reply (.runNode _ activityId _) _)) => some activityId
  | _ => none

/-- The id of the execution that a verifier waits for. -/
def askedOf : String × Slot DeliveryFlow FlowOp FlowRep FlowExc Obj → Option String
  | (_, .running (.runNode _ activityId _) _) => some activityId
  | _ => none

/-- The ids that a run has given to executions of nodes. -/
def activityIds (pool : VerifierPool) (h : FlowHistory) : List String :=
  pool.slots.filterMap askedOf ++ h.filterMap activityOf

/-- Every id was made of a node and a number up to `n`, and no two of them of the same. -/
def Ids (n : Nat) (w : FlowWorld W) (h : FlowHistory) : Prop :=
  ∃ keys : List (String × Nat),
    (activityIds w.pool h).Perm (keys.map fun key => activityIdOf key.1 key.2) ∧ keys.Nodup ∧
      ∀ key ∈ keys, key.2 ≤ n

variable {n m : Nat} {s s' : DeliveryFlow} {w w' : FlowWorld W} {h : FlowHistory}

theorem Ids.nodup (ids : Ids n w h) : (activityIds w.pool h).Nodup := by
  obtain ⟨keys, same, nodup, -⟩ := ids
  refine same.nodup_iff.mpr (nodup.map ?_)
  intro key key' equal
  exact activityId_inj equal

theorem Ids.mono (ids : Ids n w h) (le : n ≤ m) : Ids m w h := by
  obtain ⟨keys, same, nodup, bound⟩ := ids
  exact ⟨keys, same, nodup, fun key mem => (bound key mem).trans le⟩

theorem Ids.perm {h' : FlowHistory} (ids : Ids n w h)
    (same : (activityIds w'.pool h').Perm (activityIds w.pool h)) : Ids n w' h' := by
  obtain ⟨keys, perm, nodup, bound⟩ := ids
  exact ⟨keys, same.trans perm, nodup, bound⟩

/-- New ids, of different nodes and with a number that no earlier one has. -/
theorem Ids.given {h' : FlowHistory} {nodes : List String} (ids : Ids n w h) (lt : n < m)
    (distinct : nodes.Nodup) (same : (activityIds w'.pool h').Perm
      (activityIds w.pool h ++ nodes.map fun nodeId => activityIdOf nodeId m)) :
    Ids m w' h' := by
  obtain ⟨keys, perm, nodup, bound⟩ := ids
  refine ⟨keys ++ nodes.map fun nodeId => (nodeId, m), ?_, ?_, ?_⟩
  · rw [List.map_append, List.map_map]
    exact same.trans (perm.append_right _)
  · refine List.nodup_append.mpr ⟨nodup, distinct.map fun _ _ equal => (Prod.mk.inj equal).1, ?_⟩
    intro key mem key' mem' equal
    obtain ⟨nodeId, -, rfl⟩ := List.mem_map.mp mem'
    have le := bound key mem
    rw [equal] at le
    exact absurd le (Nat.not_le.mpr lt)
  · intro key mem
    rcases List.mem_append.mp mem with old | new
    · exact (bound key old).trans lt.le
    · obtain ⟨nodeId, -, rfl⟩ := List.mem_map.mp new
      exact le_rfl

theorem activityIds_concat {pool : VerifierPool} {l : Label FlowOp FlowRep FlowMove} :
    activityIds pool (h ++ [l]) = activityIds pool h ++ (activityOf l).toList := by
  unfold activityIds
  rw [List.filterMap_append, List.append_assoc]
  cases found : activityOf l with
  | none => rw [List.filterMap_cons_none found]; rfl
  | some id => rw [List.filterMap_cons_some found]; rfl

/-- A label that ends no execution and schedules none. -/
theorem Ids.concat {l : Label FlowOp FlowRep FlowMove} (ids : Ids n w h)
    (plain : activityOf l = none) (pool : w'.pool = w.pool) : Ids n w' (h ++ [l]) := by
  refine ids.perm ?_
  rw [activityIds_concat, plain, pool, Option.toList_none, List.append_nil]

/-- The ledger is kept, every id has a number up to `n`, and the counter has reached `m`. -/
structure Stamped (n m : Nat) (s : DeliveryFlow) (w : FlowWorld W) (h : FlowHistory) :
    Prop where
  ledger : Ledger s w h
  ids : Ids n w h
  reached : m ≤ s.seq

/-- What waited in the pool for the end of its execution has now seen it. -/
theorem activityIds_ended {before after : List String} {pool pool' : VerifierPool}
    {l : Label FlowOp FlowRep FlowMove} {id : String} (ended : activityOf l = some id)
    (was : pool.slots.filterMap askedOf = before ++ [id] ++ after)
    (now : pool'.slots.filterMap askedOf = before ++ after) :
    (activityIds pool' (h ++ [l])).Perm (activityIds pool h) := by
  rw [activityIds_concat, ended]
  unfold activityIds
  rw [was, now]
  refine List.perm_iff_count.mpr fun x => ?_
  simp only [List.count_append, Option.toList_some]
  omega

theorem Stamped.moved {l : FlowMove} (stamped : Stamped n m s w h)
    (move : (system adapters worker).env s w l s' w') : Stamped n m s' w' (h ++ [.env l]) := by
  have ledger := stamped.ledger.moved move
  have none : ∀ {before after : List String},
      before ++ (Option.none : Option String).toList ++ after = before ++ after := by
    intro before after
    rw [Option.toList_none, List.append_nil]
  cases stamped.ledger.staffed.moves move with
  | signal a => exact ⟨ledger, stamped.ids.concat rfl rfl, stamped.reached⟩
  | returned found =>
      obtain ⟨before, after, was, now⟩ := Pool.filterMap_settle askedOf (.finished _) found
      exact ⟨ledger, stamped.ids.perm (activityIds_ended rfl was (now.trans none)),
        stamped.reached⟩
  | failed found =>
      obtain ⟨before, after, was, now⟩ := Pool.filterMap_settle askedOf (.running _ _) found
      exact ⟨ledger, stamped.ids.perm (activityIds_ended rfl was (now.trans none)),
        stamped.reached.trans (Nat.le_succ _)⟩
  | noted found =>
      obtain ⟨before, after, was, now⟩ := Pool.filterMap_settle askedOf (.finished _) found
      refine ⟨ledger, stamped.ids.perm ?_, stamped.reached⟩
      rw [activityIds_concat]
      unfold activityIds
      rw [now.trans was.symm]
      exact List.Perm.of_eq (List.append_nil _)

/-- A call that schedules no execution. -/
theorem stamped_call {op : FlowOp} (event : ∀ event, op ≠ .recordEvent event)
    (starts : ∀ brief, op ≠ .startVerifiers brief)
    (node : ∀ nodeId activityId state, op ≠ .runNode nodeId activityId state) :
    (Task.call op : Flow (FlowRep op)).Keeps (system adapters worker) (Stamped n m) := by
  refine Task.keeps_call ?_ (fun stamped move => stamped.moved move) ?_
  · intro s w h stamped
    refine ⟨stamped.ledger.called event, stamped.ids.concat ?_ rfl, stamped.reached⟩
    cases op with
    | runNode nodeId activityId state => exact absurd rfl (node _ _ _)
    | _ => rfl
  · intro s w h r s' w' stamped served
    obtain ⟨rfl, pool⟩ := serves_calm served starts
    exact ⟨stamped.ledger.served event starts served, stamped.ids.concat rfl pool,
      stamped.reached⟩

/-- Once an event is recorded, the counter is past what it was. -/
theorem emit_stamped {kind : String} {payload : Payload} {nodeId mode : Option String}
    (stamped : Stamped n m s w h) :
    (emit kind payload nodeId mode).wp (system adapters worker) (Stamped n m)
      (fun r s w h => r = .ok () ∧ Stamped n (m + 1) s w h) s w h := by
  refine emit_wp (fun event s w h => Awaits event s w h ∧ Stamped n (m + 1) s w h)
    (fun held move => ⟨held.1.moved move, held.2.moved move⟩) ?_
    (fun _ _ _ _ held => ⟨held.2.ledger, held.2.ids, (Nat.le_succ _).trans held.2.reached⟩) ?_
  · have awaits : Awaits ⟨s.seq + 1, kind, nodeId, payload, mode⟩ { s with seq := s.seq + 1 } w
        (h ++ [.call (.recordEvent ⟨s.seq + 1, kind, nodeId, payload, mode⟩)]) :=
      stamped.ledger.awaits rfl
    exact ⟨awaits, awaits.ledger, stamped.ids.concat rfl rfl, Nat.succ_le_succ stamped.reached⟩
  · intro s' w' h' held
    exact ⟨rfl, held.1.recorded, held.2.ids.concat rfl rfl, held.2.reached⟩

/-- The ledger is kept, and every id has a number that the counter has reached. -/
def Scheduled (s : DeliveryFlow) (w : FlowWorld W) (h : FlowHistory) : Prop :=
  ∃ n, Stamped n n s w h

theorem Stamped.scheduled (stamped : Stamped n m s w h) (le : n ≤ m) : Scheduled s w h :=
  ⟨s.seq, stamped.ledger, stamped.ids.mono (le.trans stamped.reached), le_rfl⟩

theorem Scheduled.moved {l : FlowMove} (scheduled : Scheduled s w h)
    (move : (system adapters worker).env s w l s' w') : Scheduled s' w' (h ++ [.env l]) := by
  obtain ⟨n, stamped⟩ := scheduled
  exact ⟨n, stamped.moved move⟩

theorem scheduled_bookkeeping : Bookkeeping (W := W) Scheduled := by
  intro s s' w h seq approvals scheduled
  obtain ⟨n, stamped⟩ := scheduled
  exact ⟨n, ledger_bookkeeping s s' w h seq approvals stamped.ledger, stamped.ids,
    seq ▸ stamped.reached⟩

theorem scheduled_call {op : FlowOp} (event : ∀ event, op ≠ .recordEvent event)
    (starts : ∀ brief, op ≠ .startVerifiers brief)
    (node : ∀ nodeId activityId state, op ≠ .runNode nodeId activityId state) :
    (Task.call op : Flow (FlowRep op)).Keeps (system adapters worker) Scheduled := by
  intro s w h scheduled
  obtain ⟨n, stamped⟩ := scheduled
  exact Proc.wp_mono _ _ _ (stamped_call event starts node s w h stamped)
    (fun _ _ _ stamped => ⟨n, stamped⟩) fun _ _ _ _ stamped => ⟨n, stamped⟩

theorem emit_scheduled {kind : String} {payload : Payload} {nodeId mode : Option String} :
    (emit kind payload nodeId mode).Keeps (system adapters worker) Scheduled := by
  intro s w h scheduled
  obtain ⟨n, stamped⟩ := scheduled
  exact Proc.wp_mono _ _ _ (emit_stamped stamped) (fun _ _ _ stamped => ⟨n, stamped⟩)
    fun _ _ _ _ held => held.2.scheduled (Nat.le_succ _)

theorem execute_scheduled {nodeId : String} {state : FlowState} (lt : n < m)
    (stamped : Stamped n m s w h) :
    (execute nodeId state).wp (system adapters worker) Scheduled (fun _ => Scheduled)
      s w h := by
  refine Task.wp_bind.mpr (Task.wp_read.mpr (Task.wp_call.mpr ?_))
  intro s' w' h' drift
  have issued : Scheduled s w (h ++ [.call (.runNode nodeId
      (nodeId ++ "#" ++ Text.ofNat s.seq) state)]) := by
    refine ⟨s.seq, stamped.ledger.called (by simp), ?_, le_rfl⟩
    refine stamped.ids.given (lt.trans_le stamped.reached) (List.nodup_singleton nodeId) ?_
    rw [activityIds_concat]
    exact List.Perm.refl _
  have out := Task.keeps_drift (P := Scheduled) (fun held move => held.moved move) issued drift
  refine ⟨out, fun r s'' w'' served => ?_⟩
  obtain ⟨k, stamped⟩ := out
  obtain ⟨rfl, pool⟩ := serves_calm served (by simp)
  exact ⟨k, stamped.ledger.served (by simp) (by simp) served, stamped.ids.concat rfl pool,
    stamped.reached⟩

theorem undisturbed_scheduled :
    Undisturbed adapters worker (fun _ => True) (Scheduled (W := W)) where
  bookkeeping := scheduled_bookkeeping
  emit _ := emit_scheduled
  call event _ node starts := scheduled_call event starts node
  nodeStep := by
    intro nodeId state _
    refine Task.keeps_bind (scheduled_bookkeeping.update (fun _ => rfl) fun _ => rfl)
      fun _ => ?_
    intro s w h scheduled
    obtain ⟨n, stamped⟩ := scheduled
    refine Task.wp_bind.mpr (Proc.wp_mono _ _ _ (emit_stamped stamped)
      (fun _ _ _ stamped => ⟨n, stamped⟩) ?_)
    rintro _ s w h ⟨rfl, stamped⟩
    refine Task.wp_bind.mpr (Task.wp_mono (execute_scheduled (Nat.lt_succ_self n) stamped) ?_)
    rintro (e | reply) s w h scheduled
    · exact scheduled
    · exact keeps_node_outcome scheduled_bookkeeping (fun _ _ _ _ => emit_scheduled) s w h
        scheduled

/-- Each verifier that starts is given the same number. -/
theorem started_asked (brief : FlowState) (vs : List String) (s : DeliveryFlow) :
    (Pool.startSlots (branch brief) vs s).2.filterMap askedOf =
      vs.map fun v => activityIdOf v s.seq := by
  induction vs generalizing s with
  | nil => rfl
  | cons v rest ih => exact congrArg (activityIdOf v s.seq :: ·) (ih _)

theorem fan_out_scheduled (brief : FlowState) (scheduled : Scheduled s w h)
    (alone : Alone s w h) :
    (fanOut brief).wp (system adapters worker) Scheduled (fun _ => Scheduled) s w h := by
  obtain ⟨n, stamped⟩ := scheduled
  have still : (emit "verifiers_started" (.verifiersStarted verifierIds.length)).Keeps
      (system adapters worker) (Alone (W := W)) := undisturbed_alone.emit (by simp [decisive])
  refine Task.wp_bind.mpr (Proc.wp_mono _ _ _
    (Proc.wp_and _ _ _ (emit_stamped stamped) (still s w h alone))
    (fun _ _ _ held => ⟨n, held.1⟩) ?_)
  rintro _ s w h ⟨⟨rfl, stamped⟩, alone⟩
  refine Task.wp_call.mpr ?_
  intro s' w' h' drift
  obtain ⟨stamped, alone⟩ : Stamped n (n + 1) s' w' h' ∧ Alone s' w' h' :=
    Task.keeps_drift (P := fun s w h => Stamped n (n + 1) s w h ∧ Alone s w h)
      (fun held move => ⟨held.1.moved move, alone_moved held.2 move⟩)
      ⟨⟨stamped.ledger.called (by simp), stamped.ids.concat rfl rfl, stamped.reached⟩, alone⟩
      drift
  refine ⟨stamped.scheduled (Nat.le_succ n), fun r s'' w'' served => ?_⟩
  cases served
  have ledger := stamped.ledger.started alone brief
  obtain ⟨-, seq, -, -⟩ := startSlots_branch brief verifierIds s'
  have seq : (Pool.start (branch brief) verifierIds s').1.seq = s'.seq := seq
  refine ⟨s'.seq, ledger, ?_, seq.ge⟩
  refine stamped.ids.given stamped.reached (show verifierIds.Nodup by decide) ?_
  rw [activityIds_concat]
  unfold activityIds
  rw [show w'.pool = .empty from alone, show (Pool.start (branch brief) verifierIds s').2.slots =
    (Pool.startSlots (branch brief) verifierIds s').2 from rfl, started_asked]
  refine List.perm_iff_count.mpr fun x => ?_
  simp only [List.count_append, Pool.empty, List.filterMap_nil, List.count_nil, activityOf,
    Option.toList_none]
  omega

/-! ## Closing a run out -/

def startsClosing : Label FlowOp FlowRep FlowMove → Bool
  | .call (.recordEvent event) => event.kind = "run_cost"
  | _ => false

/-- What happens from then on. -/
def closing (h : FlowHistory) : FlowHistory := h.dropWhile fun l => !startsClosing l

def verifierFails : Label FlowOp FlowRep FlowMove → Bool
  | .env (.verifier _ (.reply (.runNode _ _ _) reply)) =>
      match (show Except PyError FlowState from reply) with
      | .ok _ => false
      | .error _ => true
  | _ => false

/-- The run is not being closed out yet. -/
structure Open (_ : DeliveryFlow) (_ : FlowWorld W) (h : FlowHistory) : Prop where
  closing : closing h = []
  endings : endings h = []

/-- Since this event, the cost of the run, the main line has numbered no other. -/
structure Closing (cost : EventRecorded) (s : DeliveryFlow) (h : FlowHistory) : Prop where
  kind : cost.kind = "run_cost"
  since : ∃ rest, closing h = .call (.recordEvent cost) :: rest ∧
    (∀ event, .call (.recordEvent event) ∉ rest) ∧
    cost.seq + rest.countP verifierFails = s.seq

theorem closing_concat {l : Label FlowOp FlowRep FlowMove} :
    closing (h ++ [l]) = if closing h = [] then (if startsClosing l then [l] else [])
      else closing h ++ [l] := by
  unfold closing
  rw [List.dropWhile_append]
  cases found : startsClosing l <;> simp [List.isEmpty_iff, found]

theorem Open.concat {l : Label FlowOp FlowRep FlowMove} (still : Open s w h)
    (plain : startsClosing l = false) (ends : endOf l = none) : Open s' w' (h ++ [l]) where
  closing := by simp [closing_concat, still.closing, plain]
  endings := by rw [endings_append, still.endings, ends, Option.toList_none, List.append_nil]

theorem open_call {op : FlowOp} (event : ∀ event, op ≠ .recordEvent event)
    (ended : ∀ status, op ≠ .recordRunEnded status) :
    (Task.call op : Flow (FlowRep op)).Keeps (system adapters worker) Open := by
  refine Task.keeps_call (fun still => still.concat ?_ rfl) (fun still _ => still.concat rfl rfl)
    fun still _ => still.concat rfl ?_
  · cases op with
    | recordEvent e => exact absurd rfl (event e)
    | _ => rfl
  · cases op with
    | recordRunEnded status => exact absurd rfl (ended status)
    | _ => rfl

theorem emit_open {kind : String} {payload : Payload} {nodeId mode : Option String}
    (other : kind ≠ "run_cost") :
    (emit kind payload nodeId mode).Keeps (system adapters worker) Open :=
  fun _ _ _ still => emit_wp (fun _ => Open) (fun still _ => still.concat rfl rfl)
    (still.concat (by simp [startsClosing, other]) rfl) (fun _ _ _ _ still => still)
    fun _ _ _ still => still.concat rfl rfl

theorem undisturbed_open :
    Undisturbed adapters worker (fun _ => True) (Open (W := W)) := by
  refine undisturbed_of_calls (fun _ _ _ _ _ _ still => ⟨still.closing, still.endings⟩) ?_
    fun _ event ended _ _ => open_call event ended
  intro kind payload nodeId mode other
  refine emit_open ?_
  rintro rfl
  exact other (by simp [decisive])

theorem Closing.concat {cost : EventRecorded} {l : Label FlowOp FlowRep FlowMove}
    (held : Closing cost s h) (plain : ∀ event, l ≠ .call (.recordEvent event))
    (seq : s'.seq = s.seq + if verifierFails l then 1 else 0) : Closing cost s' (h ++ [l]) := by
  obtain ⟨rest, since, silent, count⟩ := held.since
  refine ⟨held.kind, rest ++ [l], ?_, ?_, ?_⟩
  · rw [closing_concat, since, if_neg (List.cons_ne_nil _ _), List.cons_append]
  · intro event mem
    rcases List.mem_append.mp mem with mem | last
    · exact silent event mem
    · exact plain event (List.mem_singleton.mp last).symm
  · rw [List.countP_append, List.countP_singleton, seq]
    omega

/-- A verifier that fails takes a number of its own, and nothing else beside the main line
does. -/
theorem beside_seq {l : FlowMove} (beside : Beside adapters worker s w l s' w') :
    s'.seq = s.seq + if verifierFails (.env l) then 1 else 0 := by
  cases beside <;> rfl

/-- What is left to say of a run that is being closed out, or is not. -/
structure Final (s : DeliveryFlow) (w : FlowWorld W) (h : FlowHistory) : Prop where
  scheduled : Scheduled s w h
  closing : Open s w h ∨ ∃ cost, Closing cost s h

theorem Closing.moved {cost : EventRecorded} {l : FlowMove} (held : Closing cost s h)
    (staffed : Staffed s w) (move : (system adapters worker).env s w l s' w') :
    Closing cost s' (h ++ [.env l]) :=
  held.concat (by simp) (beside_seq (staffed.moves move))

theorem record_run_ended_final {cost : EventRecorded} {status : String}
    (stamped : Stamped n n s w h) (held : Closing cost s h) :
    (Task.call (FlowOp.recordRunEnded status) : Flow Unit).wp (system adapters worker) Final
      (fun _ => Final) s w h := by
  have kept : (Task.call (FlowOp.recordRunEnded status) : Flow Unit).Keeps
      (system adapters worker) fun s w h => Stamped (W := W) n n s w h ∧ Closing cost s h := by
    refine Task.keeps_call ?_ ?_ ?_
    · rintro s w h ⟨stamped, held⟩
      exact ⟨⟨stamped.ledger.called (by simp), stamped.ids.concat rfl rfl, stamped.reached⟩,
        held.concat (by simp) rfl⟩
    · rintro s w h l s' w' ⟨stamped, held⟩ move
      exact ⟨stamped.moved move, held.moved stamped.ledger.staffed move⟩
    · rintro s w h r s' w' ⟨stamped, held⟩ served
      obtain ⟨rfl, pool⟩ := serves_calm served (by simp)
      exact ⟨⟨stamped.ledger.served (by simp) (by simp) served, stamped.ids.concat rfl pool,
        stamped.reached⟩, held.concat (by simp) rfl⟩
  have final : ∀ s w h, Stamped (W := W) n n s w h ∧ Closing cost s h → Final s w h :=
    fun _ _ _ held => ⟨⟨n, held.1⟩, .inr ⟨cost, held.2⟩⟩
  exact Proc.wp_mono _ _ _ (kept s w h ⟨stamped, held⟩) final fun _ => final

/-- From the record of the cost on, no number goes to anything but a verifier that fails. -/
theorem finish_final (scheduled : Scheduled s w h) (still : Open s w h) :
    finish.wp (system adapters worker) Final (fun _ => Final) s w h := by
  obtain ⟨n, stamped⟩ := scheduled
  have issued : ∀ {event : EventRecorded}, event.seq = s.seq + 1 → event.kind = "run_cost" →
      Closing event { s with seq := s.seq + 1 } (h ++ [.call (.recordEvent event)]) := by
    intro event seq kind
    refine ⟨kind, [], ?_, by simp, seq⟩
    simp [closing_concat, still.closing, startsClosing, kind]
  have emitted : ∀ payload, (emit "run_cost" payload).wp (system adapters worker) Final
      (fun r s w h => r = .ok () ∧ Stamped n n s w h ∧ ∃ cost, Closing cost s h) s w h := by
    intro payload
    refine emit_wp (fun event s w h => Awaits event s w h ∧ Stamped n (n + 1) s w h ∧
      Closing event s h) ?_ ?_ ?_ ?_
    · rintro event s w h l s' w' ⟨awaits, stamped, held⟩ move
      exact ⟨awaits.moved move, stamped.moved move, held.moved stamped.ledger.staffed move⟩
    · have awaits : Awaits ⟨s.seq + 1, "run_cost", none, payload, none⟩
          { s with seq := s.seq + 1 } w
          (h ++ [.call (.recordEvent ⟨s.seq + 1, "run_cost", none, payload, none⟩)]) :=
        stamped.ledger.awaits rfl
      exact ⟨awaits, ⟨awaits.ledger, stamped.ids.concat rfl rfl,
        Nat.succ_le_succ stamped.reached⟩, issued rfl rfl⟩
    · rintro event s w h ⟨-, stamped, held⟩
      exact ⟨stamped.scheduled (Nat.le_succ n), .inr ⟨event, held⟩⟩
    · rintro s w h ⟨awaits, stamped, held⟩
      exact ⟨rfl, ⟨awaits.recorded, stamped.ids.concat rfl rfl,
        (Nat.le_succ n).trans stamped.reached⟩, _, held.concat (by simp) rfl⟩
  refine Task.wp_bind.mpr (Task.wp_read.mpr (Task.wp_bind.mpr (Task.wp_mono (emitted _) ?_)))
  rintro _ s₁ w₁ h₁ ⟨rfl, stamped₁, cost, held₁⟩
  exact Task.wp_bind.mpr (Task.wp_read.mpr (record_run_ended_final stamped₁ held₁))

theorem phases_final : Phases adapters worker
    (fun (s : DeliveryFlow) (w : FlowWorld W) h => (Scheduled s w h ∧ Open s w h) ∧ Alone s w h)
    (fun s w h => Scheduled s w h ∧ Open s w h) Final where
  alone := (undisturbed_scheduled.and undisturbed_open).and undisturbed_alone
  whole := undisturbed_scheduled.and undisturbed_open
  weaken _ _ _ held := held.1
  close _ _ _ held := ⟨held.1, .inl held.2⟩
  fans brief s w h held := by
    have opened : (fanOut brief).Keeps (system adapters worker) (Open (W := W)) :=
      Task.keeps_bind (emit_open (by simp)) fun _ => open_call (by simp) (by simp)
    exact Proc.wp_and _ _ _ (fan_out_scheduled brief held.1.1 held.2) (opened s w h held.1.2)
  emit other := emit_scheduled.and (emit_open other)
  finish s w h held := finish_final held.1 held.2

theorem final_of_runs {a : W} {c : FlowConfig W} (run : Runs adapters worker params a c) :
    Final c.proc.state c.world c.history := by
  refine phases_final.holds ⟨⟨⟨0, ledger_start a {} rfl, ?_, le_rfl⟩, rfl, rfl⟩, rfl⟩ run
  exact ⟨[], List.Perm.refl _, List.nodup_nil, by simp⟩

theorem ledger_of_runs {a : W} {c : FlowConfig W} (run : Runs adapters worker params a c) :
    Ledger c.proc.state c.world c.history := by
  obtain ⟨n, stamped⟩ := (final_of_runs run).scheduled
  exact stamped.ledger

/-! ## The numbers of a run that ended -/

/-- What may be on the trail once a run has ended: an event that a verifier was still waiting
for may be recorded after all, or be lost. -/
def Persisted (c : FlowConfig W) (trail : List EventRecorded) : Prop :=
  ∃ late : List EventRecorded, late.Subperm (pending c.world.pool) ∧
    trail = (late.foldl AuditStore.recordEvent c.world.store).trail

/-- The events are numbered without a gap up to the last, which is what the run cost, and no
two executions of nodes went by one id. -/
structure Numbered (c : FlowConfig W) : Prop where
  events : ∀ trail, Persisted c trail → ∃ cost ∈ trail, cost.kind = "run_cost" ∧
    (trail.map EventRecorded.seq).Perm (List.range' 1 cost.seq)
  activities : (activityIds c.world.pool c.history).Nodup

/-- Every failure of a verifier is on record when the run ends, and none of them comes once
the run is being closed out. -/
structure Hushed (c : FlowConfig W) : Prop where
  heard : pending c.world.pool = []
  quiet : ∀ l ∈ closing c.history, verifierFails l = false

/-- Events that are on their way come to follow the trail. -/
theorem record_events_fresh {store : AuditStore} {late : List EventRecorded}
    (nodup : ((store.trail ++ late).map EventRecorded.seq).Nodup) :
    (late.foldl AuditStore.recordEvent store).trail = store.trail ++ late := by
  induction late generalizing store with
  | nil => exact (List.append_nil _).symm
  | cons event rest ih =>
      have fresh : ∀ row ∈ store.trail, row.seq ≠ event.seq := by
        rw [List.map_append, List.nodup_append] at nodup
        exact fun row mem => nodup.2.2 _ (List.mem_map_of_mem mem) _
          (List.mem_map_of_mem List.mem_cons_self)
      have next := AuditStore.record_event_fresh fresh
      rw [List.foldl_cons, ih, next, List.append_assoc, List.singleton_append]
      rwa [next, List.append_assoc, List.singleton_append]

/-- What the main line was to record, it waits for or has recorded. -/
theorem known_of_called {h : FlowHistory} {event : EventRecorded}
    (called : .call (.recordEvent event) ∈ h) : event ∈ inFlight h ∨ event ∈ mains h := by
  induction h using List.reverseRecOn with
  | nil => cases called
  | append_singleton h l ih =>
      rw [inFlight_append, mains_append, List.mem_append]
      rcases List.mem_append.mp called with earlier | last
      · rcases ih earlier with waits | recorded
        · cases l with
          | call op =>
              cases op with
              | recordEvent => exact .inl (List.mem_append_left _ waits)
              | _ => exact .inl waits
          | env move => exact .inl waits
          | reply op r =>
              cases op with
              | recordEvent landed =>
                  by_cases same : event = landed
                  · exact .inr (.inr (by simp [mainOf, same]))
                  · exact .inl ((List.mem_erase_of_ne same).mpr waits)
              | _ => exact .inl waits
        · exact .inr (.inl recorded)
      · rw [← List.mem_singleton.mp last]
        exact .inl (List.mem_append_right _ List.mem_cons_self)

/-- A run's books when it has been closed out with this cost. -/
structure Books (c : FlowConfig W) (n : Nat) (cost : EventRecorded) (rest : FlowHistory) :
    Prop where
  numbers : ((c.world.store.trail ++ pending c.world.pool).map EventRecorded.seq).Perm
    (List.range' 1 n)
  waits : ∀ event ∈ pending c.world.pool, event.kind = "node_failed"
  listed : cost ∈ c.world.store.trail
  kind : cost.kind = "run_cost"
  only : ∀ event ∈ c.world.store.trail, event.kind = "run_cost" → event = cost
  closing : closing c.history = .call (.recordEvent cost) :: rest
  count : cost.seq + rest.countP verifierFails = n

theorem books_of_ended {a : W} {c : FlowConfig W} {s : DeliveryFlow}
    {r : Except FlowExc FlowResult} (run : Runs adapters worker params a c)
    (done : c.proc = .done s r) (ended : endings c.history ≠ []) :
    ∃ cost rest, Books c s.seq cost rest := by
  have settled := wp_sound (inFlight_settles (S := system adapters worker) (Flow.run params) {}
    ⟨a, {}, .empty⟩ []) run
  rw [done] at settled
  have idle : inFlight c.history = [] := List.perm_nil.mp settled
  obtain ⟨⟨n, stamped⟩, still | ⟨cost, held⟩⟩ := final_of_runs run
  · exact absurd still.endings ended
  rw [done] at stamped held
  have ledger := stamped.ledger
  obtain ⟨rest, since, silent, count⟩ := held.since
  have closes : ∀ l, l ∈ closing c.history → l ∈ c.history :=
    fun l mem => (List.dropWhile_sublist _).subset mem
  have recorded : cost ∈ mains c.history := by
    have called := closes _ (since ▸ List.mem_cons_self)
    have known := known_of_called called
    rw [idle] at known
    exact known.resolve_left (List.not_mem_nil)
  refine ⟨cost, rest, ?_, fun event mem => ledger.beside event (.inr mem),
    (ledger.trail cost).mpr (.inl recorded), held.kind, ?_, since, count⟩
  · have numbers := ledger.numbers
    rwa [idle, List.append_nil] at numbers
  · intro event mem kind
    rcases (ledger.trail event).mp mem with main | beside
    · -- The call that recorded it starts the closing, or is one of the main line within it.
      have called := ledger.asked event main
      rw [← List.takeWhile_append_dropWhile (p := fun l => !startsClosing l)
        (l := c.history)] at called
      rcases List.mem_append.mp called with early | late
      · have plain := List.mem_takeWhile_imp early
        simp [startsClosing, kind] at plain
      · change _ ∈ closing c.history at late
        rw [since] at late
        rcases List.mem_cons.mp late with same | within
        · cases same
          rfl
        · exact absurd within (silent event)
    · have failed := ledger.beside event (.inl beside)
      rw [kind] at failed
      exact absurd failed (by decide)

theorem Books.numbered {c : FlowConfig W} {n : Nat} {cost : EventRecorded} {rest : FlowHistory}
    (books : Books c n cost rest) (hushed : Hushed c) (trail : List EventRecorded)
    (persisted : Persisted c trail) : ∃ cost ∈ trail, cost.kind = "run_cost" ∧
      (trail.map EventRecorded.seq).Perm (List.range' 1 cost.seq) := by
  obtain ⟨late, within, rfl⟩ := persisted
  rw [hushed.heard, List.subperm_nil] at within
  subst within
  refine ⟨cost, books.listed, books.kind, ?_⟩
  have none : rest.countP verifierFails = 0 := by
    refine List.countP_eq_zero.mpr fun l mem => ?_
    rw [hushed.quiet l (books.closing ▸ List.mem_cons_of_mem _ mem)]
    decide
  have same : cost.seq = n := by
    rw [← books.count, none, Nat.add_zero]
  have numbers := books.numbers
  rw [hushed.heard, List.append_nil] at numbers
  rw [same]
  exact numbers

theorem length_of_numbers {events : List EventRecorded} {n : Nat}
    (numbers : (events.map EventRecorded.seq).Perm (List.range' 1 n)) : events.length = n := by
  have length := numbers.length_eq
  rwa [List.length_map, List.length_range'] at length

theorem Books.hushed {c : FlowConfig W} {n : Nat} {cost : EventRecorded} {rest : FlowHistory}
    (books : Books c n cost rest) (numbered : ∀ trail, Persisted c trail → ∃ cost ∈ trail, cost.kind = "run_cost" ∧
      (trail.map EventRecorded.seq).Perm (List.range' 1 cost.seq)) : Hushed c := by
  have all := length_of_numbers books.numbers
  -- With everything on its way recorded, the last number of all is that of the cost.
  have last : cost.seq = n := by
    have nodup : ((c.world.store.trail ++ pending c.world.pool).map EventRecorded.seq).Nodup :=
      books.numbers.nodup_iff.mpr (List.nodup_range' ..)
    obtain ⟨event, mem, kind, numbers⟩ :=
      numbered _ ⟨_, List.Subperm.refl _, (record_events_fresh nodup).symm⟩
    have same : event = cost := by
      rcases List.mem_append.mp mem with trail | waits
      · exact books.only event trail kind
      · have failed := books.waits event waits
        rw [kind] at failed
        exact absurd failed (by decide)
    rw [← same, ← length_of_numbers numbers, all]
  constructor
  · obtain ⟨event, mem, kind, numbers⟩ := numbered _ ⟨[], List.nil_subperm, rfl⟩
    rw [books.only event mem kind, last] at numbers
    have trail := length_of_numbers numbers
    rw [List.length_append, show c.world.store.trail.length = n from trail] at all
    exact List.eq_nil_of_length_eq_zero (by omega)
  · intro l mem
    rw [books.closing] at mem
    rcases List.mem_cons.mp mem with rfl | mem
    · rfl
    · have count := books.count
      have none : rest.countP verifierFails = 0 := by omega
      exact Bool.eq_false_iff.mpr (List.countP_eq_zero.mp none l mem)

/-- Activity ids never repeat. The events of a run that was closed out are numbered as they
should be unless a verifier fails too late, or its failure is still to be recorded. -/
theorem numbered_iff_hushed {a : W} {c : FlowConfig W} {s : DeliveryFlow}
    {r : Except FlowExc FlowResult} (run : Runs adapters worker params a c)
    (done : c.proc = .done s r) (ended : endings c.history ≠ []) : Numbered c ↔ Hushed c := by
  obtain ⟨cost, rest, books⟩ := books_of_ended run done ended
  obtain ⟨n, stamped⟩ := (final_of_runs run).scheduled
  constructor
  · exact fun numbered => books.hushed numbered.events
  · exact fun hushed => ⟨books.numbered hushed, stamped.ids.nodup⟩

theorem numbered_iff_hushed_obliged : ∃ s r, obligedRun.proc = .done s r ∧
    endings obligedRun.history ≠ [] ∧ (Numbered obligedRun ↔ Hushed obligedRun) := by
  obtain ⟨returns, ended⟩ := obligedRun_ends
  obtain ⟨s, r, done⟩ := done_of_ended returns
  exact ⟨s, r, done, ended, numbered_iff_hushed obligedRun_runs done ended⟩

/-! ## A verifier that fails too late -/

/-- A model that answers everyone but the verifiers; everything else obliges. -/
def unverified : (op : AdapterOp) → AdapterRep op
  | .complete nodeId request =>
      if Text.startsWith "verifier" nodeId then
        .error ⟨.adapterError, "503 Service Unavailable", none⟩
      else oblige (.complete nodeId request)
  | op => oblige op

def straggle (script : Script adapters) (worker : Worker) (s : DeliveryFlow)
    (w : FlowWorld W) : FlowOp → Option (FlowMove × DeliveryFlow × FlowWorld W)
  | .gatherVerifiers =>
      if w.pool.failure.isSome then none else script.verifierMove worker s w
  | .recordRunEnded _ => script.verifierMove worker s w
  | _ => none

def straggling (script : Script adapters) (worker : Worker) :
    Schedule (system adapters worker) where
  move s w op := straggle script worker s w op
  answer s w op := script.answer worker s w op
  move_env := by
    intro s w op l s' w' moved
    cases op with
    | gatherVerifiers =>
        simp only [straggle] at moved
        split_ifs at moved
        exact script.verifierMove_moves moved
    | recordRunEnded status => exact script.verifierMove_moves moved
    | _ => cases moved
  answer_serve := script.answer_serves

def straggledRun : FlowConfig Unit :=
  (straggling (answeringScript unverified) plainWorker).play 150
    (.launch (Flow.run shopParams {}) ⟨(), {}, .empty⟩ [])

theorem straggledRun_runs :
    Runs (answering unverified) plainWorker shopParams () straggledRun :=
  Schedule.play_reaches _ _ _

/-- Three verifiers fail while the run is being closed out, and number events past its cost. -/
theorem failures_follow_cost : ∃ s r,
    Runs (answering unverified) plainWorker shopParams () straggledRun ∧
      straggledRun.proc = .done s r ∧ endings straggledRun.history ≠ [] ∧
        ¬ Numbered straggledRun := by
  have plays : (Flow.ended straggledRun).isSome = true ∧ endings straggledRun.history ≠ [] ∧
      (closing straggledRun.history).any verifierFails = true := by decide +kernel
  obtain ⟨returns, ended, late⟩ := plays
  obtain ⟨s, r, done⟩ := done_of_ended returns
  refine ⟨s, r, straggledRun_runs, done, ended, fun numbered => ?_⟩
  obtain ⟨cost, rest, books⟩ := books_of_ended straggledRun_runs done ended
  obtain ⟨l, mem, fails⟩ := List.any_eq_true.mp late
  rw [(books.hushed numbered.events).quiet l mem] at fails
  cases fails

end KuWarden.Flow
