import KuWarden.Flows.Calls
import KuWarden.Flows.Numbering

/-!
The events of a run that stand out from the rest: those that some reader of the trail looks
for, and that neither the nodes nor the gate record.
-/
namespace KuWarden.Flow

open Process

/-- The nodes a run passes through. -/
def nodes : List String := verifierIds ++ [
  "triage", "planner", "coder", "push", "build_test", "release", "compensate", "reporter"]

/-- What is recorded but by the fan-out, by the judgement of its verdicts and by a rejection. -/
def asides : List String := [
  "node_started", "node_completed", "node_failed", "branch_pushed", "build_test_verdict",
  "sandbox_isolation", "risk_tier_final", "preview_published", "gate_reached", "gate_passed",
  "gate_rejected", "external_effect", "run_failed", "compensated", "run_cost"]

structure Aside (event : EventRecorded) : Prop where
  kind : event.kind ∈ asides
  nodeId : ∀ nodeId, event.nodeId = some nodeId → nodeId ∈ nodes

/-- Any call but the record of something that is not aside. -/
def Apart : FlowOp → Prop
  | .recordEvent event => Aside event
  | _ => True

/-! ## What records nothing else -/

section Calls

variable {params : FlowInput} {obj : Obj} {state : FlowState}

theorem call_apart {op : FlowOp} (event : ∀ event, op ≠ .recordEvent event) :
    (Task.call op : Flow (FlowRep op)).Only Apart := by
  refine Task.only_call ?_
  cases op with
  | recordEvent e => exact absurd rfl (event e)
  | _ => trivial

theorem emit_apart {kind : String} {payload : Payload} {mode : Option String}
    (aside : kind ∈ asides) : (emit kind payload none mode).Only Apart :=
  record_only fun _ => ⟨aside, fun _ absurd => nomatch absurd⟩

theorem emit_node_apart {kind nodeId : String} {payload : Payload} {mode : Option String}
    (aside : kind ∈ asides) (node : nodeId ∈ nodes) :
    (emit kind payload (some nodeId) mode).Only Apart :=
  record_only fun _ => ⟨aside, fun _ same => Option.some.inj same ▸ node⟩

theorem node_outcome_apart {nodeId : String} (node : nodeId ∈ nodes) {record : Bool}
    {reply : Except PyError FlowState} : (nodeOutcome nodeId record reply).Only Apart := by
  cases reply with
  | error exc =>
      exact Task.only_bind (emit_node_apart (by decide) node) fun _ => Task.only_raise _
  | ok state =>
      refine Task.only_bind publish_only fun result => ?_
      split
      · exact Task.only_bind (emit_node_apart (by decide) node) fun _ => mutate_only
      · exact Task.only_pure _

theorem node_step_apart {nodeId : String} (node : nodeId ∈ nodes) {record : Bool} :
    (nodeStep nodeId state record).Only Apart := by
  have executed : (execute nodeId state).Only Apart :=
    Task.only_bind Task.only_read fun _ => call_apart (by simp)
  refine Task.only_bind (Task.only_update _) fun _ => ?_
  dsimp only
  split
  · exact Task.only_bind (emit_node_apart (by decide) node) fun _ =>
      Task.only_bind executed fun _ => node_outcome_apart node
  · exact Task.only_bind executed fun _ => node_outcome_apart node

theorem pass_apart {attempt : Nat} : (pass attempt obj).Only Apart := by
  refine Task.only_bind mutate_only fun _ =>
    Task.only_bind (node_step_apart (by decide)) fun _ =>
    Task.only_bind (node_step_apart (by decide)) fun _ =>
    Task.only_bind (emit_node_apart (by decide) (by decide)) fun _ =>
    Task.only_bind (call_apart (by simp)) fun _ =>
    Task.only_bind (node_step_apart (by decide)) fun built => ?_
  split
  · exact Task.only_pure _
  · exact Task.only_bind (emit_node_apart (by decide) (by decide)) fun _ => Task.only_pure _

theorem cycle_apart {attempts : List Nat} : (cycle attempts obj).Only Apart := by
  induction attempts generalizing obj with
  | nil => exact Task.only_raise _
  | cons attempt rest ih =>
      refine Task.only_bind pass_apart fun _ => ?_
      split
      · exact Task.only_pure _
      · exact ih

theorem report_isolation_apart : (reportIsolation state).Only Apart := by
  unfold reportIsolation
  split
  · exact Task.only_pure _
  · exact emit_apart (by decide)

theorem settle_tier_apart : (settleTier params obj).Only Apart :=
  Task.only_bind mutate_only fun _ => Task.only_bind (emit_apart (by decide)) fun _ =>
    Task.only_pure _

theorem gate_apart : (gate obj).Only Apart := by
  have previewed : (publishPreview obj.val).Only Apart := by
    unfold publishPreview
    split
    · exact Task.only_pure _
    · refine Task.only_bind (call_apart (by simp)) fun preview => ?_
      split
      · exact emit_apart (by decide)
      · exact Task.only_pure _
  have suspends : ∀ op, Suspends op → Apart op := by
    intro op suspends
    cases op <;> trivial
  refine Task.only_bind previewed fun _ => Task.only_bind (emit_apart (by decide)) fun _ => ?_
  split
  · exact Task.only_bind (emit_apart (by decide)) fun _ => Task.only_pure _
  · refine Task.only_bind (suspend_only suspends) fun signals =>
      Task.only_bind mutate_only fun _ => ?_
    split
    · exact Task.only_bind (emit_apart (by decide)) fun _ => Task.only_raise _
    · exact Task.only_bind (emit_apart (by decide)) fun _ => Task.only_pure _

theorem report_effect_apart : (reportEffect state).Only Apart := by
  unfold reportEffect
  split
  · exact Task.only_pure _
  · exact emit_node_apart (by decide) (by decide)

theorem emit_cleanup_apart : (emitCleanup state).Only Apart := by
  unfold emitCleanup
  split
  · exact Task.only_pure _
  · exact emit_node_apart (by decide) (by decide)

theorem finish_apart : finish.Only Apart :=
  Task.only_bind Task.only_read fun _ => Task.only_bind (emit_apart (by decide)) fun _ =>
    Task.only_bind Task.only_read fun _ => call_apart (by simp)

theorem conclude_apart : (conclude params obj).Only Apart :=
  Task.only_bind (node_step_apart (by decide)) fun _ => Task.only_bind finish_apart fun _ =>
    Task.only_bind Task.only_read fun _ => Task.only_pure _

end Calls

variable {W Lbl : Type} {adapters : Adapters W Lbl} {worker : Worker} {params : FlowInput}
  {s s' : DeliveryFlow} {w w' : FlowWorld W} {h : FlowHistory}

/-! ## The order of the events -/

/-- What the main line recorded is numbered in the order in which it did. -/
structure Sorted (s : DeliveryFlow) (w : FlowWorld W) (h : FlowHistory) : Prop where
  ledger : Ledger s w h
  order : (mains h).Pairwise fun early late => early.seq < late.seq

theorem Sorted.concat {l : Label FlowOp FlowRep FlowMove} (sorted : Sorted s w h)
    (silent : mainOf l = none) (ledger : Ledger s' w' (h ++ [l])) : Sorted s' w' (h ++ [l]) where
  ledger := ledger
  order := by
    rw [mains_silent silent]
    exact sorted.order

theorem Sorted.moved {l : FlowMove} (sorted : Sorted s w h)
    (move : (system adapters worker).env s w l s' w') : Sorted s' w' (h ++ [.env l]) :=
  sorted.concat rfl (sorted.ledger.moved move)

theorem sorted_bookkeeping : Bookkeeping (W := W) Sorted := by
  intro s s' w h seq approvals sorted
  exact ⟨ledger_bookkeeping s s' w h seq approvals sorted.ledger, sorted.order⟩

theorem sorted_call {op : FlowOp} (event : ∀ event, op ≠ .recordEvent event)
    (starts : ∀ brief, op ≠ .startVerifiers brief) :
    (Task.call op : Flow (FlowRep op)).Keeps (system adapters worker) Sorted := by
  refine Task.keeps_call (fun sorted => sorted.concat rfl (sorted.ledger.called event))
    (fun sorted move => sorted.moved move) ?_
  intro s w h r s' w' sorted served
  refine sorted.concat ?_ (sorted.ledger.served event starts served)
  cases op with
  | recordEvent e => exact absurd rfl (event e)
  | _ => rfl

/-- While the main line waits for an event, it has recorded none with a higher number. -/
theorem emit_sorted {kind : String} {payload : Payload} {nodeId mode : Option String} :
    (emit kind payload nodeId mode).Keeps (system adapters worker) Sorted := by
  intro s w h sorted
  refine emit_wp (fun event s w h => Awaits event s w h ∧
      (mains h ++ [event]).Pairwise fun early late => early.seq < late.seq)
    (fun held move => ⟨held.1.moved move, ?_⟩) ⟨sorted.ledger.awaits rfl, ?_⟩
    (fun _ _ _ _ held => ⟨held.1.ledger, (List.pairwise_append.mp held.2).1⟩) ?_
  · rw [mains_silent rfl]
    exact held.2
  · rw [mains_silent rfl, List.pairwise_append]
    refine ⟨sorted.order, List.pairwise_singleton _ _, fun early mem late last => ?_⟩
    have recorded := (sorted.ledger.trail early).mpr (.inl mem)
    have bound := sorted.ledger.bound (List.mem_append_left _ (List.mem_append_left _ recorded))
    rw [List.mem_singleton.mp last]
    exact Nat.lt_succ_of_le bound.2
  · intro s' w' h' held
    refine ⟨held.1.recorded, ?_⟩
    rw [mains_append]
    exact held.2

theorem undisturbed_sorted :
    Undisturbed adapters worker (fun _ => True) (Sorted (W := W)) :=
  undisturbed_of_calls sorted_bookkeeping (fun _ _ _ _ _ => emit_sorted)
    fun _ event _ _ starts => sorted_call event starts

theorem fan_out_sorted (brief : FlowState) (sorted : Sorted s w h) (alone : Alone s w h) :
    (fanOut brief).wp (system adapters worker) Sorted (fun _ => Sorted) s w h := by
  have both : Undisturbed adapters worker (fun _ => True) fun s w h =>
      Sorted s w h ∧ Alone s w h := undisturbed_sorted.and undisturbed_alone
  refine Task.wp_past (both.emit (by simp [decisive])) (fun _ _ _ held => held.1)
    ⟨sorted, alone⟩ ?_
  intro _ s w h held
  refine Task.wp_call.mpr ?_
  intro s' w' h' drift
  obtain ⟨sorted, alone⟩ : Sorted s' w' h' ∧ Alone s' w' h' :=
    Task.keeps_drift (P := fun s w h => Sorted s w h ∧ Alone s w h)
      (fun held move => ⟨held.1.moved move, alone_moved held.2 move⟩)
      ⟨held.1.concat rfl (held.1.ledger.called (by simp)), held.2⟩ drift
  refine ⟨sorted, fun r s'' w'' served => ?_⟩
  cases served
  exact sorted.concat rfl (sorted.ledger.started alone brief)

theorem phases_sorted : Phases adapters worker
    (fun (s : DeliveryFlow) (w : FlowWorld W) h => Sorted s w h ∧ Alone s w h) Sorted Sorted where
  alone := undisturbed_sorted.and undisturbed_alone
  whole := undisturbed_sorted
  weaken _ _ _ held := held.1
  close _ _ _ held := held
  fans brief s w h held := fan_out_sorted brief held.1 held.2
  emit _ := emit_sorted
  finish := Task.keeps_bind Task.keeps_read fun _ => Task.keeps_bind emit_sorted fun _ =>
    Task.keeps_bind Task.keeps_read fun _ => sorted_call (by simp) (by simp)

theorem sorted_of_runs {a : W} {c : FlowConfig W} (run : Runs adapters worker params a c) :
    Sorted c.proc.state c.world c.history :=
  phases_sorted.holds ⟨⟨ledger_start a {} rfl, .nil⟩, rfl⟩ run

/-! ## The events that stand out -/

/-- Whatever else is on record, nothing aside stands out. -/
def Telling (p : EventRecorded → Bool) : Prop := ∀ event, Aside event → p event = false

/-- What the main line recorded that stands out; the verifiers beside it record nothing that
does. -/
structure Marked (p : EventRecorded → Bool) (marks : List EventRecorded) (w : FlowWorld W)
    (h : FlowHistory) : Prop where
  pool : w.pool.Only Apart
  beside : ∀ event ∈ besides h, p event = false
  main : (mains h).filter p = marks

variable {p : EventRecorded → Bool} {marks : List EventRecorded}

/-- A label by which the main line records nothing that stands out. -/
theorem Marked.past {l : Label FlowOp FlowRep FlowMove} (marked : Marked p marks w h)
    (pool : w'.pool.Only Apart) (beside : besideOf l = none)
    (silent : ∀ event, mainOf l = some event → p event = false) :
    Marked p marks w' (h ++ [l]) where
  pool := pool
  beside := by
    rw [besides_silent beside]
    exact marked.beside
  main := by
    rw [mains_append, List.filter_append, marked.main]
    cases found : mainOf l with
    | none => exact List.append_nil marks
    | some event =>
        rw [Option.toList_some, List.filter_cons_of_neg (by simp [silent event found]),
          List.filter_nil, List.append_nil]

theorem Marked.next {l : Label FlowOp FlowRep FlowMove} {event : EventRecorded}
    (marked : Marked p marks w h) (pool : w'.pool.Only Apart) (beside : besideOf l = none)
    (recorded : mainOf l = some event) (stands : p event = true) :
    Marked p (marks ++ [event]) w' (h ++ [l]) where
  pool := pool
  beside := by
    rw [besides_silent beside]
    exact marked.beside
  main := by
    rw [mains_append, List.filter_append, marked.main, recorded, Option.toList_some,
      List.filter_cons_of_pos stands, List.filter_nil]

theorem Marked.moved {l : FlowMove} (telling : Telling p) (marked : Marked p marks w h)
    (move : (system adapters worker).env s w l s' w') : Marked p marks w' (h ++ [.env l]) := by
  cases move with
  | signal a => exact marked.past marked.pool rfl fun _ absurd => nomatch absurd
  | verifier move =>
      cases move with
      | @answer i v op k r _ _ found served =>
          have allowed := marked.pool _ (List.mem_of_getElem? found)
          refine ⟨marked.pool.settle _ _ (Slot.only_ofProc (allowed.2 _ _)), ?_, ?_⟩
          · rw [besides_append]
            intro event mem
            rcases List.mem_append.mp mem with old | new
            · exact marked.beside event old
            · cases op with
              | recordEvent recorded =>
                  rw [List.mem_singleton.mp new]
                  exact telling recorded allowed.1
              | _ => cases new
          · rw [mains_silent rfl]
            exact marked.main

/-- What an answer does to the verifiers beside the flow. -/
theorem Marked.served {op : FlowOp} {r : FlowRep op} (marked : Marked p marks w h)
    (served : (system adapters worker).serve s w op r s' w') : w'.pool.Only Apart := by
  cases served with
  | startVerifiers =>
      refine Pool.only_start (fun v mem => node_step_apart ?_) _
      exact List.mem_append_left _ mem
  | _ => exact marked.pool

/-- What records nothing else leaves what stands out as it is. -/
theorem keeps_marked {α : Type} {t : Flow α} (telling : Telling p) (apart : t.Only Apart) :
    t.Keeps (system adapters worker) fun _ w h => Marked p marks w h := by
  refine apart.keeps (fun _ marked => marked.past marked.pool rfl fun _ absurd => nomatch absurd)
    (fun marked move => marked.moved telling move) ?_
  intro s w h op r s' w' only marked served
  refine marked.past (marked.served served) rfl fun event recorded => ?_
  cases op with
  | recordEvent other =>
      cases recorded
      exact telling _ only
  | _ => cases recorded

/-- An event that stands out follows those before it. -/
theorem emit_marked {kind : String} {payload : Payload} {nodeId mode : Option String}
    (telling : Telling p) (marked : Marked p marks w h)
    (stands : ∀ seq, p ⟨seq, kind, nodeId, payload, mode⟩ = true) :
    (emit kind payload nodeId mode).wp (system adapters worker)
      (fun _ w h => Marked p marks w h)
      (fun r _ w h => r = .ok () ∧
        ∃ seq, Marked p (marks ++ [⟨seq, kind, nodeId, payload, mode⟩]) w h) s w h := by
  refine Task.wp_bind.mpr ((Task.wp_update _).mpr (Task.wp_bind.mpr
    (Task.wp_read.mpr (Task.wp_call.mpr ?_))))
  intro s' w' h' drift
  have out : Marked p marks w' h' :=
    Task.keeps_drift (P := fun _ w h => Marked p marks w h)
      (fun marked move => marked.moved telling move)
      (marked.past marked.pool rfl (by simp [mainOf])) drift
  exact ⟨out, fun r s'' w'' served => ⟨rfl, _,
    out.next (out.served served) rfl rfl (stands _)⟩⟩

/-! ## Read off the trail -/

theorem mem_recorded {kind : String} {payload : Payload} :
    payload ∈ recorded kind h ↔ ∃ event ∈ mains h, event.kind = kind ∧ event.payload = payload := by
  have each : ∀ l, payload ∈ recordOf kind l ↔
      ∃ event, mainOf l = some event ∧ event.kind = kind ∧ event.payload = payload := by
    intro l
    cases l with
    | reply op r =>
        cases op with
        | recordEvent event =>
            by_cases same : event.kind = kind
            · simp [recordOf, mainOf, same, eq_comm]
            · simp [recordOf, mainOf, same]
        | _ => simp [recordOf, mainOf]
    | _ => simp [recordOf, mainOf]
  simp only [recorded, mains, List.mem_flatMap, List.mem_filterMap, each]
  constructor
  · rintro ⟨l, mem, event, found, kinds⟩
    exact ⟨event, ⟨l, mem, found⟩, kinds⟩
  · rintro ⟨event, ⟨l, mem, found⟩, kinds⟩
    exact ⟨l, mem, event, found, kinds⟩

/-- The rows of a trail, ordered by their numbers. -/
def ordered (trail : List EventRecorded) : List EventRecorded :=
  trail.insertionSort fun early late => early.seq ≤ late.seq

/-- A verifier waits to record nothing else. -/
theorem aside_of_pending {pool : VerifierPool} {event : EventRecorded} (only : pool.Only Apart)
    (waits : event ∈ pending pool) : Aside event := by
  obtain ⟨⟨verifierId, slot⟩, mem, found⟩ := List.mem_filterMap.mp waits
  have allowed := only _ mem
  cases slot with
  | finished => cases found
  | running op k =>
      cases op with
      | recordEvent other =>
          cases found
          exact allowed.1
      | _ => cases found

theorem ordered_pairwise (trail : List EventRecorded) :
    (ordered trail).Pairwise fun early late => early.seq ≤ late.seq := by
  have total : Std.Total fun early late : EventRecorded => early.seq ≤ late.seq :=
    ⟨fun early late => Nat.le_total early.seq late.seq⟩
  have trans : IsTrans EventRecorded fun early late => early.seq ≤ late.seq :=
    ⟨fun _ _ _ => Nat.le_trans⟩
  exact List.pairwise_insertionSort _ trail

/-- What reaches the trail after all has a number of its own. -/
theorem Ledger.persisted {late : List EventRecorded} (ledger : Ledger s w h)
    (waits : late.Subperm (pending w.pool)) :
    ((w.store.trail ++ late).map EventRecorded.seq).Nodup := by
  obtain ⟨known, perm, part⟩ := waits
  have nodup := (List.nodup_append.mp (List.map_append ▸ ledger.nodup)).1
  have kept := nodup.sublist ((List.Sublist.append_left part w.store.trail).map EventRecorded.seq)
  exact ((perm.append_left w.store.trail).map EventRecorded.seq).nodup_iff.mp kept

/-- Whoever reads the trail finds what only the main line records in the order in which it
did. -/
theorem Sorted.read {c : FlowConfig W} {trail : List EventRecorded}
    (sorted : Sorted c.proc.state c.world c.history) (beside : ∀ event,
      event ∈ besides c.history ∨ event ∈ pending c.world.pool → p event = false)
    (persisted : Persisted c trail) : (ordered trail).filter p = (mains c.history).filter p := by
  obtain ⟨late, waits, rfl⟩ := persisted
  have once := sorted.ledger.persisted waits
  rw [record_events_fresh once]
  have perm : (ordered (c.world.store.trail ++ late)).Perm (c.world.store.trail ++ late) :=
    List.perm_insertionSort _ _
  have mem : ∀ event, event ∈ (ordered (c.world.store.trail ++ late)).filter p ↔
      event ∈ (mains c.history).filter p := by
    intro event
    rw [List.mem_filter, perm.mem_iff, List.mem_append, sorted.ledger.trail event,
      List.mem_filter]
    refine and_congr_left fun stands => or_iff_left_of_imp ?_ |>.trans (or_iff_left ?_)
    · intro waiting
      rw [beside event (.inr (waits.subset waiting))] at stands
      cases stands
    · intro there
      rw [beside event (.inl there)] at stands
      cases stands
  have rising : ((mains c.history).filter p).Pairwise fun early late => early.seq < late.seq :=
    sorted.order.filter p
  refine List.Perm.eq_of_pairwise ?_ ((ordered_pairwise _).filter p)
    (rising.imp Nat.le_of_lt) ?_
  · intro early late found other before after
    have there := List.mem_of_mem_filter ((mem late).mpr other)
    exact List.inj_on_of_nodup_map once (perm.mem_iff.mp (List.mem_of_mem_filter found))
      (perm.mem_iff.mp there) (Nat.le_antisymm before after)
  · refine (List.perm_ext_iff_of_nodup ?_ ?_).mpr mem
    · exact (perm.nodup_iff.mpr once.of_map).filter p
    · exact rising.imp fun before same => by simp [same] at before

/-- Whoever reads the trail finds what stands out in the order in which it was recorded. -/
theorem Marked.read {c : FlowConfig W} {trail : List EventRecorded}
    (sorted : Sorted c.proc.state c.world c.history) (telling : Telling p)
    (marked : Marked p marks c.world c.history) (persisted : Persisted c trail) :
    (ordered trail).filter p = marks := by
  rw [← marked.main]
  refine sorted.read ?_ persisted
  rintro event (there | waits)
  · exact marked.beside event there
  · exact telling event (aside_of_pending marked.pool waits)

end KuWarden.Flow
