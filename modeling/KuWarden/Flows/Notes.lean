import KuWarden.Flows.Cargo
import KuWarden.Flows.Play

/-!
What the nodes wrote down, and the events that carry it. The step emits the notes of its
node and takes them off the state; the notes of a verifier are emitted where the fan-out is
collected, under the name of the slot they came from.
-/
namespace KuWarden.Flow

open Process

/-- Notes, under the node id of the event that carries them. -/
abbrev Note : Type := Option String × NodeNotes

def notesIn (event : EventRecorded) : Option Note :=
  match event.payload with
  | .notes (some notes) => some (event.nodeId, notes)
  | _ => none

def noteOf {L : Type} : Label FlowOp FlowRep L → Option Note
  | .reply (.recordEvent event) _ => notesIn event
  | _ => none

/-- The notes an event of the main line carries, or of a verifier beside it. -/
def emittedBy : Label FlowOp FlowRep FlowMove → Option Note
  | .env (.verifier _ l) => noteOf l
  | l => noteOf l

def noted (h : FlowHistory) : List Note := h.filterMap emittedBy

def noteDue (nodeId : String) (state : FlowState) : Option Note :=
  state.notes.map fun notes => (some nodeId, notes)

/-- The notes the nodes returned, each under the node's own id. -/
def owed (h : FlowHistory) : List Note :=
  (executions h).filterMap fun x => noteDue x.nodeId x.returned

def Completes (h : FlowHistory) : Prop :=
  ∀ e : FlowExc, .reply .gatherVerifiers (.error e : Except FlowExc (List Obj)) ∉ h

def handedBy : FlowOp → Option FlowState
  | .runNode _ _ state => some state
  | .startVerifiers brief => some brief
  | _ => none

/-- The state carries no notes, and those returned so far have been emitted. -/
structure Unburdened (before : FlowHistory) (state : FlowState) : Prop where
  notes : state.notes = none
  emitted : (noted before).Perm (owed before)

/-- So it is with every state the main line hands on; the verifiers are given no notes. -/
structure Handed (h : FlowHistory) : Prop where
  calls : CallsMeet (fun before op => ∀ state, handedBy op = some state →
    Unburdened before state) h
  verifiers : ∀ v nodeId activityId state reply,
    .env (.verifier v (.reply (.runNode nodeId activityId state) reply)) ∈ h →
      state.notes = none

/-! ## Histories -/

variable {h h' : FlowHistory} {l : Label FlowOp FlowRep FlowMove}

@[simp] theorem noted_append (h h' : FlowHistory) : noted (h ++ h') = noted h ++ noted h' :=
  List.filterMap_append

@[simp] theorem owed_append (h h' : FlowHistory) : owed (h ++ h') = owed h ++ owed h' := by
  unfold owed
  rw [executions_append, List.filterMap_append]

theorem noted_singleton (l : Label FlowOp FlowRep FlowMove) :
    noted [l] = (emittedBy l).toList := by
  unfold noted
  cases found : emittedBy l with
  | none => exact List.filterMap_cons_none found
  | some note => exact List.filterMap_cons_some found

theorem owed_singleton (l : Label FlowOp FlowRep FlowMove) :
    owed [l] = ((executed l).bind fun x => noteDue x.nodeId x.returned).toList := by
  unfold owed
  rw [executions_singleton]
  cases executed l with
  | none => rfl
  | some x => cases due : noteDue x.nodeId x.returned <;> simp [due]

theorem Completes.before (completes : Completes (h ++ h')) : Completes h :=
  fun e mem => completes e (List.mem_append_left _ mem)

theorem Handed.concat (handed : Handed h)
    (call : ∀ op, l = .call op → ∀ state, handedBy op = some state → Unburdened h state)
    (verifier : ∀ v nodeId activityId state reply,
      l = .env (.verifier v (.reply (.runNode nodeId activityId state) reply)) →
        state.notes = none) : Handed (h ++ [l]) where
  calls := by
    cases l with
    | call op => exact callsMeet_append_call.mpr ⟨handed.calls, call op rfl⟩
    | reply op r => exact (callsMeet_append_other (by simp)).mpr handed.calls
    | env m => exact (callsMeet_append_other (by simp)).mpr handed.calls
  verifiers := by
    intro v nodeId activityId state reply mem
    rcases List.mem_append.mp mem with mem | mem
    · exact handed.verifiers v nodeId activityId state reply mem
    · exact verifier v nodeId activityId state reply (List.mem_singleton.mp mem).symm

/-- A label that hands nothing on. -/
theorem Handed.idle (handed : Handed h) (call : ∀ op, l = .call op → handedBy op = none)
    (main : ∀ v l', l ≠ .env (.verifier v l')) : Handed (h ++ [l]) :=
  handed.concat (fun op same state hands => by simp [call op same] at hands)
    fun v _ _ _ _ same => absurd same (main v _)

/-! ## While notes are due -/

variable {W Lbl : Type} {adapters : Adapters W Lbl} {worker : Worker} {s s' : DeliveryFlow}
  {w w' : FlowWorld W} {obj : Obj} {state : FlowState} {known : Option Obj → Prop}
  {due due' : List Note}

/-- No verifier runs, `known` is known of the latest state, and the notes that were returned
and not emitted are `due`. -/
structure Owing (known : Option Obj → Prop) (due : List Note) (s : DeliveryFlow)
    (w : FlowWorld W) (h : FlowHistory) : Prop where
  quiet : Quiet w.pool
  latest : known s.latest
  perm : (noted h ++ due).Perm (owed h)
  handed : Handed h

/-- So it is, unless the fan-out failed. -/
def Owes (known : Option Obj → Prop) (due : List Note) :
    Assertion DeliveryFlow (FlowWorld W) FlowOp FlowRep FlowMove :=
  fun s w h => Completes h → Owing known due s w h

/-- Wherever a run stands, only notes that were returned have been emitted. -/
def Faithful : Assertion DeliveryFlow (FlowWorld W) FlowOp FlowRep FlowMove :=
  fun _ _ h => Completes h → Handed h ∧ (noted h).Subperm (owed h)

theorem subperm_of_perm (perm : (noted h ++ due).Perm (owed h)) :
    (noted h).Subperm (owed h) :=
  (List.sublist_append_left _ _).subperm.trans perm.subperm

theorem Owes.faithful (owes : Owes known due s w h) : Faithful s w h :=
  fun completes => ⟨(owes completes).handed, subperm_of_perm (owes completes).perm⟩

/-- A label that neither emits notes nor returns any. -/
theorem Owing.concat (owing : Owing known due s w h) (emits : emittedBy l = none)
    (returns : executed l = none) (handed : Handed (h ++ [l])) :
    Owing known due s w (h ++ [l]) := by
  refine ⟨owing.quiet, owing.latest, ?_, handed⟩
  rw [noted_append, noted_singleton, emits, owed_append, owed_singleton, returns]
  simpa using owing.perm

theorem Owes.moved {m : FlowMove} (owes : Owes known due s w h)
    (move : (system adapters worker).env s w m s' w') :
    Owes known due s' w' (h ++ [.env m]) := by
  intro completes
  have owing := owes completes.before
  obtain ⟨a, rfl, rfl, rfl⟩ := moves_of_quiet owing.quiet move
  have moved : Owing known due { s with approvals := s.approvals ++ [a] } w' h :=
    ⟨owing.quiet, owing.latest, owing.perm, owing.handed⟩
  exact moved.concat rfl rfl (owing.handed.idle (by simp) (by simp))

/-- A call that neither emits notes nor runs a node. -/
structure Silent (op : FlowOp) : Prop where
  hands : handedBy op = none
  emits : ∀ r, emittedBy (.reply op r) = none

theorem Silent.executed {op : FlowOp} (silent : Silent op) (r : FlowRep op) :
    executed (.reply op r) = none := by
  cases op with
  | runNode => cases silent.hands
  | _ => rfl

theorem Silent.starts {op : FlowOp} (silent : Silent op) :
    ∀ brief, op ≠ .startVerifiers brief := by
  rintro brief rfl
  cases silent.hands

theorem silent_call {op : FlowOp} (silent : Silent op) :
    (Task.call op : Flow (FlowRep op)).Keeps (system adapters worker)
      (Owes (W := W) known due) := by
  refine Task.keeps_call ?_ (fun owes move => owes.moved move) ?_
  · intro s w h owes completes
    have owing := owes completes.before
    refine owing.concat rfl rfl (owing.handed.idle ?_ (by simp))
    intro op' same
    cases same
    exact silent.hands
  · intro s w h r s' w' owes served completes
    have owing := owes completes.before
    obtain ⟨rfl, pool⟩ := serves_calm served silent.starts
    have kept : Owing known due s' w' h := ⟨pool ▸ owing.quiet, owing.latest, owing.perm,
      owing.handed⟩
    exact kept.concat (silent.emits r) (silent.executed r) (owing.handed.idle (by simp) (by simp))

theorem Routine.silent {op : FlowOp} (routine : Routine op) : Silent op := by
  cases op with
  | recordEvent event =>
      refine ⟨rfl, fun r => ?_⟩
      show notesIn event = none
      unfold notesIn
      split
      next notes carries => exact absurd carries (routine.1 _)
      next => rfl
  | runNode | startVerifiers | gatherVerifiers | recordRunEnded => exact absurd routine id
  | _ => exact ⟨rfl, fun _ => rfl⟩

/-- An event takes the notes it carries off what is due. -/
theorem emit_owes {kind : String} {payload : Payload} {nodeId mode : Option String}
    (owes : Owes known due s w h)
    (split : due.Perm ((notesIn ⟨s.seq + 1, kind, nodeId, payload, mode⟩).toList ++ due')) :
    (emit kind payload nodeId mode).wp (system adapters worker) Faithful
      (fun r s w h => r = .ok () ∧ Owes known due' s w h) s w h := by
  refine emit_wp (fun event s w h => Owes known due s w h ∧
      due.Perm ((notesIn event).toList ++ due')) (fun ⟨owes, split⟩ move => ⟨owes.moved move, split⟩)
    ⟨fun completes => ?_, split⟩ (fun _ _ _ _ ⟨owes, _⟩ => owes.faithful) ?_
  · have owing := owes completes.before
    have numbered : Owing known due { s with seq := s.seq + 1 } w h :=
      ⟨owing.quiet, owing.latest, owing.perm, owing.handed⟩
    refine numbered.concat rfl rfl (owing.handed.idle ?_ (by simp))
    intro op same
    cases same
    rfl
  · intro s' w' h' ⟨owes, split⟩
    refine ⟨rfl, fun completes => ?_⟩
    have owing := owes completes.before
    refine ⟨owing.quiet, owing.latest, ?_, owing.handed.idle (by simp) (by simp)⟩
    rw [noted_append, noted_singleton, owed_append, owed_singleton, List.append_assoc]
    exact ((split.append_left _).symm.trans owing.perm).trans
      (List.Perm.of_eq (List.append_nil _).symm)

/-! ## The main line -/

/-- Neither the state in hand nor the latest one carries notes. -/
def Blank (obj : Obj) (latest : Option Obj) : Prop :=
  obj.val.notes = none ∧ ∀ obj, latest = some obj → obj.val.notes = none

/-- No notes are in hand, and none are due. -/
def ledger (W : Type) : Cargo W where
  held obj := Owes (Blank obj) []
  lost s w h := ∃ obj, Owes (Blank obj) [] s w h
  stands := Faithful
  closed s w h := ∃ obj, Owes (Blank obj) [] s w h

theorem Owes.mono {known' : Option Obj → Prop} (owes : Owes known due s w h)
    (latest : known s.latest → known' s'.latest) : Owes known' due s' w h := by
  intro completes
  have owing := owes completes
  exact ⟨owing.quiet, latest owing.latest, owing.perm, owing.handed⟩

theorem Blank.mutated {f : FlowState → FlowState} {latest : Option Obj}
    (keeps : (f obj.val).notes = none) (blank : Blank obj latest) :
    Blank { obj with val := f obj.val }
      (seen { obj with val := f obj.val } { s with latest := latest }).latest := by
  refine ⟨keeps, fun _ same => ?_⟩
  obtain ⟨old, known, rfl⟩ := Option.map_eq_some_iff.mp same
  split
  · exact keeps
  · exact blank.2 old known

theorem ledger_kept : Cargo.Kept (ledger W) adapters worker where
  stands held := held.faithful
  lost held := ⟨_, held⟩
  flow held latest _ := held.mono fun blank => latest ▸ blank
  mutated held clerical := held.mono fun blank => blank.mutated ((clerical.notes _).trans blank.1)
  call routine := silent_call routine.silent

/-- A state without notes may be handed on. -/
theorem Owes.handing {op : FlowOp} (owes : Owes known [] s w h)
    (notes : known s.latest → ∀ state, handedBy op = some state → state.notes = none) :
    Owes known [] s w (h ++ [.call op]) := by
  intro completes
  have owing := owes completes.before
  refine owing.concat rfl rfl (owing.handed.concat ?_ (by simp))
  intro op' same state hands
  cases same
  exact ⟨notes owing.latest state hands, by simpa using owing.perm⟩

/-- What a step makes of its node's result: its notes are emitted, and off the state. -/
theorem node_outcome_owes {nodeId : String} {result : FlowState}
    (owes : Owes known (noteDue nodeId result).toList s w h) :
    (nodeOutcome nodeId true (.ok result)).wp (system adapters worker) Faithful
      ((ledger W).left id) s w h := by
  refine publish_bind ?_
  have published : Owes (· = some (⟨s.fresh, result⟩ : Obj)) (noteDue nodeId result).toList
      { s with fresh := s.fresh + 1, latest := some ⟨s.fresh, result⟩ } w h :=
    owes.mono fun _ => rfl
  have carries : ∀ seq, (noteDue nodeId result).toList.Perm
      ((notesIn ⟨seq, "node_completed", some nodeId, .notes result.notes, none⟩).toList ++
        []) := by
    intro seq
    unfold noteDue notesIn
    cases result.notes <;> exact List.Perm.refl _
  refine Task.wp_bind.mpr (Task.wp_mono (emit_owes published (carries _)) ?_)
  rintro _ s₁ w₁ h₁ ⟨rfl, owes⟩
  refine owes.mono fun is => ⟨rfl, ?_⟩
  intro latest same
  obtain ⟨old, known, rfl⟩ := Option.map_eq_some_iff.mp same
  cases is.symm.trans known
  rw [if_pos rfl]

theorem ledger_node {nodeId : String} :
    (ledger W).Bears adapters worker obj (nodeStep nodeId obj.val) id := by
  have kept : Cargo.Kept (ledger W) adapters worker := ledger_kept
  refine Cargo.bears_bind (Cargo.bears_update kept (fun _ => rfl) fun _ => le_rfl) fun _ =>
    Cargo.bears_bind (Cargo.bears_emit kept (by simp) (by simp)) fun _ s w h held => ?_
  refine Task.wp_bind.mpr (Task.wp_bind.mpr (Task.wp_read.mpr (Task.wp_call.mpr
    fun s₂ w₂ h₂ drift => ?_)))
  have asked : Owes (Blank obj) [] s w (h ++ [.call (.runNode nodeId
      (nodeId ++ "#" ++ Text.ofNat s.seq) obj.val)]) := by
    refine Owes.handing held fun blank state hands => ?_
    cases hands
    exact blank.1
  have out : Owes (Blank obj) [] s₂ w₂ h₂ := Task.keeps_drift (P := Owes (Blank obj) [])
    (fun owes move => owes.moved move) asked drift
  refine ⟨out.faithful, fun reply s₃ w₃ served => ?_⟩
  obtain ⟨rfl, pool⟩ := serves_calm served (by simp)
  have answered : Owes (Blank obj) [] s₃ w₃ h₂ := by
    intro completes
    have owing := out completes
    exact ⟨pool ▸ owing.quiet, owing.latest, owing.perm, owing.handed⟩
  cases reply with
  | error exc =>
      have failed : (ledger W).held obj s₃ w₃ (h₂ ++ [.reply (.runNode nodeId
          (nodeId ++ "#" ++ Text.ofNat s.seq) obj.val) (.error exc)]) := by
        intro completes
        have owing := answered completes.before
        exact owing.concat rfl rfl (owing.handed.idle (by simp) (by simp))
      exact Cargo.bears_bind (Cargo.bears_emit kept (by simp [failure, failureOf])
        (by simp [failure, failureOf])) (fun _ => Cargo.bears_raise kept) _ _ _ failed
  | ok result =>
      suffices returned : Owes (Blank obj) (noteDue nodeId result).toList s₃ w₃
          (h₂ ++ [.reply (.runNode nodeId (nodeId ++ "#" ++ Text.ofNat s.seq) obj.val)
            (.ok result)]) from node_outcome_owes returned
      intro completes
      have owing := answered completes.before
      refine ⟨owing.quiet, owing.latest, ?_, owing.handed.idle (by simp) (by simp)⟩
      rw [noted_append, owed_append]
      simpa [noted_singleton, emittedBy, noteOf, owed_singleton, executed, executionOf] using
        owing.perm.append_right (noteDue nodeId result).toList

/-! ## The fan-out -/

def slotDue (entry : String × Slot DeliveryFlow FlowOp FlowRep FlowExc Obj) : Option Note :=
  match entry.2 with
  | .finished (.ok obj) => noteDue entry.1 obj.val
  | _ => none

/-- What the verifiers that returned wrote down. -/
def poolDue (pool : VerifierPool) : List Note := pool.slots.filterMap slotDue

/-- What a verifier may still record is no notes. -/
def Wary (entry : String × Slot DeliveryFlow FlowOp FlowRep FlowExc Obj) : Prop :=
  ∀ event k, entry.2 = .running (.recordEvent event) k → notesIn event = none

/-- The verifiers are out, with a brief that carries no notes. -/
structure Fans (brief : FlowState) (s : DeliveryFlow) (w : FlowWorld W) (h : FlowHistory) :
    Prop where
  names : w.pool.slots.map Prod.fst = verifierIds
  placed : ∃ ran, ∀ entry ∈ w.pool.slots, Placed brief ran s.seq entry
  wary : ∀ entry ∈ w.pool.slots, Wary entry
  perm : (noted h ++ poolDue w.pool).Perm (owed h)
  handed : Handed h

variable {brief : FlowState}

theorem Fans.faithful (fans : Fans brief s w h) : Faithful s w h :=
  fun _ => ⟨fans.handed, subperm_of_perm fans.perm⟩

/-- One slot changes, and with it what it owes. -/
theorem poolDue_settle {pool : VerifierPool} {i : Nat} {v : String}
    {slot : Slot DeliveryFlow FlowOp FlowRep FlowExc Obj}
    (slot' : Slot DeliveryFlow FlowOp FlowRep FlowExc Obj)
    (found : pool.slots[i]? = some (v, slot)) (before : slotDue (v, slot) = none) :
    (poolDue (pool.settle i v slot')).Perm (poolDue pool ++ (slotDue (v, slot')).toList) := by
  obtain ⟨front, back, old, new⟩ := Pool.filterMap_settle slotDue slot' found
  unfold poolDue
  rw [old, new, before, Option.toList_none, List.append_nil, List.append_assoc,
    List.append_assoc]
  exact List.perm_append_comm.append_left _

theorem wary_settle {pool : VerifierPool} {i : Nat} {v : String}
    {slot : Slot DeliveryFlow FlowOp FlowRep FlowExc Obj}
    (wary : ∀ entry ∈ pool.slots, Wary entry) (here : Wary (v, slot)) :
    ∀ entry ∈ (pool.settle i v slot).slots, Wary entry := by
  intro entry mem
  rcases Pool.mem_settle mem with old | rfl
  · exact wary entry old
  · exact here

theorem wary_finished {v : String} {r : Except FlowExc Obj} : Wary (v, .finished r) := by
  intro event k running
  cases running

theorem Fans.moved {m : FlowMove} (unburdened : brief.notes = none) (fans : Fans brief s w h)
    (move : (system adapters worker).env s w m s' w') :
    Fans brief s' w' (h ++ [.env m]) := by
  obtain ⟨ran, placed⟩ := fans.placed
  have beside := Staffed.moves ⟨brief, ran, placed⟩ move
  -- A move that returns nothing leaves what is due.
  have still : ∀ {pool : VerifierPool}, emittedBy (.env m) = none → executed (.env m) = none →
      (poolDue pool).Perm (poolDue w.pool) →
      (noted (h ++ [.env m]) ++ poolDue pool).Perm (owed (h ++ [.env m])) := by
    intro pool emits returns same
    rw [noted_append, noted_singleton, emits, owed_append, owed_singleton, returns]
    simpa using (same.append_left _).trans fans.perm
  cases beside with
  | signal a =>
      exact ⟨fans.names, ⟨ran, placed⟩, fans.wary, still rfl rfl (.refl _),
        fans.handed.idle (by simp) (by simp)⟩
  | @returned i v act given result a k attempts found executes =>
      cases placed _ (List.mem_of_getElem? found) with
      | asked =>
          refine ⟨(names_settle _ found).trans fans.names, ⟨⟨v, brief, result⟩ :: ran,
            placed_settle placed (List.subset_cons_self _ _) le_rfl
              (.returned List.mem_cons_self)⟩, wary_settle fans.wary wary_finished, ?_,
            fans.handed.concat (by simp) ?_⟩
          · have settled := poolDue_settle (.finished (.ok ⟨s.fresh, result⟩)) found rfl
            rw [noted_append, owed_append]
            refine ((settled.append_left _).trans ?_)
            simpa [noted_singleton, emittedBy, noteOf, owed_singleton, executed, executionOf,
              slotDue, ← List.append_assoc] using
              fans.perm.append_right (noteDue v result).toList
          · intro _ _ _ _ _ same
            cases same
            exact unburdened
  | @failed i v act given e a k found =>
      have settled : (poolDue _).Perm (poolDue w.pool ++ []) := poolDue_settle
        (.running (.recordEvent ⟨s.seq + 1, "node_failed", some v,
          failure (failureOf e), none⟩) fun _ s => .done s (.error (failureOf e))) found rfl
      rw [List.append_nil] at settled
      refine ⟨(names_settle _ found).trans fans.names, ⟨ran, placed_settle placed
        (List.Subset.refl _) (Nat.le_succ _) (.failing rfl le_rfl)⟩, wary_settle fans.wary ?_,
        still rfl rfl settled, fans.handed.concat (by simp) ?_⟩
      · intro event k running
        cases running
        rfl
      · intro _ _ _ _ _ same
        cases same
        cases placed _ (List.mem_of_getElem? found) with
        | asked => exact unburdened
  | @noted i v event e found kind =>
      have settled : (poolDue _).Perm (poolDue w.pool ++ []) := poolDue_settle
        (.finished (.error e)) found rfl
      rw [List.append_nil] at settled
      have emits : notesIn event = none :=
        fans.wary _ (List.mem_of_getElem? found) event _ rfl
      exact ⟨(names_settle _ found).trans fans.names, ⟨ran, placed_settle placed
        (List.Subset.refl _) le_rfl .failed⟩, wary_settle fans.wary wary_finished,
        still emits rfl settled, fans.handed.concat (by simp) (by intro _ _ _ _ _ same; cases same)⟩

theorem Owing.started (owing : Owing known [] s w h) :
    Fans brief (Pool.start (branch brief) verifierIds s).1
      { w with pool := (Pool.start (branch brief) verifierIds s).2 }
      (h ++ [.reply (.startVerifiers brief) ()]) := by
  obtain ⟨-, -, names, placed⟩ := startSlots_branch brief verifierIds s
  have asks := startSlots_asks brief verifierIds s
  have none : poolDue (Pool.start (branch brief) verifierIds s).2 = [] := by
    refine List.filterMap_eq_nil_iff.mpr fun entry mem => ?_
    obtain ⟨activityId, k, running⟩ := asks entry mem
    simp [slotDue, running]
  refine ⟨names, ⟨[], placed _⟩, ?_, ?_, owing.handed.idle (by simp) (by simp)⟩
  · intro entry mem event k recording
    obtain ⟨activityId, k', running⟩ := asks entry mem
    cases running.symm.trans recording
  · rw [none, noted_append, owed_append]
    simpa [noted_singleton, emittedBy, noteOf, owed_singleton, executed, executionOf] using
      owing.perm

/-- The main line waits for them. -/
theorem Fans.gathering (fans : Fans brief s w h) :
    Fans brief s w (h ++ [.call .gatherVerifiers]) := by
  refine ⟨fans.names, fans.placed, fans.wary, ?_, fans.handed.idle ?_ (by simp)⟩
  · rw [noted_append, owed_append]
    simpa [noted_singleton, emittedBy, noteOf, owed_singleton, executed, executionOf] using
      fans.perm
  · intro op same
    cases same
    rfl

/-- The results of the verifiers, under the names of their slots. -/
theorem results_due {slots : List (String × Slot DeliveryFlow FlowOp FlowRep FlowExc Obj)}
    {objs : List Obj} (all : Pool.results slots = some objs) :
    slots.filterMap slotDue =
      ((slots.map Prod.fst).zip objs).filterMap fun p => noteDue p.1 p.2.val := by
  have finished := Pool.results_forall₂ all
  clear all
  induction finished with
  | nil => rfl
  | @cons entry obj rest objs done _ ih =>
      have here : slotDue entry = noteDue entry.1 obj.val := by simp [slotDue, done]
      rw [List.map_cons, List.zip_cons_cons, List.filterMap_cons, List.filterMap_cons, here, ih]

/-- A fan-out that completed leaves the notes of its verifiers to be emitted. -/
theorem Fans.joined {objs : List Obj} (fans : Fans brief s w h)
    (joins : w.pool.Joins (.ok objs)) : Owing (fun _ => True)
      ((verifierIds.zip objs).filterMap fun p => noteDue p.1 p.2.val) s w
      (h ++ [.reply .gatherVerifiers (.ok objs)]) := by
  have all : Pool.results w.pool.slots = some objs := joins
  have finished := Pool.results_forall₂ all
  have waits : List.Forall₂ (fun entry _ => (∃ r, entry.2 = .finished r) ∧ True)
      w.pool.slots objs := finished.imp fun entry obj done => ⟨⟨_, done⟩, trivial⟩
  have due := results_due all
  rw [fans.names] at due
  have owing : Owing (fun _ => True)
      ((verifierIds.zip objs).filterMap fun p => noteDue p.1 p.2.val) s w h :=
    ⟨((List.forall₂_and_left _ _).mp waits).1, trivial, due ▸ fans.perm, fans.handed⟩
  exact owing.concat rfl rfl (fans.handed.idle (by simp) (by simp))

section Due

variable {α : Type}
  {Q : Except FlowExc α → Assertion DeliveryFlow (FlowWorld W) FlowOp FlowRep FlowMove}

theorem mutate_owes_bind {f : FlowState → FlowState} {t : Obj → Flow α}
    {known' : Obj → Prop} (owes : Owes (fun _ => known' obj) due s w h)
    (keeps : known' obj → known' { obj with val := f obj.val })
    (ht : ∀ obj' s, Owes (fun _ => known' obj') due s w h →
      (t obj').wp (system adapters worker) Faithful Q s w h) :
    (mutate obj f >>= t).wp (system adapters worker) Faithful Q s w h :=
  ht _ _ (owes.mono keeps)

theorem emit_owes_bind {kind : String} {payload : Payload} {nodeId mode : Option String}
    {t : Unit → Flow α} (owes : Owes known due s w h)
    (split : due.Perm ((notesIn ⟨s.seq + 1, kind, nodeId, payload, mode⟩).toList ++ due'))
    (ht : ∀ s w h, Owes known due' s w h →
      (t ()).wp (system adapters worker) Faithful Q s w h) :
    (emit kind payload nodeId mode >>= t).wp (system adapters worker) Faithful Q s w h := by
  refine Task.wp_bind.mpr (Task.wp_mono (emit_owes owes split) ?_)
  rintro _ s w h ⟨rfl, owes⟩
  exact ht s w h owes

def Bare (obj : Obj) : Prop := obj.val.notes = none

/-- What is due is emitted result by result. -/
theorem collect_owes {results : List (String × Obj)} (owes : Owes (fun _ => Bare obj)
      (results.filterMap fun p => noteDue p.1 p.2.val) s w h) :
    (collect results obj).wp (system adapters worker) Faithful (fun r s w h =>
      ∃ obj', r = .ok obj' ∧ Owes (fun _ => Bare obj') [] s w h) s w h := by
  induction results generalizing obj s w h with
  | nil => exact ⟨obj, rfl, owes⟩
  | cons entry rest ih =>
      obtain ⟨verifierId, result⟩ := entry
      refine mutate_owes_bind owes (fun bare => bare) fun obj' s₁ owes₁ => ?_
      have cleared : ∀ {s w h} (result : Obj), Owes (fun _ => Bare obj')
          (rest.filterMap fun p => noteDue p.1 p.2.val) s w h →
          (mutate result (fun state => { state with notes := none }) >>= fun _ =>
            collect rest obj').wp (system adapters worker) Faithful _ s w h :=
        fun result owes => ih (owes.mono id)
      rw [List.filterMap_cons] at owes₁
      dsimp only
      cases written : result.val.notes with
      | none =>
          have due : noteDue verifierId result.val = none := by simp [noteDue, written]
          rw [due] at owes₁
          rw [if_neg (by simp)]
          exact cleared result owes₁
      | some n =>
          have due : noteDue verifierId result.val = some (some verifierId, n) := by
            simp [noteDue, written]
          rw [due] at owes₁
          rw [if_pos (show (some n).isSome = true from rfl)]
          exact emit_owes_bind owes₁ (.refl _) fun s₂ w₂ h₂ owes₂ => cleared result owes₂

end Due

theorem ledger_verify : (ledger W).Bears adapters worker obj (verify obj) id := by
  have kept : Cargo.Kept (ledger W) adapters worker := ledger_kept
  refine Cargo.bears_bind (Cargo.bears_emit kept (by simp) (by simp)) fun _ s w h held => ?_
  have asked : Owes (Blank obj) [] s w
      (h ++ [.call (.startVerifiers (verifierBrief obj.val))]) := by
    refine Owes.handing held fun blank state hands => ?_
    cases hands
    rfl
  refine Task.wp_bind.mpr (Task.wp_call.mpr fun s₁ w₁ h₁ drift => ?_)
  have out : Owes (Blank obj) [] s₁ w₁ h₁ := Task.keeps_drift (P := Owes (Blank obj) [])
    (fun owes move => owes.moved move) asked drift
  refine ⟨out.faithful, fun r s₂ w₂ served => ?_⟩
  cases served
  refine Task.wp_bind.mpr (Task.wp_call.mpr fun s₃ w₃ h₃ drift => ?_)
  have fanned : Completes h₃ → Bare obj ∧ Fans (verifierBrief obj.val) s₃ w₃ h₃ := by
    refine Task.keeps_drift
      (P := fun s w h => Completes h → Bare obj ∧ Fans (verifierBrief obj.val) s w h)
      (fun fans move completes => ?_) (fun completes => ?_) drift
    · obtain ⟨bare, fans⟩ := fans completes.before
      exact ⟨bare, fans.moved rfl move⟩
    · have owing := out completes.before.before
      exact ⟨owing.latest.1, owing.started.gathering⟩
  refine ⟨fun completes => (fanned completes).2.faithful completes,
    fun reply s₄ w₄ served => ?_⟩
  cases served with
  | gatherVerifiers joins =>
      cases reply with
      | error e =>
          refine ⟨obj, fun completes => ?_⟩
          exact absurd (List.mem_append_right _ List.mem_cons_self) (completes e)
      | ok objs =>
          have owes : Owes (fun _ => Bare obj)
              ((verifierIds.zip objs).filterMap fun p => noteDue p.1 p.2.val) s₃ w₃
              (h₃ ++ [.reply .gatherVerifiers (.ok objs)]) := by
            intro completes
            obtain ⟨bare, fans⟩ := fanned completes.before
            have owing := fans.joined joins
            exact ⟨owing.quiet, bare, owing.perm, owing.handed⟩
          refine Task.wp_bind.mpr ((Task.wp_ofExcept _).mpr ?_)
          rw [Task.andThen_ok]
          refine mutate_owes_bind owes (fun bare => bare) fun obj₅ s₅ owes₅ => ?_
          refine Task.wp_bind.mpr (Task.wp_mono (collect_owes owes₅) ?_)
          rintro _ s₆ w₆ h₆ ⟨obj₆, rfl, owes₆⟩
          refine emit_owes_bind owes₆ (.refl _) fun s₇ w₇ h₇ owes₇ => ?_
          refine owes₇.mono fun bare => ⟨bare, ?_⟩
          rintro _ ⟨⟩
          exact bare

/-! ## A run -/

/-- The cost is recorded, and the end of the run. -/
theorem finish_owes (owes : Owes known [] s w h) :
    finish.wp (system adapters worker) Faithful (fun _ => Owes known []) s w h := by
  refine Task.wp_bind.mpr (Task.wp_read.mpr ?_)
  rw [Task.andThen_ok]
  refine emit_owes_bind owes (.refl _) fun s₁ w₁ h₁ owes₁ => ?_
  refine Task.wp_bind.mpr (Task.wp_read.mpr ?_)
  rw [Task.andThen_ok]
  exact Proc.wp_mono _ _ _ (silent_call ⟨rfl, fun _ => rfl⟩ _ _ _ owes₁)
    (fun _ _ _ owes => owes.faithful) fun _ _ _ _ owes => owes

theorem ledger_closing {params : FlowInput} :
    Cargo.Closing (ledger W) adapters worker ⟨0, initial params⟩ where
  toKept := ledger_kept
  node _ := ledger_node
  verify := ledger_verify
  recover lost := lost
  doomed {obj s w h} held := by
    refine Owes.mono held fun blank => ⟨?_, blank.2⟩
    cases known : s.latest with
    | none => rfl
    | some latest => exact blank.2 latest known
  rejected {obj names} := fun _ _ _ held => Owes.mono held fun blank =>
    blank.mutated (f := fun state => { state with rejectedBy := names }) blank.1
  broken lost := lost
  finish {obj s w h} held :=
    Task.wp_mono (finish_owes held) fun _ _ _ _ owes => ⟨obj, owes⟩

theorem run_notes (params : FlowInput) (a : W) :
    (run params).wp (system adapters worker) Faithful
      (fun _ s w h => ∃ obj, Owes (Blank obj) [] s w h) {} ⟨a, {}, .empty⟩ [] := by
  refine Cargo.run_closes ledger_closing fun _ => ?_
  refine ⟨quiet_empty, ⟨rfl, ?_⟩, .refl _, ⟨callsMeet_nil _, by simp⟩⟩
  intro obj absurd
  cases absurd

/-- Whether the fan-out fails here. -/
def breaks : Label FlowOp FlowRep FlowMove → Bool
  | .reply .gatherVerifiers reply =>
      match (show Except FlowExc (List Obj) from reply) with
      | .ok _ => false
      | .error _ => true
  | _ => false

theorem completes_of_breaks (none : ∀ l ∈ h, breaks l = false) : Completes h := by
  intro e mem
  cases none _ mem

/-- In every run whose fan-out does not fail, however the passes went and in whatever order the
verifiers came in: each state handed on carries no notes, and is handed on once the notes
returned so far have been emitted, under the ids of the nodes that returned them; none are
emitted that were not returned, and at the end none are left. -/
theorem notes_emitted {params : FlowInput} {a : W} {c : FlowConfig W}
    (run : Runs adapters worker params a c) (completes : Completes c.history) :
    Handed c.history ∧ (noted c.history).Subperm (owed c.history) ∧
      ∀ s r, c.proc = .done s r → (noted c.history).Perm (owed c.history) := by
  have sound := wp_sound (run_notes params a) run
  cases stands : c.proc with
  | await s op k =>
      rw [stands] at sound
      obtain ⟨handed, emitted⟩ := sound completes
      refine ⟨handed, emitted, fun s r absurd => ?_⟩
      cases absurd
  | done s r =>
      rw [stands] at sound
      obtain ⟨obj, owes⟩ := sound
      have owing := owes completes
      have perm : (noted c.history).Perm (owed c.history) := by simpa using owing.perm
      exact ⟨owing.handed, perm.subperm, fun _ _ _ => perm⟩

theorem notes_emitted_obliged : owed obligedRun.history ≠ [] ∧
    Handed obligedRun.history ∧ (noted obligedRun.history).Subperm (owed obligedRun.history) ∧
      ∀ s r, obligedRun.proc = .done s r →
        (noted obligedRun.history).Perm (owed obligedRun.history) := by
  have plays : owed obligedRun.history ≠ [] ∧
      obligedRun.history.all (fun l => !breaks l) = true := by decide +kernel
  obtain ⟨written, whole⟩ := plays
  refine ⟨written, notes_emitted obligedRun_runs (completes_of_breaks fun l mem => ?_)⟩
  simpa using List.all_eq_true.mp whole l mem

end KuWarden.Flow
