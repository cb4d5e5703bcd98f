import KuWarden.Api.Terminate

/-!
What a stopped run leaves on its trail. The request reads the next number of the trail
before it stops the workflow and writes its row after it; what the workflow records in
between takes that number first, and what it left executing loses to the row.
-/
namespace KuWarden.Api.Stop

open Process KuWarden.Flow

abbrev StopHistory := History StopOp StopRep StopMove

/-- What a move put on the trail, or tried to. -/
def landing : Label StopOp StopRep StopMove → List EventRecorded
  | .env (.flow landed) => landed
  | .env (.late event) => [event]
  | _ => []

def landings (h : StopHistory) : List EventRecorded := h.flatMap landing

/-- Nothing lands under the number the request read as the next one, and no branch other
than the one it read is pushed after that. -/
structure Undisputed (h : StopHistory) : Prop where
  number : ∀ before n after, h = before ++ .reply .fetchNextSeq (.ok n) :: after →
    ∀ event ∈ landings after, event.seq ≠ n
  branch : ∀ before b after, h = before ++ .reply .fetchBranch (.ok b) :: after →
    ∀ event ∈ landings after, event.kind = "branch_pushed" →
      AuditStore.branchOf event.payload = b

variable {W Lbl : Type} {adapters : Adapters W Lbl} {worker : Worker}

/-- The trail names who stopped the run and the last branch pushed, and holds everything the
workflow recorded, before it was stopped or after. -/
structure Honoured (principal : String) (w : World W) (h : StopHistory) : Prop where
  named : ∃ row ∈ w.store.trail, row.kind = "run_terminated" ∧ ∃ was detail,
    row.payload = .runTerminated principal was detail w.store.lastBranch
  kept : ∀ event, event ∈ mains w.flow.history ∨ event ∈ besides w.flow.history ∨
    .env (.late event) ∈ h → event ∈ w.store.trail

variable {h : StopHistory} {l : Label StopOp StopRep StopMove}

theorem Undisputed.past (undisputed : Undisputed (h ++ [l])) : Undisputed h where
  number before n after split event mem := by
    refine undisputed.number before n (after ++ [l]) (by simp [split]) event ?_
    unfold landings
    rw [List.flatMap_append]
    exact List.mem_append_left _ mem
  branch before b after split event mem := by
    refine undisputed.branch before b (after ++ [l]) (by simp [split]) event ?_
    unfold landings
    rw [List.flatMap_append]
    exact List.mem_append_left _ mem

theorem mem_landings_last {after : StopHistory} {event : EventRecorded}
    (mem : event ∈ landing l) : event ∈ landings (after ++ [l]) := by
  unfold landings
  rw [List.flatMap_append, List.flatMap_singleton]
  exact List.mem_append_right _ mem

theorem Undisputed.number_last {n : Nat} (undisputed : Undisputed (h ++ [l]))
    (read : .reply .fetchNextSeq (.ok n) ∈ h) {event : EventRecorded}
    (mem : event ∈ landing l) : event.seq ≠ n := by
  obtain ⟨before, after, split⟩ := List.append_of_mem read
  exact undisputed.number before n (after ++ [l]) (by simp [split]) event
    (mem_landings_last mem)

theorem Undisputed.branch_last {b : Option String} (undisputed : Undisputed (h ++ [l]))
    (read : .reply .fetchBranch (.ok b) ∈ h) {event : EventRecorded}
    (mem : event ∈ landing l) (pushed : event.kind = "branch_pushed") :
    AuditStore.branchOf event.payload = b := by
  obtain ⟨before, after, split⟩ := List.append_of_mem read
  exact undisputed.branch before b (after ++ [l]) (by simp [split]) event
    (mem_landings_last mem) pushed

/-! ## The run while it is stopped -/

section Run

variable {params : FlowInput} {a : W} {c c' : FlowConfig W}

/-- Before the workflow is stopped: everything on the trail is its own. -/
structure Running (adapters : Adapters W Lbl) (worker : Worker) (params : FlowInput) (a : W)
    (w : World W) (h : StopHistory) : Prop where
  flow : Runs adapters worker params a w.flow
  still : w.after = none
  none : ∀ event, .env (.late event) ∉ h

/-- After it: the trail holds what the workflow recorded and what landed since, and under
the number that was read the rows in `mine`. -/
structure Stopped (adapters : Adapters W Lbl) (worker : Worker) (params : FlowInput) (a : W)
    (n : Nat) (mine : List EventRecorded) (w : World W) (h : StopHistory) : Prop where
  flow : Runs adapters worker params a w.flow
  ceased : w.after = some w.store
  rows : ∀ row ∈ w.store.trail,
    row ∈ w.flow.world.store.trail ∨ row ∈ w.executing ∨ row ∈ mine
  kept : ∀ row ∈ w.flow.world.store.trail, row ∈ w.store.trail
  late : ∀ event, .env (.late event) ∈ h → event ∈ w.store.trail
  mine : ∀ row ∈ mine, row ∈ w.store.trail ∧ row.seq = n

/-- The branch that was read is the last on the trail. -/
structure Named (b : Option String) (w : World W) (h : StopHistory) : Prop where
  read : .reply .fetchBranch (.ok b) ∈ h
  last : w.store.lastBranch = b

def Read (n : Nat) (h : StopHistory) : Prop := .reply .fetchNextSeq (.ok n) ∈ h

/-- The number that was read is not taken. -/
def Free (n : Nat) (w : World W) : Prop := ∀ row ∈ w.store.trail, row.seq ≠ n

variable {n : Nat} {mine : List EventRecorded} {b : Option String} {w w' : World W}

theorem Running.moved {m : StopMove} (running : Running adapters worker params a w h)
    (move : Moves adapters worker () w m () w') :
    Running adapters worker params a w' (h ++ [.env m]) := by
  cases move with
  | flow still step =>
      refine ⟨running.flow.tail step, running.still, fun event mem => ?_⟩
      rcases List.mem_append.mp mem with mem | last
      · exact running.none event mem
      · cases List.mem_singleton.mp last
  | late ceased =>
      rw [running.still] at ceased
      cases ceased

/-- Rows that push no other branch leave the last one as it is. -/
theorem last_branch_append {store : AuditStore} {rows : List EventRecorded}
    (last : store.lastBranch = b) (same : ∀ row ∈ rows, row.kind = "branch_pushed" →
      AuditStore.branchOf row.payload = b) :
    ({ store with trail := store.trail ++ rows } : AuditStore).lastBranch = b := by
  induction rows using List.reverseRecOn with
  | nil =>
      rw [List.append_nil]
      exact last
  | append_singleton rows row ih =>
      rw [← List.append_assoc]
      exact AuditStore.last_branch_concat (ih fun row mem => same row (by simp [mem]))
        (same row (by simp))

theorem last_branch_of_trail {store store' : AuditStore} (same : store'.trail = store.trail) :
    store'.lastBranch = store.lastBranch := by
  unfold AuditStore.lastBranch
  rw [same]

/-- What a move puts on the trail is what it is said to land, or nothing of it. -/
theorem store_moved {m : StopMove} (move : Moves adapters worker () w m () w') :
    ∃ rows, w'.store.trail = w.store.trail ++ rows ∧ ∀ row ∈ rows, row ∈ landing (.env m) := by
  cases move with
  | @flow w c still step =>
      obtain ⟨rows, grown⟩ := step_trail step
      refine ⟨rows, ?_, ?_⟩
      · unfold World.store
        rw [still]
        exact grown.symm
      · intro row mem
        show row ∈ c.world.store.trail.drop _
        rw [← grown, List.drop_left]
        exact mem
  | @late w store event ceased =>
      have was : w.store = store := by unfold World.store; rw [ceased]; rfl
      by_cases taken : store.trail.any fun row => row.seq = event.seq
      · refine ⟨[], ?_, by simp⟩
        show (store.recordEvent event).trail = _
        rw [AuditStore.recordEvent, if_pos taken, was, List.append_nil]
      · refine ⟨[event], ?_, fun row mem => mem⟩
        show (store.recordEvent event).trail = _
        rw [AuditStore.recordEvent, if_neg taken, was]

theorem Named.moved {m : StopMove} (named : Named b w h)
    (move : Moves adapters worker () w m () w') (undisputed : Undisputed (h ++ [.env m])) :
    Named b w' (h ++ [.env m]) := by
  obtain ⟨rows, grown, landed⟩ := store_moved move
  refine ⟨List.mem_append_left _ named.read, ?_⟩
  have same : w'.store.lastBranch =
      ({ w.store with trail := w.store.trail ++ rows } : AuditStore).lastBranch :=
    last_branch_of_trail grown
  rw [same]
  exact last_branch_append named.last fun row mem =>
    undisputed.branch_last named.read (landed row mem)

theorem Free.moved {m : StopMove} (free : Free n w) (read : Read n h)
    (move : Moves adapters worker () w m () w') (undisputed : Undisputed (h ++ [.env m])) :
    Free n w' := by
  obtain ⟨rows, grown, landed⟩ := store_moved move
  intro row mem
  rw [grown] at mem
  rcases List.mem_append.mp mem with mem | new
  · exact free row mem
  · exact undisputed.number_last read (landed row new)

/-- What was left executing has a number of its own. -/
theorem Stopped.fresh (stopped : Stopped adapters worker params a n mine w h)
    {event row : EventRecorded} (executing : event ∈ w.executing) (other : event.seq ≠ n)
    (mem : row ∈ w.store.trail) (same : row.seq = event.seq) : row = event := by
  have ledger := ledger_of_runs stopped.flow
  rcases stopped.rows row mem with recorded | left | own
  · exact absurd same (ledger.fresh (List.mem_append.mp executing) row recorded)
  · have nodup := ledger.nodup
    rw [List.append_assoc, List.map_append, List.nodup_append] at nodup
    exact List.inj_on_of_nodup_map nodup.2.1 left executing same
  · exact absurd (same.symm.trans (stopped.mine row own).2) other

theorem record_event_eq {store : AuditStore} {event row : EventRecorded}
    (mem : row ∈ (store.recordEvent event).trail) : row ∈ store.trail ∨ row = event := by
  unfold AuditStore.recordEvent at mem
  split at mem
  · exact .inl mem
  · exact (List.mem_append.mp mem).imp_right List.mem_singleton.mp

/-- A recording whose number nobody else has taken is on the trail once it landed. -/
theorem mem_record_event {store : AuditStore} {event : EventRecorded}
    (own : ∀ row ∈ store.trail, row.seq = event.seq → row = event) :
    event ∈ (store.recordEvent event).trail := by
  unfold AuditStore.recordEvent
  split
  next taken =>
    obtain ⟨row, mem, same⟩ := List.any_eq_true.mp taken
    rw [← own row mem (by simpa using same)]
    exact mem
  next => exact List.mem_append_right _ List.mem_cons_self

theorem Stopped.moved {m : StopMove} (stopped : Stopped adapters worker params a n mine w h)
    (read : Read n h) (move : Moves adapters worker () w m () w')
    (undisputed : Undisputed (h ++ [.env m])) :
    Stopped adapters worker params a n mine w' (h ++ [.env m]) := by
  cases move with
  | flow still step =>
      have ceased := stopped.ceased
      rw [still] at ceased
      cases ceased
  | @late w store event ceased executing =>
      have was : w.store = store := by unfold World.store; rw [ceased]; rfl
      have other : event.seq ≠ n := undisputed.number_last read List.mem_cons_self
      have grows : ∀ row ∈ w.store.trail, row ∈ (store.recordEvent event).trail := by
        rw [was]
        exact fun row mem => (record_event_grows store event).subset mem
      refine ⟨stopped.flow, rfl, ?_, fun row mem => grows row (stopped.kept row mem), ?_,
        fun row mem => ⟨grows row (stopped.mine row mem).1, (stopped.mine row mem).2⟩⟩
      · intro row mem
        rcases record_event_eq mem with mem | rfl
        · exact stopped.rows row (was ▸ mem)
        · exact .inr (.inl executing)
      · intro late mem
        rcases List.mem_append.mp mem with mem | last
        · exact grows late (stopped.late late mem)
        · cases List.mem_singleton.mp last
          refine mem_record_event fun row mem same => ?_
          exact stopped.fresh executing other (was ▸ mem) same

theorem Running.stopped (running : Running adapters worker params a w h) (n : Nat)
    {l : Label StopOp StopRep StopMove} (silent : ∀ event, l ≠ .env (.late event)) :
    Stopped adapters worker params a n [] { w with after := some w.flow.world.store }
      (h ++ [l]) where
  flow := running.flow
  ceased := rfl
  rows row mem := .inl mem
  kept row mem := mem
  late event mem := by
    rcases List.mem_append.mp mem with mem | last
    · exact absurd mem (running.none event)
    · exact absurd (List.mem_singleton.mp last).symm (silent event)
  mine row mem := by cases mem

/-- The request writes its row under a number that is not taken. -/
theorem Stopped.inserted (stopped : Stopped adapters worker params a n [] w h)
    (free : Free n w) {store : AuditStore} (ceased : w.after = some store)
    {event : EventRecorded} (number : event.seq = n) {l : Label StopOp StopRep StopMove}
    (silent : ∀ event, l ≠ .env (.late event)) :
    Stopped adapters worker params a n [event]
      { w with after := some (store.recordEvent event) } (h ++ [l]) := by
  have was : w.store = store := by unfold World.store; rw [ceased]; rfl
  have landed : (store.recordEvent event).trail = store.trail ++ [event] :=
    AuditStore.record_event_fresh fun row mem => by
      rw [number]
      exact free row (was ▸ mem)
  have grows : ∀ row ∈ w.store.trail, row ∈ (store.recordEvent event).trail := by
    rw [was]
    exact fun row mem => (record_event_grows store event).subset mem
  refine ⟨stopped.flow, rfl, ?_, fun row mem => grows row (stopped.kept row mem), ?_, ?_⟩
  · intro row mem
    rcases record_event_eq mem with mem | rfl
    · rcases stopped.rows row (was ▸ mem) with recorded | left | own
      · exact .inl recorded
      · exact .inr (.inl left)
      · cases own
    · exact .inr (.inr List.mem_cons_self)
  · intro late mem
    rcases List.mem_append.mp mem with mem | last
    · exact grows late (stopped.late late mem)
    · exact absurd (List.mem_singleton.mp last).symm (silent late)
  · intro row mem
    cases List.mem_singleton.mp mem
    refine ⟨?_, number⟩
    show event ∈ (store.recordEvent event).trail
    rw [landed]
    exact List.mem_append_right _ List.mem_cons_self

/-! ## The request -/

/-- How far the request has come. -/
inductive Phase
  | asking
  | named (b : Option String)
  | numbered (b : Option String) (n : Nat)
  | halted (b : Option String) (n : Nat)
  | written (b : Option String) (n : Nat) (row : EventRecorded)

def Phase.Holds (adapters : Adapters W Lbl) (worker : Worker) (params : FlowInput) (a : W)
    (w : World W) (h : StopHistory) : Phase → Prop
  | .asking => Running adapters worker params a w h
  | .named b => Running adapters worker params a w h ∧ Named b w h
  | .numbered b n => Running adapters worker params a w h ∧ Named b w h ∧ Read n h ∧ Free n w
  | .halted b n =>
      Stopped adapters worker params a n [] w h ∧ Named b w h ∧ Read n h ∧ Free n w
  | .written b n row =>
      Stopped adapters worker params a n [row] w h ∧ Named b w h ∧ Read n h

theorem mem_concat_of_ne {x y : Label StopOp StopRep StopMove} (mem : x ∈ h ++ [y])
    (ne : y ≠ x) : x ∈ h := by
  rcases List.mem_append.mp mem with mem | last
  · exact mem
  · exact absurd (List.mem_singleton.mp last).symm ne

variable {phase : Phase}

/-- A call or an answer that changes nothing. -/
theorem Phase.Holds.concat (holds : phase.Holds adapters worker params a w h)
    {l : Label StopOp StopRep StopMove} (silent : ∀ event, l ≠ .env (.late event)) :
    phase.Holds adapters worker params a w (h ++ [l]) := by
  have running : Running adapters worker params a w h →
      Running adapters worker params a w (h ++ [l]) := fun running =>
    ⟨running.flow, running.still, fun event mem =>
      running.none event (mem_concat_of_ne mem (silent event))⟩
  have stopped : ∀ {n mine}, Stopped adapters worker params a n mine w h →
      Stopped adapters worker params a n mine w (h ++ [l]) := fun stopped =>
    { stopped with late := fun event mem =>
        stopped.late event (mem_concat_of_ne mem (silent event)) }
  have named : ∀ {b}, Named b w h → Named b w (h ++ [l]) := fun named =>
    ⟨List.mem_append_left _ named.read, named.last⟩
  cases phase with
  | asking => exact running holds
  | named b => exact ⟨running holds.1, named holds.2⟩
  | numbered b n =>
      exact ⟨running holds.1, named holds.2.1, List.mem_append_left _ holds.2.2.1, holds.2.2.2⟩
  | halted b n =>
      exact ⟨stopped holds.1, named holds.2.1, List.mem_append_left _ holds.2.2.1, holds.2.2.2⟩
  | written b n row =>
      exact ⟨stopped holds.1, named holds.2.1, List.mem_append_left _ holds.2.2⟩

theorem Phase.Holds.moved {m : StopMove} (holds : phase.Holds adapters worker params a w h)
    (move : Moves adapters worker () w m () w') (undisputed : Undisputed (h ++ [.env m])) :
    phase.Holds adapters worker params a w' (h ++ [.env m]) := by
  cases phase with
  | asking => exact Running.moved holds move
  | named b => exact ⟨holds.1.moved move, holds.2.moved move undisputed⟩
  | numbered b n =>
      obtain ⟨running, named, read, free⟩ := holds
      exact ⟨running.moved move, named.moved move undisputed, List.mem_append_left _ read,
        free.moved read move undisputed⟩
  | halted b n =>
      obtain ⟨stopped, named, read, free⟩ := holds
      exact ⟨stopped.moved read move undisputed, named.moved move undisputed,
        List.mem_append_left _ read, free.moved read move undisputed⟩
  | written b n row =>
      obtain ⟨stopped, named, read⟩ := holds
      exact ⟨stopped.moved read move undisputed, named.moved move undisputed,
        List.mem_append_left _ read⟩

/-- Nobody was told yet that the run is stopped. -/
def Untold (h : StopHistory) : Prop := ∀ answer, .call (.respond (.ok answer)) ∉ h

/-- Whoever is told that the run was stopped finds the trail as it should be. -/
def Told (_ : Unit) (w : World W) (h : StopHistory) : Prop :=
  Undisputed h → ∀ principal b, .call (.respond (.ok (principal, b))) ∈ h →
    Honoured principal w h

theorem Untold.told {s : Unit} (untold : Undisputed h → Untold h) : Told s w h :=
  fun undisputed principal b mem => absurd mem (untold undisputed (principal, b))

/-- The phase a request is in, as far as nothing disputes it. -/
def At (adapters : Adapters W Lbl) (worker : Worker) (params : FlowInput) (a : W)
    (phase : Phase) (_ : Unit) (w : World W) (h : StopHistory) : Prop :=
  Undisputed h → Untold h ∧ phase.Holds adapters worker params a w h

/-- A call of the request: what moves meanwhile leaves it in its phase. -/
theorem ask_wp {op : StopOp}
    {Q : Except ApiExc (StopRep op) → Assertion Unit (World W) StopOp StopRep StopMove}
    (respond : ∀ answer, op ≠ .respond answer)
    (held : At adapters worker params a phase () w h)
    (served : ∀ {w r w' h}, At adapters worker params a phase () w h →
      Serves () w op r () w' → Q (.ok r) () w' (h ++ [.reply op r])) :
    (ask op).wp (stopping adapters worker) Told Q () w h := by
  refine Task.wp_call.mpr ?_
  intro s' w' h' drift
  have asked : At adapters worker params a phase () w (h ++ [.call op]) := by
    intro undisputed
    obtain ⟨untold, holds⟩ := held undisputed.past
    refine ⟨fun answer mem => untold answer (mem_concat_of_ne mem ?_), holds.concat (by simp)⟩
    intro same
    cases same
    exact respond _ rfl
  have out : At adapters worker params a phase () w' h' := by
    refine Task.keeps_drift (P := At adapters worker params a phase) ?_ asked drift
    intro s w h m s' w' held move undisputed
    obtain ⟨untold, holds⟩ := held undisputed.past
    exact ⟨fun answer mem => untold answer (mem_concat_of_ne mem (by simp)),
      holds.moved move undisputed⟩
  exact ⟨Untold.told fun undisputed => (out undisputed).1,
    fun r s'' w'' answered => served out answered⟩

/-- An answer that changes nothing leaves the request in its phase. -/
theorem At.replied {op : StopOp} {r : StopRep op}
    (held : At adapters worker params a phase () w h) :
    At adapters worker params a phase () w (h ++ [.reply op r]) := by
  intro undisputed
  obtain ⟨untold, holds⟩ := held undisputed.past
  exact ⟨fun answer mem => untold answer (mem_concat_of_ne mem (by simp)),
    holds.concat (by simp)⟩

/-- Where the request gave up, nobody is told that the run is stopped. -/
def GaveUp (_ : Unit) (_ : World W) (h : StopHistory) : Prop := Undisputed h → Untold h

theorem At.gaveUp {s : Unit} (held : At adapters worker params a phase s w h) :
    GaveUp s w h := fun undisputed => (held undisputed).1

/-- A stretch of the request comes to a phase, or gives up. -/
def Comes {α : Type} (adapters : Adapters W Lbl) (worker : Worker) (params : FlowInput) (a : W)
    (phase : Phase) : Except ApiExc α → Assertion Unit (World W) StopOp StopRep StopMove
  | .ok _ => At adapters worker params a phase
  | .error _ => GaveUp

/-- What an answer makes of the phase, where a failed call ends the request. -/
theorem raising_wp {α β : Type} {r : Except PyError β} {wrap : PyError → ApiExc}
    {f : β → Stop α} {Q : Except ApiExc α → Assertion Unit (World W) StopOp StopRep StopMove}
    (gaveUp : ∀ exc, r = .error exc → Q (.error (wrap exc)) () w h)
    (next : ∀ b, r = .ok b → (f b).wp (stopping adapters worker) Told Q () w h) :
    (Task.ofExcept (r.mapError wrap) >>= f).wp (stopping adapters worker) Told Q () w h := by
  refine Task.wp_bind.mpr ((Task.wp_ofExcept _).mpr ?_)
  cases r with
  | error exc => exact gaveUp exc rfl
  | ok b => exact next b rfl

theorem halt_wp {principal : String}
    (held : At adapters worker params a (.numbered b n) () w h) :
    (halt principal).wp (stopping adapters worker) Told
      (Comes adapters worker params a (.halted b n)) () w h := by
  refine Task.wp_bind.mpr (ask_wp (by simp) held ?_)
  intro w r w' h held served
  cases served
  refine raising_wp (fun _ _ => held.replied.gaveUp) fun _ _ => ?_
  refine Task.wp_bind.mpr (ask_wp (by simp) held.replied ?_)
  intro w r w' h held served
  rw [Task.andThen_ok, Task.wp_ofExcept]
  cases served with
  | terminate still =>
      intro undisputed
      obtain ⟨untold, running, named, read, free⟩ := held undisputed.past
      have same : World.store { w with after := some w.flow.world.store } = w.store := by
        unfold World.store
        rw [still]
        rfl
      refine ⟨fun answer mem => untold answer (mem_concat_of_ne mem (by simp)),
        running.stopped n (by simp), ⟨List.mem_append_left _ named.read, ?_⟩,
        List.mem_append_left _ read, ?_⟩
      · rw [same]
        exact named.last
      · intro row mem
        exact free row (same ▸ mem)
  | terminate_failed exc => exact held.replied.gaveUp
  | terminate_lost exc still =>
      intro undisputed answer mem
      exact (held undisputed.past).1 answer (mem_concat_of_ne mem (by simp))

theorem update_row_wp {row : EventRecorded}
    (held : At adapters worker params a (.written b n row) () w h) :
    (ask .updateRow >>= fun r => Task.ofExcept (raising r)).wp (stopping adapters worker) Told
      (Comes adapters worker params a (.written b n row)) () w h := by
  refine Task.wp_bind.mpr (ask_wp (by simp) held ?_)
  intro w r w' h held served
  have updated : ∀ {store : AuditStore} (now : Nat) {r : StopRep .updateRow},
      w.after = some store → At adapters worker params a (.written b n row) ()
        { w with after := some (store.terminate now) } (h ++ [.reply .updateRow r]) := by
    intro store now r ceased undisputed
    obtain ⟨untold, stopped, named, read⟩ := held undisputed.past
    have same : w.store = store := by unfold World.store; rw [ceased]; rfl
    have trail : (World.store { w with after := some (store.terminate now) }).trail =
        w.store.trail := by
      rw [same]
      rfl
    refine ⟨fun answer mem => untold answer (mem_concat_of_ne mem (by simp)), ?_,
      ⟨List.mem_append_left _ named.read, ?_⟩, List.mem_append_left _ read⟩
    · exact ⟨stopped.flow, rfl, trail ▸ stopped.rows, trail ▸ stopped.kept,
        fun event mem => trail ▸ stopped.late event (mem_concat_of_ne mem (by simp)),
        trail ▸ stopped.mine⟩
    · rw [last_branch_of_trail trail]
      exact named.last
  cases served with
  | updateRow now ceased => exact updated now ceased
  | update_row_failed exc => exact held.replied.gaveUp
  | update_row_lost exc now ceased => exact (updated now ceased).gaveUp

theorem record_wp {principal was : String}
    (held : At adapters worker params a (.halted b n) () w h) :
    (record n principal was b).wp (stopping adapters worker) Told
      (Comes adapters worker params a (.written b n (terminated n principal was b))) () w h := by
  refine Task.wp_bind.mpr (ask_wp (by simp) held ?_)
  intro w r w' h held served
  have inserted : ∀ {store : AuditStore} {r : StopRep (.insertEvent (terminated n principal was b))},
      w.after = some store → At adapters worker params a
        (.written b n (terminated n principal was b)) ()
        { w with after := some (store.recordEvent (terminated n principal was b)) }
        (h ++ [.reply (.insertEvent (terminated n principal was b)) r]) := by
    intro store r ceased undisputed
    obtain ⟨untold, stopped, named, read, free⟩ := held undisputed.past
    have same : w.store = store := by unfold World.store; rw [ceased]; rfl
    have landed : (store.recordEvent (terminated n principal was b)).trail =
        store.trail ++ [terminated n principal was b] :=
      AuditStore.record_event_fresh fun row mem => free row (same ▸ mem)
    refine ⟨fun answer mem => untold answer (mem_concat_of_ne mem (by simp)),
      stopped.inserted free ceased rfl (by simp), ⟨List.mem_append_left _ named.read, ?_⟩,
      List.mem_append_left _ read⟩
    show (store.recordEvent (terminated n principal was b)).lastBranch = b
    have last : (store.recordEvent (terminated n principal was b)).lastBranch =
        ({ store with trail := store.trail ++ [terminated n principal was b] } :
          AuditStore).lastBranch := last_branch_of_trail landed
    rw [last]
    exact AuditStore.last_branch_concat (same ▸ named.last) (by simp [terminated])
  rw [Task.andThen_ok]
  cases served with
  | insertEvent ceased => exact raising_wp (by simp) fun _ _ => update_row_wp (inserted ceased)
  | insert_event_failed exc => exact held.replied.gaveUp
  | insert_event_lost exc ceased => exact (inserted ceased).gaveUp

/-- What the request answers: the run is stopped, and the row that says so is written. -/
def Answered (adapters : Adapters W Lbl) (worker : Worker) (params : FlowInput) (a : W)
    (principal : String) : Except ApiExc (String × Option String) →
      Assertion Unit (World W) StopOp StopRep StopMove
  | .ok (name, b) => fun s w h => name = principal ∧ ∃ n was,
      At adapters worker params a (.written b n (terminated n principal was b)) s w h
  | .error _ => GaveUp

theorem terminate_run_wp {runId : UUID} {principal : String}
    (held : At adapters worker params a .asking () w h) :
    (terminateRun runId principal).wp (stopping adapters worker) Told
      (Answered adapters worker params a principal) () w h := by
  refine Task.wp_bind.mpr (ask_wp (by simp) held ?_)
  intro w r w' h held served
  have same : w' = w := by cases served <;> rfl
  subst same
  refine raising_wp (fun _ _ => held.replied.gaveUp) fun row _ => ?_
  have held := held.replied (r := r)
  cases row with
  | none => exact held.gaveUp
  | some status =>
      dsimp only
      split
      · exact held.gaveUp
      refine Task.wp_bind.mpr (ask_wp (by simp) held ?_)
      intro w r w' h held served
      cases served with
      | fetch_branch_failed exc => exact held.replied.gaveUp
      | fetchBranch =>
          have held : At adapters worker params a (.named w.store.lastBranch) () w
              (h ++ [.reply .fetchBranch (.ok w.store.lastBranch)]) := by
            intro undisputed
            obtain ⟨untold, running⟩ := held.replied undisputed
            exact ⟨untold, running, List.mem_append_right _ List.mem_cons_self, rfl⟩
          refine raising_wp (by simp) fun b found => ?_
          cases found
          refine Task.wp_bind.mpr (ask_wp (by simp) held ?_)
          intro w₁ r w' h held served
          cases served with
          | fetch_next_seq_failed exc => exact held.replied.gaveUp
          | fetchNextSeq =>
              have held : At adapters worker params a
                  (.numbered w.store.lastBranch w₁.store.nextSeq) () w₁
                  (h ++ [.reply .fetchNextSeq (.ok w₁.store.nextSeq)]) := by
                intro undisputed
                obtain ⟨untold, running, named⟩ := held.replied undisputed
                exact ⟨untold, running, named, List.mem_append_right _ List.mem_cons_self,
                  fun row mem => (AuditStore.lt_next_seq mem).ne⟩
              refine raising_wp (by simp) fun n found => ?_
              cases found
              refine Task.wp_bind.mpr (Task.wp_mono (halt_wp held) ?_)
              rintro (exc | _) s w h held
              · exact held
              refine Task.wp_bind.mpr (Task.wp_mono (record_wp held) ?_)
              rintro (exc | _) s w h held
              · exact held
              · exact ⟨rfl, _, _, held⟩

/-- Once the row is written, the trail is as it should be. -/
theorem Phase.Holds.honoured {principal was : String}
    (holds : Phase.Holds adapters worker params a w h
      (.written b n (terminated n principal was b))) : Honoured principal w h := by
  obtain ⟨stopped, named, -⟩ := holds
  have ledger := ledger_of_runs stopped.flow
  refine ⟨⟨terminated n principal was b, (stopped.mine _ List.mem_cons_self).1, rfl, was,
    "terminated from the Workbench; compensation did not run", ?_⟩, ?_⟩
  · rw [named.last]
    rfl
  · rintro event (recorded | recorded | late)
    · exact stopped.kept event ((ledger.trail event).mpr (.inl recorded))
    · exact stopped.kept event ((ledger.trail event).mpr (.inr recorded))
    · exact stopped.late event late

theorem serve_told (runId : UUID) (principal : String)
    (held : At adapters worker params a .asking () w h) :
    (serve runId principal).wp (stopping adapters worker) Told (fun _ => Told) () w h := by
  refine Task.wp_bind.mpr (Task.wp_attempt.mpr
    (Task.wp_mono (terminate_run_wp held) ?_))
  rintro (exc | ⟨name, b⟩) s w h answered
  · have untold : GaveUp s w (h ++ [.call (.respond (.error exc))]) :=
      fun undisputed answer mem =>
        answered undisputed.past answer (mem_concat_of_ne mem (by simp))
    intro s' w' h' drift
    have out : GaveUp s' w' h' :=
      Task.keeps_drift (P := GaveUp) (fun held _ undisputed answer mem =>
        held undisputed.past answer (mem_concat_of_ne mem (by simp))) untold drift
    exact ⟨Untold.told out, fun r s'' w'' served => by cases served⟩
  · obtain ⟨rfl, n, was, held⟩ := answered
    intro s' w' h' drift
    -- From here on the answer is known, and the phase stays what it is.
    have out : Undisputed h' → (∀ answer, .call (.respond (.ok answer)) ∈ h' →
        answer.1 = name) ∧ Phase.Holds adapters worker params a w' h'
          (.written b n (terminated n name was b)) := by
      refine Task.keeps_drift (P := fun _ w h => Undisputed h →
        (∀ answer, .call (.respond (.ok answer)) ∈ h → answer.1 = name) ∧
          Phase.Holds adapters worker params a w h (.written b n (terminated n name was b)))
        ?_ ?_ drift
      · intro s w h m s' w' held move undisputed
        obtain ⟨told, holds⟩ := held undisputed.past
        exact ⟨fun answer mem => told answer (mem_concat_of_ne mem (by simp)),
          holds.moved move undisputed⟩
      · intro undisputed
        obtain ⟨untold, holds⟩ := held undisputed.past
        refine ⟨fun answer mem => ?_, holds.concat (by simp)⟩
        rcases List.mem_append.mp mem with mem | last
        · exact absurd mem (untold answer)
        · cases List.mem_singleton.mp last
          rfl
    refine ⟨fun undisputed principal b mem => ?_, fun r s'' w'' served => by cases served⟩
    obtain ⟨told, holds⟩ := out undisputed
    cases told _ mem
    exact holds.honoured

/-- Wherever the workflow stands when the request comes in, and however its recordings fall
between the request's reads and writes: as long as nothing disputes what the request read,
whoever is answered that the run was stopped finds it on the trail, and nothing lost. -/
theorem honoured_of_undisputed {runId : UUID} {principal name : String}
    {branch : Option String} (flow : Runs adapters worker params a c)
    {d : Config Unit (World W) StopOp StopRep StopMove (Except ApiExc Unit)}
    (run : (stopping adapters worker).Reaches (.launch (serve runId principal ()) ⟨c, none⟩ [])
      d) (undisputed : Undisputed d.history)
    (answered : .call (.respond (.ok (name, branch))) ∈ d.history) :
    Honoured name d.world d.history := by
  have running : Running adapters worker params a ⟨c, none⟩ [] :=
    ⟨flow, rfl, fun _ mem => by cases mem⟩
  have start : At adapters worker params a .asking () ⟨c, none⟩ [] :=
    fun _ => ⟨fun _ mem => (List.not_mem_nil mem).elim, running⟩
  have told : Told () d.world d.history := by
    have sound := wp_sound (serve_told runId principal start) run
    split at sound <;> exact sound
  exact told undisputed name branch answered

end Run

/-! ## Runs that are stopped -/

/-- The workflow may take a step once the trail was read, and what it left executing may land
before the run's row is written. -/
def stopMove {adapters : Adapters Unit Empty} (script : Script adapters) (stirs lands : Bool)
    (w : World Unit) : StopOp → Option (StopMove × Unit × World Unit)
  | .connect =>
      if stirs ∧ w.store.trail = [] ∧ w.after.isNone then
        ((script.flow plainWorker []).next w.flow).map fun c =>
          (.flow (c.world.store.trail.drop w.flow.world.store.trail.length), (),
            { w with flow := c })
      else none
  | .updateRow =>
      if lands then
        w.after.bind fun store =>
          ((pending w.flow.world.pool).find? fun event =>
            store.trail.all (·.seq ≠ event.seq)).map fun event =>
              (.late event, (), { w with after := some (store.recordEvent event) })
      else none
  | _ => none

theorem stopMove_moves {adapters : Adapters Unit Empty} {script : Script adapters}
    {stirs lands : Bool} {w w' : World Unit} {op : StopOp} {s' : Unit} {l : StopMove}
    (moved : stopMove script stirs lands w op = some (l, s', w')) :
    Moves adapters plainWorker () w l s' w' := by
  cases op with
  | connect =>
      simp only [stopMove] at moved
      split_ifs at moved with still
      obtain ⟨c, taken, same⟩ := Option.map_eq_some_iff.mp moved
      cases same
      exact .flow (by simpa using still.2.2) (Schedule.next_step _ taken)
  | updateRow =>
      simp only [stopMove] at moved
      split_ifs at moved
      obtain ⟨store, ceased, moved⟩ := Option.bind_eq_some_iff.mp moved
      obtain ⟨event, left, same⟩ := Option.map_eq_some_iff.mp moved
      cases same
      exact .late ceased (List.mem_append_left _ (List.mem_of_find?_eq_some left))
  | _ => cases moved

def waits (c : FlowConfig Unit) : Bool :=
  match c.proc with
  | .await _ _ _ => true
  | .done _ _ => false

theorem awaits_of_waits {c : FlowConfig Unit} (waiting : waits c = true) :
    ∃ op, c.Awaits op := by
  unfold waits at waiting
  split at waiting
  next s op k at_ => exact ⟨op, s, k, at_⟩
  next => cases waiting

def stopAnswer (w : World Unit) : (op : StopOp) → Option (StopRep op × Unit × World Unit)
  | .fetchRun => some (.ok (w.store.row.map RunRow.status), (), w)
  | .fetchBranch => some (.ok w.store.lastBranch, (), w)
  | .fetchNextSeq => some (.ok w.store.nextSeq, (), w)
  | .connect => some (.ok (), (), w)
  | .terminate _ =>
      if w.after.isNone ∧ waits w.flow then
        some (.ok (), (), { w with after := some w.flow.world.store })
      else none
  | .insertEvent event =>
      w.after.map fun store => (.ok (), (), { w with after := some (store.recordEvent event) })
  | .updateRow =>
      w.after.map fun store => (.ok (), (), { w with after := some (store.terminate 0) })
  | .respond _ => none

theorem stopAnswer_serves {w w' : World Unit} {op : StopOp} {r : StopRep op} {s' : Unit}
    (answered : stopAnswer w op = some (r, s', w')) : Serves () w op r s' w' := by
  cases op with
  | fetchRun | fetchBranch | fetchNextSeq | connect => cases answered; constructor
  | terminate reason =>
      simp only [stopAnswer] at answered
      split_ifs at answered with held
      cases answered
      exact .terminate (by simpa using held.1) (awaits_of_waits held.2)
  | insertEvent event =>
      obtain ⟨store, ceased, same⟩ := Option.map_eq_some_iff.mp answered
      cases same
      exact .insertEvent ceased
  | updateRow =>
      obtain ⟨store, ceased, same⟩ := Option.map_eq_some_iff.mp answered
      cases same
      exact .updateRow 0 ceased
  | respond answer => cases answered

def stopSchedule {adapters : Adapters Unit Empty} (script : Script adapters)
    (stirs lands : Bool) : Schedule (stopping adapters plainWorker) where
  move _ w op := stopMove script stirs lands w op
  answer _ w op := stopAnswer w op
  move_env := stopMove_moves
  answer_serve := stopAnswer_serves

def told : Label StopOp StopRep StopMove → Option (String × Option String)
  | .call (.respond (.ok answer)) => some answer
  | _ => none

theorem call_of_told {h : StopHistory} {answer : String × Option String}
    (found : answer ∈ h.filterMap told) : .call (.respond (.ok answer)) ∈ h := by
  obtain ⟨l, mem, known⟩ := List.mem_filterMap.mp found
  unfold told at known
  split at known
  next => cases known; exact mem
  next => cases known

def numbered : Label StopOp StopRep StopMove → Option Nat
  | .reply .fetchNextSeq (.ok n) => some n
  | _ => none

/-- Whatever lands is of another number, and pushes no branch. -/
theorem undisputed_of_apart {h : StopHistory} (apart : (landings h).all (fun event =>
    event.kind ≠ "branch_pushed" ∧ event.seq ∉ h.filterMap numbered) = true) :
    Undisputed h := by
  have later : ∀ {before after : StopHistory} {l event}, h = before ++ l :: after →
      event ∈ landings after → event.kind ≠ "branch_pushed" ∧
        event.seq ∉ h.filterMap numbered := by
    intro before after l event split mem
    refine of_decide_eq_true (List.all_eq_true.mp apart event ?_)
    rw [split]
    unfold landings
    rw [List.flatMap_append, List.flatMap_cons]
    exact List.mem_append_right _ (List.mem_append_right _ mem)
  constructor
  · intro before n after split event mem same
    refine (later split mem).2 ?_
    rw [split, same]
    exact List.mem_filterMap.mpr ⟨_, List.mem_append_right _ List.mem_cons_self, rfl⟩
  · intro before b after split event mem pushed
    exact absurd pushed (later split mem).1

/-- Two verifiers fail, and what the second of them records lands first. -/
def overtaking : Schedule (system (answering unverified) plainWorker) where
  move s w op :=
    match op with
    | .gatherVerifiers =>
        if w.pool.failure.isSome then none
        else (answeringScript unverified).verifierMoveAt plainWorker
          (if pending w.pool = [] then 0 else 1) s w
    | _ => none
  answer s w op := (answeringScript unverified).answer plainWorker s w op
  move_env := by
    intro s w op l s' w' moved
    cases op with
    | gatherVerifiers =>
        dsimp only at moved
        split at moved
        · cases moved
        · exact (answeringScript unverified).verifierMoveAt_moves moved
    | _ => cases moved
  answer_serve := (answeringScript unverified).answer_serves

def overtakenRun : FlowConfig Unit :=
  overtaking.play 25 (.launch (Flow.run shopParams {}) ⟨(), {}, .empty⟩ [])

/-- The run is stopped there, and what the first verifier records lands after it. -/
def landedRun : Config Unit (World Unit) StopOp StopRep StopMove (Except ApiExc Unit) :=
  (stopSchedule (answeringScript unverified) false true).play 30
    (.launch (serve ⟨1⟩ "ada" ()) ⟨overtakenRun, none⟩ [])

def landsLate : Label StopOp StopRep StopMove → Bool
  | .env (.late _) => true
  | _ => false

theorem honoured_of_undisputed_landed :
    Honoured "ada" landedRun.world landedRun.history ∧
      ∃ event, .env (.late event) ∈ landedRun.history := by
  have plays : ("ada", some "kuwarden/shop-1-00000000") ∈ landedRun.history.filterMap told ∧
      (landings landedRun.history).all (fun event => event.kind ≠ "branch_pushed" ∧
        event.seq ∉ landedRun.history.filterMap numbered) = true ∧
      landedRun.history.any landsLate = true := by decide +kernel
  obtain ⟨answered, apart, late⟩ := plays
  obtain ⟨l, mem, lands⟩ := List.any_eq_true.mp late
  unfold landsLate at lands
  split at lands
  next event =>
      exact ⟨honoured_of_undisputed (Schedule.play_reaches _ _ _) (Schedule.play_reaches _ _ _)
        (undisputed_of_apart apart) (call_of_told answered), event, mem⟩
  next => cases lands

/-- The request is made when the run's first event is being recorded. -/
def stoppedRun : Config Unit (World Unit) StopOp StopRep StopMove (Except ApiExc Unit) :=
  (stopSchedule obligingScript true false).play 20 (.launch (serve ⟨1⟩ "ada" ())
    ⟨obligingScript.run plainWorker [] shopParams () 1, none⟩ [])

/-- The event takes the number that was read, and nobody is named to have stopped the run. -/
theorem stop_unnamed : ∃ c d, Runs obliging plainWorker shopParams () c ∧
    (stopping obliging plainWorker).Reaches (.launch (serve ⟨1⟩ "ada" ()) ⟨c, none⟩ []) d ∧
      .call (.respond (.ok ("ada", none))) ∈ d.history ∧
        ¬ Honoured "ada" d.world d.history := by
  refine ⟨_, stoppedRun, obligingScript.run_runs plainWorker [] shopParams () 1,
    Schedule.play_reaches _ _ _, call_of_told (by decide +kernel), fun honoured => ?_⟩
  obtain ⟨row, mem, kind, -⟩ := honoured.named
  have unnamed : stoppedRun.world.store.trail.all (fun row => row.kind ≠ "run_terminated")
      = true := by decide +kernel
  exact absurd kind (by simpa using List.all_eq_true.mp unnamed row mem)

end KuWarden.Api.Stop
