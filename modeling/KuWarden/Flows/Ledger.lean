import KuWarden.Flows.FanOut
import KuWarden.Flows.Frames

/-!
The numbers of a run's events: each is given out once, to the main line or to a verifier
beside it, and sits on the trail or is still on its way there.
-/
namespace KuWarden.Flow

open Process

/-- The events the main line waits for, after this label. -/
def waiting (before : List EventRecorded) : Label FlowOp FlowRep FlowMove → List EventRecorded
  | .call (.recordEvent event) => before ++ [event]
  | .reply (.recordEvent event) _ => before.erase event
  | _ => before

def inFlight (h : FlowHistory) : List EventRecorded := h.foldl waiting []

def pendingOf : String × Slot DeliveryFlow FlowOp FlowRep FlowExc Obj → Option EventRecorded
  | (_, .running (.recordEvent event) _) => some event
  | _ => none

def pending (pool : VerifierPool) : List EventRecorded := pool.slots.filterMap pendingOf

def mainOf : Label FlowOp FlowRep FlowMove → Option EventRecorded
  | .reply (.recordEvent event) _ => some event
  | _ => none

def mains (h : FlowHistory) : List EventRecorded := h.filterMap mainOf

def besideOf : Label FlowOp FlowRep FlowMove → Option EventRecorded
  | .env (.verifier _ (.reply (.recordEvent event) _)) => some event
  | _ => none

def besides (h : FlowHistory) : List EventRecorded := h.filterMap besideOf

variable {W Lbl : Type} {adapters : Adapters W Lbl} {worker : Worker}

/-- Every number that was given out is on the trail or on its way, once. -/
structure Ledger (s : DeliveryFlow) (w : FlowWorld W) (h : FlowHistory) : Prop where
  numbers : ((w.store.trail ++ pending w.pool ++ inFlight h).map EventRecorded.seq).Perm
    (List.range' 1 s.seq)
  trail : ∀ event, event ∈ w.store.trail ↔ event ∈ mains h ∨ event ∈ besides h
  beside : ∀ event, event ∈ besides h ∨ event ∈ pending w.pool → event.kind = "node_failed"
  asked : ∀ event ∈ mains h, .call (.recordEvent event) ∈ h
  staffed : Staffed s w

@[simp] theorem inFlight_append (h : FlowHistory) (l : Label FlowOp FlowRep FlowMove) :
    inFlight (h ++ [l]) = waiting (inFlight h) l := List.foldl_concat ..

theorem inFlight_moves {h : FlowHistory} (moves : List FlowMove) :
    inFlight (h ++ moves.map .env) = inFlight h := by
  unfold inFlight
  rw [List.foldl_append, List.foldl_map]
  induction moves generalizing h with
  | nil => rfl
  | cons l rest ih => exact ih

/-- Between two calls the main line waits for nothing new. -/
theorem inFlight_settles {α : Type} {S : System DeliveryFlow (FlowWorld W) FlowOp FlowRep FlowMove}
    (t : Flow α) (s : DeliveryFlow) (w : FlowWorld W) (h : FlowHistory) :
    t.wp S (fun _ _ _ => True) (fun _ _ _ h' => (inFlight h').Perm (inFlight h)) s w h := by
  suffices all : ∀ (p : Proc DeliveryFlow FlowOp FlowRep (Except FlowExc α)) (w : FlowWorld W)
      (h : FlowHistory), p.wp S (fun _ _ _ => True) w h
        fun _ _ _ h' => (inFlight h').Perm (inFlight h) from all (t s) w h
  intro p
  induction p with
  | done s a => exact fun _ _ => List.Perm.refl _
  | await s op k ih =>
      intro w h s' w' h' drift
      refine ⟨trivial, fun r s'' w'' _ => ?_⟩
      refine Proc.wp_mono _ _ _ (ih r s'' w'' _) (fun _ _ _ _ => trivial) ?_
      intro a s w h'' settled
      refine settled.trans ?_
      obtain ⟨moves, rfl⟩ := drift.extends
      rw [inFlight_append, inFlight_moves, inFlight_append]
      cases op with
      | recordEvent event =>
          refine List.perm_iff_count.mpr fun x => ?_
          simp only [waiting, List.count_erase, List.count_append, List.count_singleton]
          split <;> simp_all
      | _ => exact List.Perm.refl _

@[simp] theorem mains_append (h : FlowHistory) (l : Label FlowOp FlowRep FlowMove) :
    mains (h ++ [l]) = mains h ++ (mainOf l).toList := by
  unfold mains
  rw [List.filterMap_append]
  cases found : mainOf l with
  | none => rw [List.filterMap_cons_none found]; rfl
  | some event => rw [List.filterMap_cons_some found]; rfl

@[simp] theorem besides_append (h : FlowHistory) (l : Label FlowOp FlowRep FlowMove) :
    besides (h ++ [l]) = besides h ++ (besideOf l).toList := by
  unfold besides
  rw [List.filterMap_append]
  cases found : besideOf l with
  | none => rw [List.filterMap_cons_none found]; rfl
  | some event => rw [List.filterMap_cons_some found]; rfl

theorem mains_silent {h : FlowHistory} {l : Label FlowOp FlowRep FlowMove}
    (silent : mainOf l = none) : mains (h ++ [l]) = mains h := by
  rw [mains_append, silent, Option.toList_none, List.append_nil]

theorem besides_silent {h : FlowHistory} {l : Label FlowOp FlowRep FlowMove}
    (silent : besideOf l = none) : besides (h ++ [l]) = besides h := by
  rw [besides_append, silent, Option.toList_none, List.append_nil]

variable {s s' : DeliveryFlow} {w w' : FlowWorld W} {h : FlowHistory}

theorem Ledger.nodup (ledger : Ledger s w h) :
    ((w.store.trail ++ pending w.pool ++ inFlight h).map EventRecorded.seq).Nodup :=
  ledger.numbers.nodup_iff.mpr (List.nodup_range' ..)

theorem Ledger.bound (ledger : Ledger s w h) {event : EventRecorded}
    (known : event ∈ w.store.trail ++ pending w.pool ++ inFlight h) :
    1 ≤ event.seq ∧ event.seq ≤ s.seq := by
  have mem := ledger.numbers.mem_iff.mp (List.mem_map_of_mem known)
  have range := List.mem_range'_1.mp mem
  omega

/-- A number on its way is not on the trail. -/
theorem Ledger.fresh (ledger : Ledger s w h) {event : EventRecorded}
    (waits : event ∈ pending w.pool ∨ event ∈ inFlight h) :
    ∀ row ∈ w.store.trail, row.seq ≠ event.seq := by
  have nodup := ledger.nodup
  rw [List.append_assoc, List.map_append, List.nodup_append] at nodup
  have later : event.seq ∈ (pending w.pool ++ inFlight h).map EventRecorded.seq :=
    List.mem_map_of_mem (List.mem_append.mpr waits)
  intro row mem
  exact nodup.2.2 _ (List.mem_map_of_mem mem) _ later

/-- A label that is no event of the main line. -/
theorem Ledger.still_asked {l : Label FlowOp FlowRep FlowMove} (ledger : Ledger s w h)
    (silent : mainOf l = none) :
    ∀ event ∈ mains (h ++ [l]), .call (.recordEvent event) ∈ h ++ [l] := by
  rw [mains_silent silent]
  intro event mem
  exact List.mem_append_left _ (ledger.asked event mem)

theorem ledger_start (a : W) (s : DeliveryFlow) (zero : s.seq = 0) :
    Ledger s ⟨a, {}, .empty⟩ [] := by
  refine ⟨?_, ?_, ?_, ?_, staffed_empty s a {}⟩
  · rw [zero]
    exact List.Perm.refl _
  · simp [mains, besides]
  · simp [besides, pending, Pool.empty]
  · simp [mains]

/-! ## The verifiers move -/

section Numbers

variable {trail before after waits : List EventRecorded} {event : EventRecorded} {n : Nat}

/-- The next number is given out. -/
theorem numbers_allocate (seq : event.seq = n + 1)
    (numbers : ((trail ++ (before ++ after) ++ waits).map EventRecorded.seq).Perm
      (List.range' 1 n)) :
    ((trail ++ (before ++ [event] ++ after) ++ waits).map EventRecorded.seq).Perm
      (List.range' 1 (n + 1)) := by
  have order : (trail ++ (before ++ [event] ++ after) ++ waits).Perm
      (trail ++ (before ++ after) ++ waits ++ [event]) := by
    refine List.perm_iff_count.mpr fun x => ?_
    simp only [List.count_append]
    omega
  refine (order.map _).trans ?_
  rw [List.range'_1_concat, Nat.add_comm 1, ← seq, List.map_append]
  exact numbers.append_right _

/-- A number on its way reaches the trail. -/
theorem numbers_land {range : List Nat}
    (numbers : ((trail ++ (before ++ [event] ++ after) ++ waits).map EventRecorded.seq).Perm
      range) :
    ((trail ++ [event] ++ (before ++ after) ++ waits).map EventRecorded.seq).Perm range := by
  have order : (trail ++ [event] ++ (before ++ after) ++ waits).Perm
      (trail ++ (before ++ [event] ++ after) ++ waits) := by
    refine List.perm_iff_count.mpr fun x => ?_
    simp only [List.count_append]
    omega
  exact (order.map _).trans numbers

end Numbers

/-- A label that records no event, and leaves the verifiers waiting for what they waited
for. -/
theorem Ledger.concat {l : Label FlowOp FlowRep FlowMove} (ledger : Ledger s w h)
    (quiet : waiting (inFlight h) l = inFlight h) (main : mainOf l = none)
    (beside : besideOf l = none) (seq : s'.seq = s.seq)
    (trail : w'.store.trail = w.store.trail) (same : pending w'.pool = pending w.pool)
    (staffed : Staffed s' w') : Ledger s' w' (h ++ [l]) := by
  refine ⟨?_, ?_, ?_, ledger.still_asked main, staffed⟩
  · rw [inFlight_append, quiet, trail, same, seq]
    exact ledger.numbers
  · rw [mains_silent main, besides_silent beside, trail]
    exact ledger.trail
  · rw [besides_silent beside, same]
    exact ledger.beside

variable {before after : List EventRecorded} {event : EventRecorded}

theorem Ledger.failed {l : FlowMove} (ledger : Ledger s w h)
    (was : pending w.pool = before ++ after) (now : pending w'.pool = before ++ [event] ++ after)
    (seq : event.seq = s.seq + 1) (kind : event.kind = "node_failed")
    (plain : besideOf (.env l) = none) (trail : w'.store.trail = w.store.trail)
    (staffed : Staffed { s with seq := s.seq + 1 } w') :
    Ledger { s with seq := s.seq + 1 } w' (h ++ [.env l]) := by
  have numbers := ledger.numbers
  rw [was] at numbers
  refine ⟨?_, ?_, ?_, ledger.still_asked rfl, staffed⟩
  · rw [inFlight_append, now, trail]
    exact numbers_allocate seq numbers
  · rw [mains_silent rfl, besides_silent plain, trail]
    exact ledger.trail
  · rw [besides_silent plain]
    intro row known
    by_cases new : row = event
    · rw [new, kind]
    · refine ledger.beside row (known.imp_right fun mem => ?_)
      rw [now] at mem
      rw [was]
      simpa only [List.mem_append, List.mem_singleton, new, or_false] using mem

theorem Ledger.noted {v : String} {pool : VerifierPool} (ledger : Ledger s w h)
    (was : pending w.pool = before ++ [event] ++ after) (now : pending pool = before ++ after)
    (staffed : Staffed s { w with store := w.store.recordEvent event, pool := pool }) :
    Ledger s { w with store := w.store.recordEvent event, pool := pool }
      (h ++ [.env (.verifier v (.reply (.recordEvent event) ()))]) := by
  have waits : event ∈ pending w.pool :=
    was ▸ List.mem_append_left _ (List.mem_append_right _ List.mem_cons_self)
  have landed := AuditStore.record_event_fresh (ledger.fresh (.inl waits))
  have numbers := ledger.numbers
  rw [was] at numbers
  refine ⟨?_, ?_, ?_, ledger.still_asked rfl, staffed⟩
  · rw [inFlight_append, now, landed]
    exact numbers_land numbers
  · intro row
    rw [landed, mains_silent rfl, besides_append, List.mem_append, List.mem_append,
      ledger.trail row, or_assoc]
    rfl
  · intro row known
    by_cases this : row = event
    · rw [this]
      exact ledger.beside event (.inr waits)
    · refine ledger.beside row (known.imp (fun mem => ?_) fun mem => ?_)
      · rw [besides_append] at mem
        exact (List.mem_append.mp mem).resolve_right fun last =>
          this (List.mem_singleton.mp last)
      · rw [now] at mem
        rw [was]
        simp only [List.mem_append] at mem ⊢
        exact mem.imp .inl id

theorem Ledger.moved {l : FlowMove} (ledger : Ledger s w h)
    (move : (system adapters worker).env s w l s' w') : Ledger s' w' (h ++ [.env l]) := by
  have beside := ledger.staffed.moves move
  have staffed := ledger.staffed.moved beside
  have none : ∀ {before after : List EventRecorded},
      before ++ (Option.none : Option EventRecorded).toList ++ after = before ++ after := by
    intro before after
    rw [Option.toList_none, List.append_nil]
  cases beside with
  | signal a => exact ledger.concat rfl rfl rfl rfl rfl rfl staffed
  | returned found =>
      obtain ⟨before, after, was, now⟩ := Pool.filterMap_settle pendingOf (.finished _) found
      exact ledger.concat rfl rfl rfl rfl rfl (now.trans was.symm) staffed
  | failed found =>
      obtain ⟨before, after, was, now⟩ := Pool.filterMap_settle pendingOf (.running _ _) found
      exact ledger.failed (was.trans none) now rfl rfl rfl rfl staffed
  | noted found =>
      obtain ⟨before, after, was, now⟩ := Pool.filterMap_settle pendingOf (.finished _) found
      exact ledger.noted was (now.trans none) staffed

/-! ## The main line -/

theorem Ledger.issued (ledger : Ledger s w h) (seq : event.seq = s.seq + 1) :
    Ledger { s with seq := s.seq + 1 } w (h ++ [.call (.recordEvent event)]) := by
  refine ⟨?_, ?_, ?_, ledger.still_asked rfl, ledger.staffed.mono (Nat.le_succ _)⟩
  · have next := @numbers_allocate _ [] [] [] _ _ seq
      (by simpa only [List.append_nil] using ledger.numbers)
    rw [inFlight_append]
    simpa only [waiting, List.append_nil, List.nil_append, List.append_assoc] using next
  · rw [mains_silent rfl, besides_silent rfl]
    exact ledger.trail
  · rw [besides_silent rfl]
    exact ledger.beside

theorem Ledger.recorded (ledger : Ledger s w h) (waits : event ∈ inFlight h)
    (called : .call (.recordEvent event) ∈ h) :
    Ledger s { w with store := w.store.recordEvent event }
      (h ++ [.reply (.recordEvent event) ()]) := by
  have landed := AuditStore.record_event_fresh (ledger.fresh (.inr waits))
  refine ⟨?_, ?_, ?_, ?_, ledger.staffed⟩
  · rw [inFlight_append, landed]
    refine List.Perm.trans (List.Perm.map _ ?_) ledger.numbers
    refine List.perm_iff_count.mpr fun x => ?_
    have some := List.count_pos_iff.mpr waits
    simp only [waiting, List.count_append, List.count_erase, List.count_singleton]
    by_cases same : x = event
    · subst same
      simp only [beq_self_eq_true, if_true]
      omega
    · simp only [beq_iff_eq, if_neg (Ne.symm same)]
      omega
  · intro row
    rw [landed, besides_silent rfl, mains_append, List.mem_append, List.mem_append,
      ledger.trail row, or_right_comm]
    rfl
  · rw [besides_silent rfl]
    exact ledger.beside
  · intro row mem
    rw [mains_append, List.mem_append] at mem
    rcases mem with mem | last
    · exact List.mem_append_left _ (ledger.asked row mem)
    · rw [List.mem_singleton.mp last]
      exact List.mem_append_left _ called

theorem Ledger.called {op : FlowOp} (ledger : Ledger s w h)
    (event : ∀ event, op ≠ .recordEvent event) : Ledger s w (h ++ [.call op]) := by
  refine ledger.concat ?_ rfl rfl rfl rfl rfl ledger.staffed
  cases op with
  | recordEvent e => exact absurd rfl (event e)
  | _ => rfl

/-- An answer that neither records an event nor starts the verifiers. -/
theorem Ledger.served {op : FlowOp} {r : FlowRep op} (ledger : Ledger s w h)
    (event : ∀ event, op ≠ .recordEvent event) (starts : ∀ brief, op ≠ .startVerifiers brief)
    (served : (system adapters worker).serve s w op r s' w') :
    Ledger s' w' (h ++ [.reply op r]) := by
  cases served with
  | recordEvent => exact absurd rfl (event _)
  | startVerifiers => exact absurd rfl (starts _)
  | recordRunStarted =>
      refine ledger.concat rfl rfl rfl rfl ?_ rfl ledger.staffed
      unfold AuditStore.recordRunStarted
      split <;> rfl
  | _ => exact ledger.concat rfl rfl rfl rfl rfl rfl ledger.staffed

/-- The main line waits for this event. -/
structure Awaits (event : EventRecorded) (s : DeliveryFlow) (w : FlowWorld W)
    (h : FlowHistory) : Prop where
  ledger : Ledger s w h
  waits : event ∈ inFlight h
  called : .call (.recordEvent event) ∈ h

theorem Awaits.moved {l : FlowMove} (awaits : Awaits event s w h)
    (move : (system adapters worker).env s w l s' w') : Awaits event s' w' (h ++ [.env l]) where
  ledger := awaits.ledger.moved move
  waits := by
    rw [inFlight_append]
    exact awaits.waits
  called := List.mem_append_left _ awaits.called

theorem Ledger.awaits (ledger : Ledger s w h) (seq : event.seq = s.seq + 1) :
    Awaits event { s with seq := s.seq + 1 } w (h ++ [.call (.recordEvent event)]) where
  ledger := ledger.issued seq
  waits := by
    rw [inFlight_append]
    exact List.mem_append_right _ List.mem_cons_self
  called := List.mem_append_right _ List.mem_cons_self

theorem Awaits.recorded (awaits : Awaits event s w h) :
    Ledger s { w with store := w.store.recordEvent event }
      (h ++ [.reply (.recordEvent event) ()]) :=
  awaits.ledger.recorded awaits.waits awaits.called

theorem ledger_bookkeeping : Bookkeeping (W := W) Ledger := by
  intro s s' w h seq _ ledger
  exact ⟨seq ▸ ledger.numbers, ledger.trail, ledger.beside, ledger.asked,
    ledger.staffed.mono seq.ge⟩

/-! ## The verifiers start -/

/-- No verifier has started yet. -/
def Alone (_ : DeliveryFlow) (w : FlowWorld W) (_ : FlowHistory) : Prop := w.pool = .empty

theorem alone_moved {l : FlowMove} (alone : Alone s w h)
    (move : (system adapters worker).env s w l s' w') : Alone s' w' (h ++ [.env l]) := by
  cases move with
  | signal a => exact alone
  | verifier move =>
      cases move with
      | answer found _ =>
          rw [show w.pool = .empty from alone] at found
          cases found

theorem alone_call {op : FlowOp} (starts : ∀ brief, op ≠ .startVerifiers brief) :
    (Task.call op : Flow (FlowRep op)).Keeps (system adapters worker) Alone :=
  Task.keeps_call id (fun alone move => alone_moved alone move) fun alone served =>
    (serves_calm served starts).2.trans alone

theorem undisturbed_alone :
    Undisturbed adapters worker (fun _ => True) (Alone (W := W)) :=
  undisturbed_of_calls (fun _ _ _ _ _ _ alone => alone)
    (fun _ _ _ _ _ => Task.keeps_bind (Task.keeps_update fun _ _ _ alone => alone) fun _ =>
      Task.keeps_bind Task.keeps_read fun _ => alone_call (by simp))
    fun _ _ _ _ starts => alone_call starts

/-- A verifier that has just started waits for its node. -/
theorem started_pending (brief : FlowState) (vs : List String) (s : DeliveryFlow) :
    (Pool.startSlots (branch brief) vs s).2.filterMap pendingOf = [] := by
  induction vs generalizing s with
  | nil => rfl
  | cons v rest ih => exact ih _

theorem Ledger.started (ledger : Ledger s w h) (alone : w.pool = .empty) (brief : FlowState) :
    Ledger (Pool.start (branch brief) verifierIds s).1
      { w with pool := (Pool.start (branch brief) verifierIds s).2 }
      (h ++ [.reply (.startVerifiers brief) ()]) := by
  obtain ⟨-, seq, -, -⟩ := startSlots_branch brief verifierIds s
  have none : pending (Pool.start (branch brief) verifierIds s).2 = pending w.pool := by
    rw [alone]
    exact started_pending brief verifierIds s
  refine ⟨?_, ?_, ?_, ledger.still_asked rfl, staffed_start brief s w⟩
  · rw [none, inFlight_append, show (Pool.start (branch brief) verifierIds s).1.seq = s.seq from seq]
    exact ledger.numbers
  · rw [mains_silent rfl, besides_silent rfl]
    exact ledger.trail
  · rw [besides_silent rfl, none]
    exact ledger.beside

end KuWarden.Flow
