import KuWarden.Flows.Latest

/-!
What rides along the main line with the state it hands on. A `Cargo` says what is known while
a state is in hand, and what is left of it when the main line raises. Where the nodes, the
fan-out and the lesser calls keep it, every stretch of a run does.
-/
namespace KuWarden.Flow

open Process

variable {W Lbl : Type}

/-- What is known while a state is in hand, when it was lost to an exception, wherever a call
is out, and once the cost of the run is on record. -/
structure Cargo (W : Type) where
  held : Obj → Assertion DeliveryFlow (FlowWorld W) FlowOp FlowRep FlowMove
  lost : Assertion DeliveryFlow (FlowWorld W) FlowOp FlowRep FlowMove
  stands : Assertion DeliveryFlow (FlowWorld W) FlowOp FlowRep FlowMove
  closed : Assertion DeliveryFlow (FlowWorld W) FlowOp FlowRep FlowMove

/-- A call that runs no node, and records neither notes nor the cost of the run. -/
def Routine : FlowOp → Prop
  | .recordEvent event => (∀ notes, event.payload ≠ .notes notes) ∧
      ∀ m r d, event.payload ≠ .runCost m r d
  | .runNode _ _ _ | .startVerifiers _ | .gatherVerifiers | .recordRunEnded _ => False
  | _ => True

/-- A mutation that leaves alone what the nodes reported. -/
structure Clerical (f : FlowState → FlowState) : Prop where
  notes : ∀ state, (f state).notes = state.notes
  spend : ∀ state, (f state).spendMicroCents = state.spendMicroCents
  rejectedBy : ∀ state, (f state).rejectedBy = state.rejectedBy

namespace Cargo

variable (K : Cargo W) (adapters : Adapters W Lbl) (worker : Worker) {α β : Type}

/-- What a stretch leaves: the state it goes on with, or what is left of it. -/
def left (next : α → Obj) (r : Except FlowExc α) :
    Assertion DeliveryFlow (FlowWorld W) FlowOp FlowRep FlowMove :=
  match r with
  | .ok a => K.held (next a)
  | .error _ => K.lost

/-- From the state in hand, `t` comes to the one it goes on with. -/
def Bears (obj : Obj) (t : Flow α) (next : α → Obj) : Prop :=
  ∀ s w h, K.held obj s w h → t.wp (system adapters worker) K.stands (K.left next) s w h

/-- What every stretch of the main line relies on. -/
structure Kept : Prop where
  stands : ∀ {obj s w h}, K.held obj s w h → K.stands s w h
  lost : ∀ {obj s w h}, K.held obj s w h → K.lost s w h
  flow : ∀ {obj s s' w h}, K.held obj s w h → s'.latest = s.latest → s.seq ≤ s'.seq →
    K.held obj s' w h
  mutated : ∀ {obj s w h f}, K.held obj s w h → Clerical f →
    K.held { obj with val := f obj.val } (seen { obj with val := f obj.val } s) w h
  call : ∀ {obj op}, Routine op →
    (Task.call op : Flow (FlowRep op)).Keeps (system adapters worker) (K.held obj)

/-- What the nodes make of it. -/
structure Carried : Prop extends Kept K adapters worker where
  node : ∀ {obj nodeId}, nodeId ∉ verifierIds →
    K.Bears adapters worker obj (nodeStep nodeId obj.val) id
  verify : ∀ {obj}, K.Bears adapters worker obj (verify obj) id

/-- What the end of a run relies on, whatever stopped the main line. -/
structure Closing (first : Obj) : Prop extends Carried K adapters worker where
  recover : ∀ {s w h}, K.lost s w h → ∃ obj, K.held obj s w h
  doomed : ∀ {obj s w h}, K.held obj s w h → K.held (s.latest.getD first) s w h
  rejected : ∀ {obj names}, K.Bears adapters worker obj
    (mutate obj fun state => { state with rejectedBy := names }) id
  broken : ∀ {s w h}, K.lost s w h → K.closed s w h
  finish : ∀ {obj s w h}, K.held obj s w h →
    finish.wp (system adapters worker) K.stands (fun _ => K.closed) s w h

variable {K adapters worker} {next : α → Obj} {next' : β → Obj} {obj : Obj} {state : FlowState}

section Kept

variable (kept : Kept K adapters worker)

theorem bears_pure {a : α} (same : next a = obj) : K.Bears adapters worker obj (pure a) next := by
  intro s w h held
  show K.held (next a) s w h
  rw [same]
  exact held

theorem bears_bind {t : Flow α} {f : α → Flow β} (ht : K.Bears adapters worker obj t next)
    (hf : ∀ a, K.Bears adapters worker (next a) (f a) next') :
    K.Bears adapters worker obj (t >>= f) next' := by
  intro s w h held
  refine Task.wp_bind.mpr (Task.wp_mono (ht s w h held) ?_)
  intro r s w h left
  cases r with
  | ok a => exact hf a s w h left
  | error e => exact left

include kept

theorem bears_raise {e : FlowExc} : K.Bears adapters worker obj (Task.raise e) next :=
  fun _ _ _ held => kept.lost held

/-- What every state in hand survives. -/
theorem bears_of_keeps {t : Flow α} (keeps : t.Keeps (system adapters worker) (K.held obj)) :
    K.Bears adapters worker obj t fun _ => obj := by
  intro s w h held
  refine Proc.wp_mono _ _ _ (keeps s w h held) (fun _ _ _ held => kept.stands held) ?_
  intro r s w h held
  cases r with
  | ok a => exact held
  | error e => exact kept.lost held

theorem bears_update {f : DeliveryFlow → DeliveryFlow} (latest : ∀ s, (f s).latest = s.latest)
    (seq : ∀ s, s.seq ≤ (f s).seq) :
    K.Bears adapters worker obj (Task.update f) fun _ => obj :=
  bears_of_keeps kept (Task.keeps_update fun s _ _ held => kept.flow held (latest s) (seq s))

theorem bears_read : K.Bears adapters worker obj Task.read fun _ => obj :=
  bears_of_keeps kept Task.keeps_read

theorem bears_call {op : FlowOp} (routine : Routine op) :
    K.Bears adapters worker obj (Task.call op) fun _ => obj :=
  bears_of_keeps kept (kept.call routine)

theorem bears_emit {kind : String} {payload : Payload} {nodeId mode : Option String}
    (notes : ∀ notes, payload ≠ .notes notes) (cost : ∀ m r d, payload ≠ .runCost m r d) :
    K.Bears adapters worker obj (emit kind payload nodeId mode) fun _ => obj :=
  bears_bind (bears_update kept (fun _ => rfl) fun _ => Nat.le_succ _) fun _ =>
    bears_bind (bears_read kept) fun _ => bears_call kept ⟨notes, cost⟩

theorem bears_mutate {f : FlowState → FlowState} (clerical : Clerical f) :
    K.Bears adapters worker obj (mutate obj f) id :=
  fun _ _ _ held => kept.mutated held clerical

theorem bears_isolation : K.Bears adapters worker obj (reportIsolation state) fun _ => obj := by
  unfold reportIsolation
  split
  · exact bears_pure rfl
  · exact bears_emit kept (by simp) (by simp)

theorem bears_settle {params : FlowInput} :
    K.Bears adapters worker obj (settleTier params obj) id :=
  bears_bind (bears_mutate kept ⟨fun _ => rfl, fun _ => rfl, fun _ => rfl⟩) fun settled =>
    bears_bind (bears_emit kept (by simp) (by simp)) fun _ => bears_pure rfl

theorem bears_judge {params : FlowInput} :
    K.Bears adapters worker obj (judge params obj) id := by
  refine bears_bind (bears_mutate kept ⟨fun _ => rfl, fun _ => rfl, fun _ => rfl⟩)
    fun judged => ?_
  dsimp only
  split
  · refine bears_bind (bears_emit kept (by simp) (by simp)) fun _ => ?_
    split
    · exact bears_bind (bears_raise kept) fun _ => bears_pure rfl
    · exact bears_pure rfl
  · split
    · exact bears_bind (bears_raise kept) fun _ => bears_pure rfl
    · exact bears_pure rfl

theorem bears_status {status : String} :
    K.Bears adapters worker obj (setStatus status) fun _ => obj := bears_call kept trivial

theorem bears_count {signals : List ApprovalSignal} :
    K.Bears adapters worker obj (count signals obj) id := by
  refine bears_bind (bears_mutate kept ⟨fun _ => rfl, fun _ => rfl, fun _ => rfl⟩)
    fun counted => ?_
  split
  · exact bears_bind (bears_emit kept (by simp) (by simp)) fun _ => bears_raise kept
  · exact bears_bind (bears_emit kept (by simp) (by simp)) fun _ => bears_pure rfl

theorem bears_suspend {needed : Nat} :
    K.Bears adapters worker obj (suspend needed state) fun _ => obj := by
  refine bears_bind (bears_update kept (fun _ => rfl) fun _ => le_rfl) fun _ =>
    bears_bind (bears_status kept) fun _ => bears_bind (bears_call kept trivial)
    fun notified => ?_
  cases notified with
  | error exc => exact bears_raise kept
  | ok _ =>
      exact bears_bind (bears_call kept trivial) fun _ =>
        bears_bind (bears_update kept (fun _ => rfl) fun _ => le_rfl) fun _ =>
        bears_bind (bears_status kept) fun _ => bears_bind (bears_read kept) fun _ =>
        bears_pure rfl

theorem bears_preview : K.Bears adapters worker obj (publishPreview state) fun _ => obj := by
  unfold publishPreview
  split
  · exact bears_pure rfl
  · refine bears_bind (bears_call kept trivial) fun preview => ?_
    split
    · exact bears_emit kept (by simp) (by simp)
    · exact bears_pure rfl

theorem bears_gate : K.Bears adapters worker obj (gate obj) id := by
  refine bears_bind (bears_preview kept) fun _ =>
    bears_bind (bears_emit kept (by simp) (by simp)) fun _ => ?_
  split
  · exact bears_bind (bears_emit kept (by simp) (by simp)) fun _ => bears_pure rfl
  · exact bears_bind (bears_suspend kept) fun signals => bears_count kept

theorem bears_effect : K.Bears adapters worker obj (reportEffect state) fun _ => obj := by
  unfold reportEffect
  split
  · exact bears_pure rfl
  · exact bears_emit kept (by simp [effectPayload]) (by simp [effectPayload])

theorem bears_cleanup : K.Bears adapters worker obj (emitCleanup state) fun _ => obj := by
  unfold emitCleanup
  split
  · exact bears_pure rfl
  · exact bears_emit kept (by simp) (by simp)

end Kept

section Carried

variable (carried : Carried K adapters worker)

include carried

theorem bears_pass {attempt : Nat} : K.Bears adapters worker obj (pass attempt obj) id := by
  have kept := carried.toKept
  refine bears_bind (bears_mutate kept ⟨fun _ => rfl, fun _ => rfl, fun _ => rfl⟩) fun obj =>
    bears_bind (carried.node (by decide)) fun coded =>
    bears_bind (carried.node (by decide)) fun pushed =>
    bears_bind (bears_emit kept (by simp) (by simp)) fun _ =>
    bears_bind (bears_call kept trivial) fun _ =>
    bears_bind (carried.node (by decide)) fun built => ?_
  split
  · exact bears_pure rfl
  · exact bears_bind (bears_emit kept (by simp [verdictPayload]) (by simp [verdictPayload]))
      fun _ => bears_pure rfl

/-- Over the passes that are left. -/
theorem bears_cycle {attempts : List Nat} :
    K.Bears adapters worker obj (cycle attempts obj) id := by
  induction attempts generalizing obj with
  | nil => exact bears_raise carried.toKept
  | cons attempt rest ih =>
      refine bears_bind (bears_pass carried) fun built => ?_
      split
      · exact bears_pure rfl
      · exact ih

theorem bears_deliver {params : FlowInput} :
    K.Bears adapters worker obj (deliver params obj) id := by
  have kept := carried.toKept
  have isolates : ∀ built : Obj, K.Bears adapters worker built
      (reportIsolation built.val) fun _ => built := fun _ => bears_isolation kept
  have reports : ∀ released : Obj, K.Bears adapters worker released
      (reportEffect released.val) fun _ => released := fun _ => bears_effect kept
  have approaches : K.Bears adapters worker obj (approach params obj) id :=
    bears_bind (carried.node (by decide)) fun triaged =>
    bears_bind (carried.node (by decide)) fun planned =>
    bears_bind (bears_cycle carried) fun built => bears_bind (isolates built) fun _ =>
    bears_bind (bears_settle kept) fun settled => bears_bind carried.verify fun verified =>
    bears_bind (bears_judge kept) fun judged => bears_gate kept
  exact bears_bind approaches fun gated => bears_bind (carried.node (by decide))
    fun released => bears_bind (reports released) fun _ => bears_pure rfl

end Carried

/-! ## The end of a run -/

variable (K adapters worker) in
/-- What follows the state in hand to the end. -/
def Closes (obj : Obj) (t : Flow α) : Prop :=
  ∀ s w h, K.held obj s w h →
    t.wp (system adapters worker) K.stands (fun _ => K.closed) s w h

section Closing

variable {first : Obj} (closing : Closing K adapters worker first) {params : FlowInput}

include closing

theorem closes_bind {t : Flow α} {f : α → Flow β} (ht : K.Bears adapters worker obj t next)
    (hf : ∀ a, K.Closes adapters worker (next a) (f a)) :
    K.Closes adapters worker obj (t >>= f) := by
  intro s w h held
  refine Task.wp_bind.mpr (Task.wp_mono (ht s w h held) ?_)
  intro r s w h left
  cases r with
  | ok a => exact hf a s w h left
  | error e => exact closing.broken left

theorem closes_finish {f : Unit → Flow α} (still : ∀ s w h, K.closed s w h →
      (f ()).wp (system adapters worker) K.stands (fun _ => K.closed) s w h) :
    K.Closes adapters worker obj (finish >>= f) := by
  intro s w h held
  refine Task.wp_bind.mpr (Task.wp_mono (closing.finish held) ?_)
  intro r s w h closed
  cases r with
  | ok _ => exact still s w h closed
  | error e => exact closed

theorem closes_conclude : K.Closes adapters worker obj (conclude params obj) :=
  closes_bind closing (closing.node (by decide)) fun _ =>
    closes_finish closing fun _ _ _ closed => closed

/-- Compensation is handed the latest state, or the one the run started from. -/
theorem bears_doomed : K.Bears adapters worker obj (doomed first) id :=
  fun _ _ _ held => closing.doomed held

theorem closes_failed {e : FlowExc} :
    K.Closes adapters worker obj (ending params first (.error e)) := by
  have kept := closing.toKept
  have written : ∀ {obj : Obj} {status}, K.Bears adapters worker obj
      (Task.update fun flow => { flow with status := status }) fun _ => obj :=
    fun {_ _} => bears_update kept (fun _ => rfl) fun _ => le_rfl
  cases e with
  | rejected reason falsifiedBy =>
      exact closes_bind closing (bears_emit kept (by simp) (by simp)) fun _ =>
        closes_bind closing (bears_doomed closing) fun lost =>
        closes_bind closing closing.rejected fun lost =>
        closes_bind closing (closing.node (by decide)) fun compensated =>
        closes_bind closing (bears_cleanup kept) fun _ => closes_bind closing written
        fun _ => closes_conclude closing
  | failure error message =>
      exact closes_bind closing (bears_emit kept (by simp) (by simp)) fun _ =>
        closes_bind closing (bears_doomed closing) fun lost =>
        closes_bind closing (closing.node (by decide)) fun compensated =>
        closes_bind closing (bears_cleanup kept) fun _ => closes_bind closing written
        fun _ => closes_bind closing (closing.node (by decide)) fun reported =>
        closes_finish closing fun _ _ _ closed => closed

theorem closes_ending {outcome : Except FlowExc Obj} {s : DeliveryFlow} {w : FlowWorld W}
    {h : FlowHistory} (left : K.left id outcome s w h) :
    (ending params first outcome).wp (system adapters worker) K.stands (fun _ => K.closed)
      s w h := by
  cases outcome with
  | ok obj =>
      have written : K.Bears adapters worker obj
          (Task.update fun flow => { flow with status := "succeeded" }) fun _ => obj :=
        bears_update closing.toKept (fun _ => rfl) fun _ => le_rfl
      exact closes_bind closing written (fun _ => closes_conclude closing) s w h left
  | error e =>
      -- What the main line held is lost; the end takes up the latest state.
      obtain ⟨obj, held⟩ := closing.recover left
      exact closes_failed closing s w h held

end Closing

/-- A whole run keeps what the state it starts from has. -/
theorem run_closes {params : FlowInput} {a : W}
    (closing : Closing K adapters worker ⟨0, initial params⟩)
    (start : K.held ⟨0, initial params⟩ { fresh := 1 } ⟨a, {}, .empty⟩ []) :
    (run params).wp (system adapters worker) K.stands (fun _ => K.closed) {}
      ⟨a, {}, .empty⟩ [] := by
  have begins : K.Bears adapters worker ⟨0, initial params⟩
      (Task.call (FlowOp.recordRunStarted (started params)))
      fun _ => ⟨0, initial params⟩ := bears_call closing.toKept trivial
  refine Task.wp_bind.mpr (Task.wp_read.mpr ?_)
  rw [Task.andThen_ok]
  refine Task.wp_bind.mpr ((Task.wp_update _).mpr ?_)
  rw [Task.andThen_ok]
  refine Task.wp_bind.mpr (Task.wp_mono (begins _ _ _ start) ?_)
  intro r s w h left
  cases r with
  | error e => exact closing.broken left
  | ok _ =>
      exact Task.wp_bind.mpr (Task.wp_attempt.mpr (Task.wp_mono
        (bears_deliver closing.toCarried s w h left) fun _ _ _ _ => closes_ending closing))

end Cargo

/-! ## A trait of every state -/

/-- A trait that states hand down: from what a node was given to what it returns, to the brief
of the verifiers, and past every mutation of the flow. -/
structure Hereditary (adapters : Adapters W Lbl) (worker : Worker) (φ : FlowState → Prop) :
    Prop where
  node : ∀ {nodeId state w attempts result w'},
    Executes adapters worker nodeId state w attempts (.ok result) w' → φ state → φ result
  brief : ∀ {state}, φ state → φ (verifierBrief state)
  clerical : ∀ {f state}, Clerical f → φ state → φ (f state)
  reported : ∀ {state : FlowState} {notes}, φ state → φ { state with notes := notes }
  spent : ∀ {state : FlowState} {spend}, φ state → φ { state with spendMicroCents := spend }
  verified : ∀ {state : FlowState} {vs}, φ state → φ { state with verifications := vs }

namespace Hereditary

variable {adapters : Adapters W Lbl} {worker : Worker} {φ : FlowState → Prop} {s s' : DeliveryFlow}
  {w w' : FlowWorld W} {h : FlowHistory} {obj : Obj}

/-- The latest state has the trait, and so have the brief and the results of the verifiers. -/
structure Descends (φ : FlowState → Prop) (s : DeliveryFlow) (w : FlowWorld W) : Prop where
  latest : ∀ obj, s.latest = some obj → φ obj.val
  crew : ∃ brief ran, φ brief ∧ (∀ x ∈ ran, φ x.returned) ∧
    ∀ entry ∈ w.pool.slots, Placed brief ran s.seq entry

/-- The trait of the state in hand, of the latest one and of the verifiers. -/
def trait (W : Type) (φ : FlowState → Prop) : Cargo W where
  held obj s w _ := φ obj.val ∧ Descends φ s w
  lost s w _ := Descends φ s w
  stands _ _ _ := True
  closed _ _ _ := True

theorem Descends.flow (descends : Descends φ s w)
    (latest : ∀ obj, s'.latest = some obj → φ obj.val) (seq : s.seq ≤ s'.seq)
    (pool : w'.pool = w.pool) : Descends φ s' w' := by
  obtain ⟨brief, ran, given, returned, placed⟩ := descends.crew
  refine ⟨latest, brief, ran, given, returned, fun entry mem => ?_⟩
  exact (placed entry (pool ▸ mem)).mono (List.Subset.refl _) seq

variable (hereditary : Hereditary adapters worker φ)

include hereditary

theorem moved {m : FlowMove} (descends : Descends φ s w)
    (move : (system adapters worker).env s w m s' w') : Descends φ s' w' := by
  obtain ⟨brief, ran, given, returned, placed⟩ := descends.crew
  have beside := Staffed.moves ⟨brief, ran, placed⟩ move
  cases beside with
  | signal a => exact ⟨descends.latest, brief, ran, given, returned, placed⟩
  | @returned i v act given' result a k attempts found executes =>
      cases placed _ (List.mem_of_getElem? found) with
      | asked =>
          have inherits := hereditary.node executes given
          refine ⟨?_, brief, ⟨v, brief, result⟩ :: ran, given, ?_, placed_settle placed
            (List.subset_cons_self _ _) le_rfl (.returned List.mem_cons_self)⟩
          · rintro _ ⟨⟩
            exact inherits
          · intro x mem
            rcases List.mem_cons.mp mem with rfl | mem
            · exact inherits
            · exact returned x mem
  | failed found =>
      exact ⟨descends.latest, brief, ran, given, returned, placed_settle placed
        (List.Subset.refl _) (Nat.le_succ _) (.failing rfl le_rfl)⟩
  | noted found kind =>
      exact ⟨descends.latest, brief, ran, given, returned, placed_settle placed
        (List.Subset.refl _) le_rfl .failed⟩

theorem call_keeps {op : FlowOp} (starts : ∀ brief, op ≠ .startVerifiers brief) :
    (Task.call op : Flow (FlowRep op)).Keeps (system adapters worker)
      ((trait W φ).held obj) := by
  refine Task.keeps_call id (fun held move => ⟨held.1, hereditary.moved held.2 move⟩) ?_
  intro s w h r s' w' held served
  obtain ⟨rfl, pool⟩ := serves_calm served starts
  exact ⟨held.1, held.2.flow held.2.latest le_rfl pool⟩

theorem kept : Cargo.Kept (trait W φ) adapters worker where
  stands _ := trivial
  lost held := held.2
  flow held latest seq := ⟨held.1, held.2.flow (latest ▸ held.2.latest) seq rfl⟩
  mutated held clerical := by
    have inherits := hereditary.clerical clerical held.1
    refine ⟨inherits, held.2.flow (fun obj same => ?_) le_rfl rfl⟩
    obtain ⟨old, known, rfl⟩ := Option.map_eq_some_iff.mp same
    split
    · exact inherits
    · exact held.2.latest old known
  call routine := hereditary.call_keeps (by rintro brief rfl; exact routine)

theorem bears_event {kind : String} {payload : Payload} {nodeId mode : Option String} :
    (trait W φ).Bears adapters worker obj (emit kind payload nodeId mode) fun _ => obj :=
  Cargo.bears_bind (Cargo.bears_update hereditary.kept (fun _ => rfl) fun _ => Nat.le_succ _)
    fun _ => Cargo.bears_bind (Cargo.bears_read hereditary.kept) fun _ =>
    Cargo.bears_of_keeps hereditary.kept (hereditary.call_keeps (by simp))

omit hereditary in
/-- A mutation that keeps the trait. -/
theorem bears_change {f : FlowState → FlowState} (inherits : φ obj.val → φ (f obj.val)) :
    (trait W φ).Bears adapters worker obj (mutate obj f) id := by
  intro s w h held
  refine ⟨inherits held.1, held.2.flow (fun latest same => ?_) le_rfl rfl⟩
  obtain ⟨old, known, rfl⟩ := Option.map_eq_some_iff.mp same
  split
  · exact inherits held.1
  · exact held.2.latest old known

theorem node_carried {nodeId : String} :
    (trait W φ).Bears adapters worker obj (nodeStep nodeId obj.val) id := by
  have kept : Cargo.Kept (trait W φ) adapters worker := hereditary.kept
  refine Cargo.bears_bind (Cargo.bears_update kept (fun _ => rfl) fun _ => le_rfl) fun _ =>
    Cargo.bears_bind (Cargo.bears_emit kept (by simp) (by simp)) fun _ s w h held => ?_
  refine Task.wp_bind.mpr (Task.wp_bind.mpr (Task.wp_read.mpr (Task.wp_call.mpr
    fun s₂ w₂ h₂ drift => ⟨trivial, fun reply s₃ w₃ served => ?_⟩)))
  have out : Descends φ s₂ w₂ := Task.keeps_drift (P := fun s w _ => Descends φ s w)
    (fun descends move => hereditary.moved descends move) held.2 drift
  obtain ⟨rfl, pool⟩ := serves_calm served (by simp)
  have answered : Descends φ s₃ w₃ := out.flow out.latest le_rfl pool
  cases reply with
  | error exc =>
      exact Cargo.bears_bind (Cargo.bears_emit kept (by simp [failure, failureOf])
        (by simp [failure, failureOf])) (fun _ => Cargo.bears_raise kept) _ _ _
        ⟨held.1, answered⟩
  | ok result =>
      have inherits : φ result := by
        cases served with
        | runNode executes => exact hereditary.node executes held.1
      have published : (trait W φ).held ⟨s₃.fresh, result⟩
          { s₃ with fresh := s₃.fresh + 1, latest := some ⟨s₃.fresh, result⟩ } w₃
          (h₂ ++ [.reply (.runNode nodeId (nodeId ++ "#" ++ Text.ofNat s.seq) obj.val)
            (.ok result)]) := by
        refine ⟨inherits, answered.flow ?_ le_rfl rfl⟩
        rintro _ ⟨⟩
        exact inherits
      exact publish_bind (Cargo.bears_bind hereditary.bears_event
        (fun _ => bears_change hereditary.reported) _ _ _ published)

/-- What the verifiers return is collected onto the state. -/
theorem collect_carried {results : List (String × Obj)}
    (inherit : ∀ entry ∈ results, φ entry.2.val) :
    (trait W φ).Bears adapters worker obj (collect results obj) id := by
  induction results generalizing obj with
  | nil => exact Cargo.bears_pure rfl
  | cons entry rest ih =>
      have here := inherit entry List.mem_cons_self
      have there : ∀ {obj : Obj}, (trait W φ).Bears adapters worker obj (collect rest obj) id :=
        ih fun other mem => inherit other (List.mem_cons_of_mem _ mem)
      refine Cargo.bears_bind (bears_change hereditary.verified) fun obj' => ?_
      -- The result may be the latest state, so that clearing it is seen.
      have clears : (trait W φ).Bears adapters worker obj'
          (mutate entry.2 fun state => { state with notes := none }) fun _ => obj' := by
        intro s w h held
        refine ⟨held.1, held.2.flow (fun latest same => ?_) le_rfl rfl⟩
        obtain ⟨old, known, rfl⟩ := Option.map_eq_some_iff.mp same
        split
        · exact hereditary.reported here
        · exact held.2.latest old known
      dsimp only
      split
      · exact Cargo.bears_bind hereditary.bears_event fun _ =>
          Cargo.bears_bind clears fun _ => there
      · exact Cargo.bears_bind clears fun _ => there

theorem verify_carried : (trait W φ).Bears adapters worker obj (verify obj) id := by
  refine Cargo.bears_bind hereditary.bears_event fun _ s w h held => ?_
  refine Task.wp_bind.mpr (Task.wp_call.mpr fun s₁ w₁ h₁ drift =>
    ⟨trivial, fun r s₂ w₂ served => ?_⟩)
  have out : Descends φ s₁ w₁ := Task.keeps_drift (P := fun s w _ => Descends φ s w)
    (fun descends move => hereditary.moved descends move) held.2 drift
  cases served
  obtain ⟨-, -, -, placed⟩ := startSlots_branch (verifierBrief obj.val) verifierIds s₁
  have started : Descends φ (Pool.start (branch (verifierBrief obj.val)) verifierIds s₁).1
      { w₁ with pool := (Pool.start (branch (verifierBrief obj.val)) verifierIds s₁).2 } := by
    refine ⟨fun latest same => out.latest latest ?_, verifierBrief obj.val, [],
      hereditary.brief held.1, by simp, placed _⟩
    rw [← same]
    exact (startSlots_latest (verifierBrief obj.val) verifierIds s₁).symm
  refine Task.wp_bind.mpr (Task.wp_call.mpr fun s₃ w₃ h₃ drift =>
    ⟨trivial, fun reply s₄ w₄ served => ?_⟩)
  have fanned : Descends φ s₃ w₃ := Task.keeps_drift (P := fun s w _ => Descends φ s w)
    (fun descends move => hereditary.moved descends move) started drift
  cases served with
  | gatherVerifiers joins =>
      refine Task.wp_bind.mpr ((Task.wp_ofExcept _).mpr ?_)
      cases reply with
      | error e => exact fanned
      | ok objs =>
          obtain ⟨brief, ran, -, returned, placed⟩ := fanned.crew
          have all : Pool.results w₃.pool.slots = some objs := joins
          have both := (List.forall₂_and_left _ _).mpr ⟨placed, Pool.results_forall₂ all⟩
          have inherits : List.Forall₂ (fun o entry => φ o.val ∧ True) objs w₃.pool.slots := by
            refine List.Forall₂.flip (both.imp ?_)
            rintro ⟨v, slot⟩ o ⟨stands, done⟩
            cases done
            cases stands with
            | returned mem => exact ⟨returned _ mem, trivial⟩
          have inherit := ((List.forall₂_and_left _ _).mp inherits).1
          refine Cargo.bears_bind (bears_change hereditary.spent) (fun obj => Cargo.bears_bind
            (hereditary.collect_carried fun entry mem => inherit _ (List.of_mem_zip mem).2)
            fun verified => Cargo.bears_bind hereditary.bears_event fun _ => ?_) _ _ _
            ⟨held.1, fanned⟩
          intro s w h held
          refine ⟨held.1, held.2.flow ?_ le_rfl rfl⟩
          rintro _ ⟨⟩
          exact held.1

theorem carried : Cargo.Carried (trait W φ) adapters worker where
  toKept := hereditary.kept
  node _ := hereditary.node_carried
  verify := hereditary.verify_carried

end Hereditary
end KuWarden.Flow
