import KuWarden.Flows.Histories

/-!
The verifiers beside the main line: what each of them may be waiting for, and what a
join that succeeded says of all four.
-/
namespace KuWarden.Flow

open Process

variable {W Lbl : Type} {adapters : Adapters W Lbl} {worker : Worker}

/-- Where a verifier of the fan-out may stand. `ran` is what the nodes returned so far,
`seq` the number of the last event. -/
inductive Placed (brief : FlowState) (ran : List Execution) (seq : Nat) :
    String × Slot DeliveryFlow FlowOp FlowRep FlowExc Obj → Prop
  | asked {v act : String}
      {k : FlowRep (.runNode v act brief) → DeliveryFlow →
        Proc DeliveryFlow FlowOp FlowRep (Except FlowExc Obj)} :
      (∀ result s, k (.ok result) s =
        .done { s with fresh := s.fresh + 1, latest := some ⟨s.fresh, result⟩ }
          (.ok ⟨s.fresh, result⟩)) →
      (∀ e s, k (.error e) s = .await { s with seq := s.seq + 1 }
        (.recordEvent ⟨s.seq + 1, "node_failed", some v, failure (failureOf e), none⟩)
        fun _ s => .done s (.error (failureOf e))) →
      Placed brief ran seq (v, .running (.runNode v act brief) k)
  | failing {v : String} {event : EventRecorded} {e : FlowExc} :
      event.kind = "node_failed" → event.seq ≤ seq →
      Placed brief ran seq
        (v, .running (.recordEvent event) fun _ s => .done s (.error e))
  | failed {v : String} {e : FlowExc} : Placed brief ran seq (v, .finished (.error e))
  | returned {v : String} {obj : Obj} : ⟨v, brief, obj.val⟩ ∈ ran →
      Placed brief ran seq (v, .finished (.ok obj))

theorem Placed.mono {brief : FlowState} {ran ran' : List Execution} {seq seq' : Nat}
    {entry : String × Slot DeliveryFlow FlowOp FlowRep FlowExc Obj}
    (placed : Placed brief ran seq entry) (sub : ran ⊆ ran') (le : seq ≤ seq') :
    Placed brief ran' seq' entry := by
  cases placed with
  | asked returned raised => exact .asked returned raised
  | failing kind bound => exact .failing kind (bound.trans le)
  | failed => exact .failed
  | returned mem => exact .returned (sub mem)

/-- The fan-out under way: `signals`, `ms` and `ex` are what the flow held before it. -/
structure Fanned (brief : FlowState) (signals : List ApprovalSignal)
    (ms : List (String × Payload)) (ex ran : List Execution)
    (s : DeliveryFlow) (w : FlowWorld W) (h : FlowHistory) : Prop where
  names : w.pool.slots.map Prod.fst = verifierIds
  placed : ∀ entry ∈ w.pool.slots, Placed brief ran s.seq entry
  signals : signals <+: s.approvals
  quietly : milestones h = ms
  counted : executions h = ex ++ ran
  ran : ∀ x ∈ ran, x.nodeId ∈ verifierIds ∧ x.given = brief

theorem startSlots_branch (brief : FlowState) (vs : List String) (s : DeliveryFlow) :
    (Pool.startSlots (branch brief) vs s).1.approvals = s.approvals ∧
      (Pool.startSlots (branch brief) vs s).1.seq = s.seq ∧
      (Pool.startSlots (branch brief) vs s).2.map Prod.fst = vs ∧
      ∀ seq, ∀ entry ∈ (Pool.startSlots (branch brief) vs s).2, Placed brief [] seq entry := by
  induction vs generalizing s with
  | nil => exact ⟨rfl, rfl, rfl, by intro seq entry mem; cases mem⟩
  | cons v rest ih =>
      obtain ⟨signals, seq, names, placed⟩ := ih (Slot.ofProc (branch brief v s)).1
      refine ⟨signals, seq, congrArg (v :: ·) names, ?_⟩
      intro seq entry mem
      rcases List.mem_cons.mp mem with rfl | mem
      · exact .asked (fun result s => rfl) (fun e s => rfl)
      · exact placed seq entry mem

theorem startSlots_latest (brief : FlowState) (vs : List String) (s : DeliveryFlow) :
    (Pool.startSlots (branch brief) vs s).1.latest = s.latest := by
  induction vs generalizing s with
  | nil => rfl
  | cons v rest ih => exact ih (Slot.ofProc (branch brief v s)).1

theorem startSlots_asks (brief : FlowState) (vs : List String) (s : DeliveryFlow) :
    ∀ entry ∈ (Pool.startSlots (branch brief) vs s).2,
      ∃ activityId k, entry.2 = .running (.runNode entry.1 activityId brief) k := by
  induction vs generalizing s with
  | nil => intro entry mem; cases mem
  | cons v rest ih =>
      intro entry mem
      rcases List.mem_cons.mp mem with rfl | mem
      · exact ⟨_, _, rfl⟩
      · exact ih _ entry mem

variable {brief : FlowState} {signals : List ApprovalSignal} {ms : List (String × Payload)}
  {ex ran : List Execution} {s s' : DeliveryFlow} {w w' : FlowWorld W} {h : FlowHistory}

theorem names_settle {pool : VerifierPool} {i : Nat} {v : String}
    {slot : Slot DeliveryFlow FlowOp FlowRep FlowExc Obj}
    (slot' : Slot DeliveryFlow FlowOp FlowRep FlowExc Obj) (found : pool.slots[i]? = some (v, slot)) :
    (pool.settle i v slot').slots.map Prod.fst = pool.slots.map Prod.fst := by
  obtain ⟨lt, at_i⟩ := List.getElem?_eq_some_iff.mp found
  have bound : i < (pool.slots.map Prod.fst).length := by simpa using lt
  have same : (pool.slots.map Prod.fst)[i] = v := by simp [at_i]
  have set : (pool.settle i v slot').slots.map Prod.fst =
      (pool.slots.map Prod.fst).set i v := List.map_set
  rw [set, ← same, List.set_getElem_self]

/-- A verifier that reached `slot` is where it may stand, and the others still are. -/
theorem placed_settle {pool : VerifierPool} {i : Nat} {v : String} {seq seq' : Nat}
    {ran' : List Execution} {slot : Slot DeliveryFlow FlowOp FlowRep FlowExc Obj}
    (placed : ∀ entry ∈ pool.slots, Placed brief ran seq entry) (sub : ran ⊆ ran')
    (le : seq ≤ seq') (here : Placed brief ran' seq' (v, slot)) :
    ∀ entry ∈ (pool.settle i v slot).slots, Placed brief ran' seq' entry := by
  intro entry mem
  rcases Pool.mem_settle mem with old | rfl
  · exact (placed entry old).mono sub le
  · exact here

/-- What moves beside the main line, while each verifier is where it may stand. -/
inductive Beside (adapters : Adapters W Lbl) (worker : Worker) (s : DeliveryFlow)
    (w : FlowWorld W) : FlowMove → DeliveryFlow → FlowWorld W → Prop
  | signal (a : ApprovalSignal) :
      Beside adapters worker s w (.signal a) { s with approvals := s.approvals ++ [a] } w
  | returned {i : Nat} {v act : String} {brief result : FlowState} {a : W}
      {k : FlowRep (.runNode v act brief) → DeliveryFlow →
        Proc DeliveryFlow FlowOp FlowRep (Except FlowExc Obj)}
      {attempts : List (Attempt FlowState AdapterOp AdapterRep Lbl PyError Unit)} :
      w.pool.slots[i]? = some (v, .running (.runNode v act brief) k) →
      Executes adapters worker v brief w.adapters attempts (.ok result) a →
      Beside adapters worker s w (.verifier v (.reply (.runNode v act brief) (.ok result)))
        { s with fresh := s.fresh + 1, latest := some ⟨s.fresh, result⟩ }
        { w with adapters := a, pool := w.pool.settle i v (.finished (.ok ⟨s.fresh, result⟩)) }
  | failed {i : Nat} {v act : String} {brief : FlowState} {e : PyError} {a : W}
      {k : FlowRep (.runNode v act brief) → DeliveryFlow →
        Proc DeliveryFlow FlowOp FlowRep (Except FlowExc Obj)} :
      w.pool.slots[i]? = some (v, .running (.runNode v act brief) k) →
      Beside adapters worker s w (.verifier v (.reply (.runNode v act brief) (.error e)))
        { s with seq := s.seq + 1 }
        { w with adapters := a, pool := w.pool.settle i v (.running
          (.recordEvent ⟨s.seq + 1, "node_failed", some v, failure (failureOf e), none⟩)
          fun _ s => .done s (.error (failureOf e))) }
  | noted {i : Nat} {v : String} {event : EventRecorded} {e : FlowExc} :
      w.pool.slots[i]? = some (v, .running (.recordEvent event)
        fun _ s => .done s (.error e)) → event.kind = "node_failed" →
      Beside adapters worker s w (.verifier v (.reply (.recordEvent event) ())) s
        { w with
          store := w.store.recordEvent event
          pool := w.pool.settle i v (.finished (.error e)) }

/-- Each verifier of the pool is where it may stand. -/
def Staffed (s : DeliveryFlow) (w : FlowWorld W) : Prop :=
  ∃ brief ran, ∀ entry ∈ w.pool.slots, Placed brief ran s.seq entry

theorem staffed_empty (s : DeliveryFlow) (a : W) (store : AuditStore) :
    Staffed s ⟨a, store, .empty⟩ := by
  refine ⟨default, [], fun entry mem => ?_⟩
  cases mem

theorem Staffed.mono (staffed : Staffed s w) (le : s.seq ≤ s'.seq) : Staffed s' w := by
  obtain ⟨brief, ran, placed⟩ := staffed
  exact ⟨brief, ran, fun entry mem => (placed entry mem).mono (List.Subset.refl _) le⟩

theorem Staffed.moves {l : FlowMove} (staffed : Staffed s w)
    (move : (system adapters worker).env s w l s' w') : Beside adapters worker s w l s' w' := by
  obtain ⟨brief, ran, placed⟩ := staffed
  cases move with
  | signal a => exact .signal a
  | verifier move =>
      cases move with
      | @answer i v op k r _ _ found served =>
          cases placed _ (List.mem_of_getElem? found) with
          | asked returned raised =>
              cases served with
              | runNode executes =>
                  cases r with
                  | ok result =>
                      rw [returned result s]
                      exact .returned found executes
                  | error e =>
                      rw [raised e s]
                      exact .failed found
          | failing kind bound =>
              cases served
              exact .noted found kind

theorem Staffed.moved {l : FlowMove} (staffed : Staffed s w)
    (beside : Beside adapters worker s w l s' w') : Staffed s' w' := by
  obtain ⟨brief, ran, placed⟩ := staffed
  cases beside with
  | signal a => exact ⟨brief, ran, placed⟩
  | @returned _ v _ _ result _ _ _ found =>
      cases placed _ (List.mem_of_getElem? found) with
      | asked =>
          exact ⟨brief, ⟨v, brief, result⟩ :: ran, placed_settle placed
            (List.subset_cons_self _ _) le_rfl (.returned List.mem_cons_self)⟩
  | failed found =>
      exact ⟨brief, ran, placed_settle placed (List.Subset.refl _) (Nat.le_succ _)
        (.failing rfl le_rfl)⟩
  | noted found kind =>
      exact ⟨brief, ran, placed_settle placed (List.Subset.refl _) le_rfl .failed⟩

theorem staffed_start (brief : FlowState) (s : DeliveryFlow) (w : FlowWorld W) :
    Staffed (Pool.start (branch brief) verifierIds s).1
      { w with pool := (Pool.start (branch brief) verifierIds s).2 } := by
  obtain ⟨-, -, -, placed⟩ := startSlots_branch brief verifierIds s
  exact ⟨brief, [], placed _⟩

/-- What the main line does leaves the verifiers where they stand. -/
theorem Staffed.served {op : FlowOp} {r : FlowRep op} (staffed : Staffed s w)
    (served : (system adapters worker).serve s w op r s' w') : Staffed s' w' := by
  cases served with
  | startVerifiers => exact staffed_start _ s w
  | _ => exact staffed

theorem Fanned.logged {l : FlowMove} (fanned : Fanned brief signals ms ex ran s w h) :
    milestones (h ++ [.env l]) = ms ∧
      executions (h ++ [.env l]) = ex ++ (ran ++ (executed (.env l)).toList) := by
  constructor
  · rw [milestones_append, milestones_singleton, fanned.quietly]
    exact List.append_nil _
  · rw [executions_append, executions_singleton, fanned.counted, List.append_assoc]

/-- One verifier takes the answer to its call. -/
theorem Fanned.answered {i : Nat} {v : String} {op : FlowOp}
    {k : FlowRep op → DeliveryFlow → Proc DeliveryFlow FlowOp FlowRep (Except FlowExc Obj)}
    {r : FlowRep op} (fanned : Fanned brief signals ms ex ran s w h)
    (found : w.pool.slots[i]? = some (v, .running op k))
    (served : Serves adapters worker s w op r s' w') :
    ∃ ran', Fanned brief signals ms ex ran' (Slot.ofProc (k r s')).1
      { w' with pool := w.pool.settle i v (Slot.ofProc (k r s')).2 }
      (h ++ [.env (.verifier v (.reply op r))]) := by
  have mem := List.mem_of_getElem? found
  have name : v ∈ verifierIds := fanned.names ▸ List.mem_map_of_mem mem
  have names := fun slot => (names_settle slot found).trans fanned.names
  obtain ⟨quietly, counted⟩ := fanned.logged (l := .verifier v (.reply op r))
  cases fanned.placed _ mem with
  | asked returned raised =>
      cases served
      cases r with
      | ok result =>
          rw [returned result s]
          refine ⟨_, names _, ?_, fanned.signals, quietly, counted, ?_⟩
          · exact placed_settle fanned.placed (List.subset_append_left _ _) le_rfl
              (.returned (by simp [executed, executionOf]))
          · intro x found
            rcases List.mem_append.mp found with old | new
            · exact fanned.ran x old
            · simp only [executed, executionOf, Option.toList_some,
                List.mem_singleton] at new
              exact new ▸ ⟨name, rfl⟩
      | error e =>
          rw [raised e s]
          refine ⟨ran, names _, ?_, fanned.signals, quietly, ?_, fanned.ran⟩
          · exact placed_settle fanned.placed (List.Subset.refl _) (Nat.le_succ _)
              (.failing rfl le_rfl)
          · simpa [executed, executionOf] using counted
  | failing kind bound =>
      cases served
      refine ⟨ran, names _, ?_, fanned.signals, quietly, ?_, fanned.ran⟩
      · exact placed_settle fanned.placed (List.Subset.refl _) le_rfl .failed
      · simpa [executed, executionOf] using counted

theorem Fanned.moved {l : FlowMove} (fanned : Fanned brief signals ms ex ran s w h)
    (move : (system adapters worker).env s w l s' w') :
    ∃ ran', Fanned brief signals ms ex ran' s' w' (h ++ [.env l]) := by
  cases move with
  | signal a =>
      obtain ⟨quietly, counted⟩ := fanned.logged (l := .signal a)
      refine ⟨ran, fanned.names, fanned.placed, ?_, quietly, ?_, fanned.ran⟩
      · exact fanned.signals.trans (List.prefix_append _ _)
      · simpa [executed, executionOf] using counted
  | verifier move =>
      cases move with
      | answer found served => exact fanned.answered found served

theorem Fanned.drift {s' : DeliveryFlow} {w' : FlowWorld W} {h' : FlowHistory}
    (fanned : Fanned brief signals ms ex ran s w h)
    (drift : (system adapters worker).Drift s w h s' w' h') :
    ∃ ran', Fanned brief signals ms ex ran' s' w' h' := by
  induction drift with
  | refl => exact ⟨ran, fanned⟩
  | step _ last ih =>
      obtain ⟨ran', fanned'⟩ := ih
      exact fanned'.moved last

/-- A label of the main line that is neither a milestone nor an execution. -/
theorem Fanned.concat {l : Label FlowOp FlowRep FlowMove}
    (fanned : Fanned brief signals ms ex ran s w h) (plain : milestone l = [])
    (unexecuted : executed l = none) :
    Fanned brief signals ms ex ran s w (h ++ [l]) := by
  refine ⟨fanned.names, fanned.placed, fanned.signals, ?_, ?_, fanned.ran⟩
  · rw [milestones_append, milestones_singleton, plain, fanned.quietly, List.append_nil]
  · rw [executions_append, executions_singleton, unexecuted, fanned.counted,
      Option.toList_none, List.append_nil]

/-- Once all four returned, none of them waits, and their states stand in the order of
`VERIFIERS`. -/
theorem Fanned.joined {objs : List Obj} (fanned : Fanned brief signals ms ex ran s w h)
    (joins : w.pool.Joins (.ok objs)) : Quiet w.pool ∧
      List.Forall₂ (fun v obj => ⟨v, brief, obj.val⟩ ∈ ran) verifierIds objs := by
  have finished : List.Forall₂ (fun entry obj => entry.2 = .finished (.ok obj))
      w.pool.slots objs := Pool.results_forall₂ joins
  constructor
  · have waits : List.Forall₂ (fun entry _ => (∃ r, entry.2 = .finished r) ∧ True)
        w.pool.slots objs := finished.imp fun entry obj done => ⟨⟨_, done⟩, trivial⟩
    exact ((List.forall₂_and_left _ _).mp waits).1
  · have both := (List.forall₂_and_left _ _).mpr ⟨fanned.placed, finished⟩
    rw [← fanned.names, List.forall₂_map_left_iff]
    refine both.imp ?_
    rintro ⟨v, slot⟩ obj ⟨stands, done⟩
    cases done
    cases stands with
    | returned mem => exact mem

end KuWarden.Flow
