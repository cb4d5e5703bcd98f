import KuWarden.Flows.Marks
import KuWarden.Flows.Objections
import KuWarden.Ui.FlowGraph

/-!
The verifiers' box of a run's diagram, against what the run recorded of its verifiers.

The box is to report the worst that happened. `verifier_overridden` takes a failure back, and
is recorded whoever else objected.
-/
namespace KuWarden.Ui

open KuWarden.Flow Process

variable {params : FlowInput} {events : List EventRecorded} {event : EventRecorded}

/-! ## What the rows say of the verifiers -/

/-- A verdict on record says that this verifier falsified the change. -/
def Falsified (events : List EventRecorded) (name : String) : Prop :=
  ∃ event ∈ events, event.kind = "verifiers_completed" ∧
    ∃ row ∈ event.payload.verdicts, row.verifier = name ∧ row.blocks = true

def Overridden (events : List EventRecorded) : Prop :=
  ∃ event ∈ events, event.kind = "verifier_overridden"

def Stopped (events : List EventRecorded) : Prop :=
  ∃ event ∈ events, event.kind = "aborting" ∧ event.payload.falsifiedBy ≠ []

def AllAdvisory (params : FlowInput) (events : List EventRecorded) : Prop :=
  ∀ name, Falsified events name → name ∉ blockingSet params

/-- How much a box holds against the change. -/
def NodeState.rank : NodeState → Nat
  | .pending => 0
  | .running | .interrupted => 1
  | .ok => 2
  | .advisory => 3
  | .failed => 4

/-- One state may follow another: a better one does not follow a worse one, unless this excuses
it. -/
def Follows (excused : Prop) (state next : NodeState) : Prop :=
  state.rank ≤ next.rank ∨ state = .failed ∧ next = .advisory ∧ excused

/-- What the box is to show of a run. -/
structure WorstWins (params : FlowInput) (rows : List RunEvent) : Prop where
  stopped : Stopped (rows.map RunEvent.event) →
    ∀ runFinished, verifiersBox rows runFinished = .failed
  ok : ∀ runFinished, verifiersBox rows runFinished = .ok →
    ∀ name, ¬ Falsified (rows.map RunEvent.event) name
  worsens : ∀ before row after, rows = before ++ row :: after → ∀ runFinished,
    Follows (AllAdvisory params (rows.map RunEvent.event)) (verifiersBox before runFinished)
      (verifiersBox (before ++ [row]) runFinished)

/-- Whenever an objection is on record as overridden, no verifier that may block objected. -/
def Unmixed (params : FlowInput) (events : List EventRecorded) : Prop :=
  Overridden events → AllAdvisory params events

/-! ## The states one after another -/

/-- From `state` on, each state may follow the one before. -/
def Worsens (excused : Prop) : NodeState → List EventRecorded → Prop
  | _, [] => True
  | state, event :: rest =>
      Follows excused state (repaint state event) ∧ Worsens excused (repaint state event) rest

theorem follows_refl {excused : Prop} (state : NodeState) : Follows excused state state :=
  .inl le_rfl

theorem worsens_append {excused : Prop} {state : NodeState} {early late : List EventRecorded} :
    Worsens excused state (early ++ late) ↔
      Worsens excused state early ∧ Worsens excused (early.foldl repaint state) late := by
  induction early generalizing state with
  | nil => simp [Worsens]
  | cons event rest ih =>
      simp only [List.cons_append, Worsens, List.foldl_cons, ih, and_assoc]

theorem Worsens.mono {excused excused' : Prop} {state : NodeState}
    (worsens : Worsens excused state events) (weaken : excused → excused') :
    Worsens excused' state events := by
  induction events generalizing state with
  | nil => trivial
  | cons event rest ih =>
      obtain ⟨worse | ⟨failed, advisory, excuse⟩, later⟩ := worsens
      · exact ⟨.inl worse, ih later⟩
      · exact ⟨.inr ⟨failed, advisory, weaken excuse⟩, ih later⟩

theorem board_concat : board (events ++ [event]) = repaint (board events) event :=
  List.foldl_concat ..

theorem worsens_concat {excused : Prop} :
    Worsens excused .pending (events ++ [event]) ↔
      Worsens excused .pending events ∧
        Follows excused (board events) (board (events ++ [event])) := by
  rw [worsens_append, board_concat, Worsens, Worsens, and_true]
  rfl

theorem worsens_iff {excused : Prop} : Worsens excused .pending events ↔
    ∀ before event after, events = before ++ event :: after →
      Follows excused (board before) (board (before ++ [event])) := by
  constructor
  · rintro worsens before event after rfl
    rw [List.append_cons, worsens_append, worsens_concat] at worsens
    exact worsens.1.2
  · intro each
    induction events using List.reverseRecOn with
    | nil => trivial
    | append_singleton early last ih =>
        refine worsens_concat.mpr ⟨ih fun before event after split => ?_, each early last [] rfl⟩
        exact each before event (after ++ [last]) (by simp [split])

/-- Only the rows of the verifiers count. -/
theorem repaint_other {state : NodeState} (other : Text.startsWith "verifier" event.kind = false) :
    repaint state event = state := by
  rw [repaint, if_neg (by simp [other])]

/-- Rows that change nothing may be left out. -/
theorem worsens_filter {excused : Prop} {p : EventRecorded → Bool} {state : NodeState}
    (silent : ∀ event ∈ events, p event = false → Text.startsWith "verifier" event.kind = false) :
    (events.filter p).foldl repaint state = events.foldl repaint state ∧
      (Worsens excused state (events.filter p) ↔ Worsens excused state events) := by
  induction events generalizing state with
  | nil => simp
  | cons event rest ih =>
      have later := fun other mem => silent other (List.mem_cons_of_mem event mem)
      by_cases stands : p event = true
      · rw [List.filter_cons_of_pos stands, List.foldl_cons, List.foldl_cons, Worsens, Worsens]
        exact ⟨(ih later).1, and_congr_right fun _ => (ih later).2⟩
      · have still : repaint state event = state :=
          repaint_other (silent event List.mem_cons_self (by simpa using stands))
        rw [List.filter_cons_of_neg stands, List.foldl_cons, Worsens, still]
        exact ⟨(ih later).1, by simp [follows_refl, (ih later).2]⟩

theorem settled_eq {state ended : NodeState} {runFinished : Bool} (running : ended ≠ .running)
    (interrupted : ended ≠ .interrupted) : settled runFinished state = ended ↔ state = ended := by
  rw [settled]
  split
  next ran => simp [ran.2, Ne.symm running, Ne.symm interrupted]
  · rfl

/-- A box that has closed orders its states as an open one does. -/
theorem follows_settled {excused : Prop} {state next : NodeState} {runFinished : Bool} :
    Follows excused (settled runFinished state) (settled runFinished next) ↔
      Follows excused state next := by
  have ranked : ∀ state, (settled runFinished state).rank = state.rank := by
    intro state
    rw [settled]
    split
    next ran => rw [ran.2]; rfl
    · rfl
  rw [Follows, Follows, ranked, ranked, settled_eq (by decide) (by decide),
    settled_eq (by decide) (by decide)]

/-! ## What a run has recorded of its verifiers -/

/-- The rows the box depends on, and those that stop a run. -/
def marked (event : EventRecorded) : Bool :=
  Text.startsWith "verifier" event.kind || event.kind == "aborting" ||
    event.nodeId == some "__verifiers"

/-- Nothing was overridden so far, and nothing stopped. -/
structure Early (events : List EventRecorded) : Prop where
  boxless : ∀ event ∈ events, event.nodeId ≠ some "__verifiers"
  kinds : ∀ event ∈ events, event.kind ≠ "verifier_overridden" ∧ event.kind ≠ "aborting"
  worsens : Worsens False .pending events

structure Fanning (events : List EventRecorded) : Prop extends Early events where
  mild : (board events).rank ≤ 2
  untold : ∀ event ∈ events, event.kind ≠ "verifiers_completed"

structure Told (verifications : List Verification) (events : List EventRecorded) : Prop
    extends Early events where
  objected : ∀ name, Falsified events name → ∃ v ∈ verifications, v.passed = false
  failed : (∃ v ∈ verifications, v.passed = false) → board events = .failed

structure Board (params : FlowInput) (events : List EventRecorded) : Prop where
  boxless : ∀ event ∈ events, event.nodeId ≠ some "__verifiers"
  fair : ¬ Overridden events →
    Worsens False .pending events ∧ ∀ name, Falsified events name → board events = .failed
  overridden : Overridden events →
    board events = .advisory ∧ ∀ excused, Worsens excused .pending events ↔ excused
  stopped : Stopped events → ¬ AllAdvisory params events

/-- The same of a run that nothing has stopped. -/
structure Live (params : FlowInput) (events : List EventRecorded) : Prop
    extends Board params events where
  unstopped : ∀ event ∈ events, event.kind ≠ "aborting"

theorem forall_concat {P : EventRecorded → Prop} (all : ∀ event ∈ events, P event)
    (last : P event) : ∀ other ∈ events ++ [event], P other := by
  intro other mem
  rcases List.mem_append.mp mem with old | new
  · exact all other old
  · rw [List.mem_singleton.mp new]
    exact last

theorem early_nil : Early [] := ⟨by simp, by simp, trivial⟩

theorem Early.concat (early : Early events) (boxless : event.nodeId ≠ some "__verifiers")
    (kind : event.kind ≠ "verifier_overridden" ∧ event.kind ≠ "aborting")
    (follows : Follows False (board events) (board (events ++ [event]))) :
    Early (events ++ [event]) where
  boxless := forall_concat early.boxless boxless
  kinds := forall_concat early.kinds kind
  worsens := worsens_concat.mpr ⟨early.worsens, follows⟩

section Rows

variable {seq : Nat} {nodeId mode : Option String} {payload : Payload} {state : NodeState}

theorem repaint_started :
    repaint state ⟨seq, "verifiers_started", nodeId, payload, mode⟩ = .running := by
  rw [repaint, if_pos (by simp only; decide), if_pos rfl]

theorem repaint_overridden :
    repaint state ⟨seq, "verifier_overridden", nodeId, payload, mode⟩ = .advisory := by
  rw [repaint, if_pos (by simp only; decide), if_neg (by simp), if_pos rfl]

theorem repaint_verdict {notes : Option NodeNotes} (mild : state.rank ≤ 2) :
    repaint state ⟨seq, "verifier_verdict", nodeId, .notes notes, mode⟩ = .ok := by
  rw [repaint, if_pos (by simp only; decide), if_neg (by simp), if_neg (by simp)]
  cases state <;> simp_all [falsifiedOf, NodeState.rank]

theorem repaint_completed {passed total : Nat} {falsified : List String} {rows : List VerdictRow}
    (mild : state.rank ≤ 2) :
    repaint state ⟨seq, "verifiers_completed", nodeId,
      .verifiersCompleted passed total falsified rows, mode⟩ =
        if falsified = [] then .ok else .failed := by
  rw [repaint, if_pos (by simp only; decide), if_neg (by simp), if_neg (by simp)]
  cases falsified with
  | nil => cases state <;> simp_all [falsifiedOf, NodeState.rank]
  | cons first rest => rfl

theorem fanning_started :
    Fanning [⟨seq, "verifiers_started", none, payload, mode⟩] where
  toEarly := early_nil.concat (by simp) (by simp)
    (by rw [board_concat, repaint_started]; exact .inl (Nat.zero_le _))
  mild := by
    rw [board, List.foldl_cons, repaint_started]
    decide
  untold := by simp

theorem Fanning.verdict {notes : Option NodeNotes} {verifierId : String}
    (fanning : Fanning events) (node : verifierId ∈ verifierIds) :
    Fanning (events ++ [⟨seq, "verifier_verdict", some verifierId, .notes notes, mode⟩]) := by
  have painted : board (events ++ [⟨seq, "verifier_verdict", some verifierId, .notes notes, mode⟩])
      = .ok := by
    rw [board_concat, repaint_verdict fanning.mild]
  refine { fanning.toEarly.concat ?_ (by simp) (.inl ?_) with
    mild := ?_
    untold := forall_concat fanning.untold (by simp) }
  · intro same
    rw [Option.some.inj same] at node
    exact absurd node (by decide)
  · rw [painted]
    exact fanning.mild
  · rw [painted]
    decide

theorem Fanning.told {verifications : List Verification} {passed total : Nat}
    (fanning : Fanning events) : Told verifications (events ++ [⟨seq, "verifiers_completed", none,
      .verifiersCompleted passed total
        ((verifications.filter fun v => !v.passed).map Verification.verifier)
        (verifications.map verdictRow), mode⟩]) := by
  refine { fanning.toEarly.concat (by simp) (by simp) (.inl ?_) with
    objected := ?_
    failed := ?_ }
  · rw [board_concat, repaint_completed fanning.mild]
    split
    · exact fanning.mild
    · exact fanning.mild.trans (by decide)
  · rintro name ⟨event, mem, kind, row, listed, -, blocks⟩
    rcases List.mem_append.mp mem with old | new
    · exact absurd kind (fanning.untold event old)
    · rw [List.mem_singleton.mp new] at listed
      obtain ⟨v, known, rfl⟩ := List.mem_map.mp listed
      exact ⟨v, known, by simpa [verdictRow] using blocks⟩
  · rintro ⟨v, mem, failed⟩
    rw [board_concat, repaint_completed fanning.mild, if_neg]
    intro none
    have listed : v.verifier ∈ (verifications.filter fun v => !v.passed).map
        Verification.verifier :=
      List.mem_map_of_mem (List.mem_filter.mpr ⟨mem, by simp [failed]⟩)
    rw [none] at listed
    cases listed

end Rows

theorem Early.live (early : Early events)
    (fair : ∀ name, Falsified events name → board events = .failed) : Live params events where
  boxless := early.boxless
  fair _ := ⟨early.worsens, fair⟩
  overridden := by
    rintro ⟨event, mem, kind⟩
    exact absurd kind (early.kinds event mem).1
  stopped := by
    rintro ⟨event, mem, kind, -⟩
    exact absurd kind (early.kinds event mem).2
  unstopped event mem := (early.kinds event mem).2

theorem live_nil : Live params [] :=
  early_nil.live fun _ ⟨_, mem, _⟩ => nomatch mem

theorem Fanning.live (fanning : Fanning events) : Live params events :=
  fanning.toEarly.live fun _ ⟨event, mem, kind, _⟩ => absurd kind (fanning.untold event mem)

theorem Told.live {verifications : List Verification} (told : Told verifications events) :
    Live params events :=
  told.toEarly.live fun name falsified => told.failed (told.objected name falsified)

theorem Told.overridden {verifications : List Verification} {seq : Nat} {payload : Payload}
    {mode : Option String} (told : Told verifications events)
    (failed : ∃ v ∈ verifications, v.passed = false) :
    Live params (events ++ [⟨seq, "verifier_overridden", none, payload, mode⟩]) where
  boxless := forall_concat told.boxless (by simp)
  fair unheard := absurd ⟨_, List.mem_append_right _ (List.mem_singleton.mpr rfl), rfl⟩ unheard
  overridden _ := by
    have painted : board (events ++ [⟨seq, "verifier_overridden", none, payload, mode⟩]) =
        .advisory := by
      rw [board_concat, repaint_overridden]
    refine ⟨painted, fun excused => ?_⟩
    rw [worsens_concat, painted, told.failed failed]
    constructor
    · rintro ⟨-, worse | ⟨-, -, excuse⟩⟩
      · exact absurd worse (by decide)
      · exact excuse
    · intro excuse
      exact ⟨told.worsens.mono (absurd · id), .inr ⟨rfl, rfl, excuse⟩⟩
  stopped := by
    rintro ⟨event, mem, kind, -⟩
    refine absurd kind (forall_concat (P := fun event => event.kind ≠ "aborting") ?_ (by simp)
      event mem)
    exact fun event mem => (told.kinds event mem).2
  unstopped := forall_concat (fun event mem => (told.kinds event mem).2) (by simp)

theorem falsified_concat {name : String} (kind : event.kind ≠ "verifiers_completed") :
    Falsified (events ++ [event]) name ↔ Falsified events name := by
  constructor
  · rintro ⟨other, mem, told, row⟩
    rcases List.mem_append.mp mem with old | new
    · exact ⟨other, old, told, row⟩
    · rw [List.mem_singleton.mp new] at told
      exact absurd told kind
  · rintro ⟨other, mem, told, row⟩
    exact ⟨other, List.mem_append_left _ mem, told, row⟩

theorem overridden_concat (kind : event.kind ≠ "verifier_overridden") :
    Overridden (events ++ [event]) ↔ Overridden events := by
  constructor
  · rintro ⟨other, mem, told⟩
    rcases List.mem_append.mp mem with old | new
    · exact ⟨other, old, told⟩
    · rw [List.mem_singleton.mp new] at told
      exact absurd told kind
  · rintro ⟨other, mem, told⟩
    exact ⟨other, List.mem_append_left _ mem, told⟩

/-- The rejection of a change, which blames those who may block. -/
theorem Live.aborted {seq : Nat} {reason : String} {names : List String} {mode : Option String}
    (live : Live params events)
    (blamed : ∀ name ∈ names, Falsified events name ∧ name ∈ blockingSet params) :
    Board params (events ++ [⟨seq, "aborting", none, .aborting reason names, mode⟩]) := by
  have still : board (events ++ [⟨seq, "aborting", none, .aborting reason names, mode⟩]) =
      board events := by
    rw [board_concat, repaint_other (by simp only; decide)]
  have same : ∀ excused,
      Worsens excused .pending (events ++ [⟨seq, "aborting", none, .aborting reason names, mode⟩]) ↔
        Worsens excused .pending events := by
    intro excused
    rw [worsens_concat, still]
    exact and_iff_left (follows_refl _)
  constructor
  · exact forall_concat live.boxless (by simp)
  · intro unheard
    rw [overridden_concat (by simp)] at unheard
    refine ⟨(same _).mpr (live.fair unheard).1, fun name falsified => ?_⟩
    rw [still]
    exact (live.fair unheard).2 name ((falsified_concat (by simp)).mp falsified)
  · intro heard
    rw [overridden_concat (by simp)] at heard
    refine ⟨still.trans (live.overridden heard).1, fun excused => ?_⟩
    exact (same excused).trans ((live.overridden heard).2 excused)
  · rintro ⟨event, mem, kind, some⟩ advisory
    rcases List.mem_append.mp mem with old | new
    · exact live.unstopped event old kind
    · rw [List.mem_singleton.mp new] at some
      obtain ⟨name, named⟩ := List.exists_mem_of_ne_nil _ some
      obtain ⟨falsified, blocks⟩ := blamed name named
      exact advisory name ((falsified_concat (by simp)).mpr falsified) blocks

/-! ## One stage after another -/

variable {W Lbl : Type} {adapters : Adapters W Lbl} {worker : Worker} {s s' : DeliveryFlow}
  {w w' : FlowWorld W} {h : FlowHistory}

/-- What is on record of the verifiers satisfies `P`. -/
def Stage (P : List EventRecorded → Prop) (_ : DeliveryFlow) (w : FlowWorld W)
    (h : FlowHistory) : Prop :=
  ∃ marks, Marked marked marks w h ∧ P marks

theorem marked_verifier (verifying : Text.startsWith "verifier" event.kind = true) :
    marked event = true := by
  simp [marked, verifying]

theorem telling_marked : Telling marked := by
  have kinds : ∀ kind ∈ asides, Text.startsWith "verifier" kind = false ∧ kind ≠ "aborting" := by
    decide
  have nodes : "__verifiers" ∉ Flow.nodes := by decide
  intro event aside
  have kind := kinds _ aside.kind
  have node : event.nodeId ≠ some "__verifiers" := fun same => nodes (aside.nodeId _ same)
  simp [marked, kind, node]

section Rules

variable {P Q R : List EventRecorded → Prop} {α β : Type} {t : Flow α} {f : α → Flow β}

theorem stage_mono (weaken : ∀ events, P events → Q events) (held : Stage P s w h) :
    Stage Q s' w h := by
  obtain ⟨marks, marked, known⟩ := held
  exact ⟨marks, marked, weaken marks known⟩

theorem keeps_stage (only : t.Only Apart) : t.Keeps (system adapters worker) (Stage P) := by
  rintro s w h ⟨marks, marked, known⟩
  exact Proc.wp_mono _ _ _ (keeps_marked telling_marked only s w h marked)
    (fun _ _ _ marked => ⟨marks, marked, known⟩) fun _ _ _ _ marked => ⟨marks, marked, known⟩

/-- An event that counts takes the record from one stage to the next. -/
theorem emit_stage {kind : String} {payload : Payload} {nodeId mode : Option String}
    (stands : ∀ seq, marked ⟨seq, kind, nodeId, payload, mode⟩ = true)
    (next : ∀ events seq, P events → Q (events ++ [⟨seq, kind, nodeId, payload, mode⟩]))
    (held : Stage P s w h) : (emit kind payload nodeId mode).wp (system adapters worker)
      (Stage P) (fun r s w h => r = .ok () ∧ Stage Q s w h) s w h := by
  obtain ⟨marks, marked, known⟩ := held
  refine Proc.wp_mono _ _ _ (emit_marked telling_marked marked stands)
    (fun _ _ _ marked => ⟨marks, marked, known⟩) ?_
  rintro r s w h ⟨returned, seq, marked⟩
  exact ⟨returned, _, marked, next marks seq known⟩

/-- Past an event that counts. -/
theorem emit_past {Z : Except FlowExc β → Assertion DeliveryFlow (FlowWorld W) FlowOp FlowRep
    FlowMove} {kind : String} {payload : Payload} {nodeId mode : Option String} {f : Unit → Flow β}
    (stands : ∀ seq, marked ⟨seq, kind, nodeId, payload, mode⟩ = true)
    (next : ∀ events seq, P events → Q (events ++ [⟨seq, kind, nodeId, payload, mode⟩]))
    (weaken : ∀ events, P events → R events) (held : Stage P s w h)
    (rest : ∀ s w h, Stage Q s w h → (f ()).wp (system adapters worker) (Stage R) Z s w h) :
    (emit kind payload nodeId mode >>= f).wp (system adapters worker) (Stage R) Z s w h := by
  refine Task.wp_bind.mpr (Proc.wp_mono _ _ _ (emit_stage stands next held)
    (fun _ _ _ => stage_mono weaken) ?_)
  rintro _ s w h ⟨rfl, held⟩
  exact rest s w h held

/-- Past a task that records nothing else. -/
theorem stage_past {Z : Except FlowExc β → Assertion DeliveryFlow (FlowWorld W) FlowOp FlowRep
    FlowMove} (kept : t.Keeps (system adapters worker) (Stage P))
    (weaken : ∀ events, P events → R events)
    (failed : ∀ e s w h, Stage R s w h → Z (.error e) s w h) (held : Stage P s w h)
    (rest : ∀ a s w h, Stage P s w h →
      (f a).wp (system adapters worker) (Stage R) Z s w h) :
    (t >>= f).wp (system adapters worker) (Stage R) Z s w h := by
  refine Task.wp_bind.mpr (Proc.wp_mono _ _ _ (kept s w h held)
    (fun _ _ _ => stage_mono weaken) ?_)
  intro r s w h held
  cases r with
  | error e => exact failed e s w h (stage_mono weaken held)
  | ok a => exact rest a s w h held

end Rules

theorem collect_stage {results : List (String × Obj)} {obj : Obj}
    (known : ∀ result ∈ results, result.1 ∈ verifierIds) :
    (collect results obj).Keeps (system adapters worker) (Stage Fanning) := by
  induction results generalizing obj with
  | nil => exact Task.keeps_pure _
  | cons result rest ih =>
      have later := fun other mem => known other (List.mem_cons_of_mem result mem)
      refine Task.keeps_bind (keeps_stage mutate_only) fun _ => ?_
      dsimp only
      split
      · refine Task.keeps_bind ?_ fun _ =>
          Task.keeps_bind (keeps_stage mutate_only) fun _ => ih later
        intro s w h held
        refine Proc.wp_mono _ _ _ (emit_stage (Q := Fanning) (fun _ => marked_verifier (by simp only; decide))
          (fun _ _ fanning => fanning.verdict (known result List.mem_cons_self)) held)
          (fun _ _ _ held => held) ?_
        rintro r s w h ⟨-, held⟩
        exact held
      · exact Task.keeps_bind (keeps_stage mutate_only) fun _ => ih later

/-- What the fan-out leaves on record: the verdicts that its state holds, if it returns one. -/
def Fanned (params : FlowInput) :
    Except FlowExc Obj → Assertion DeliveryFlow (FlowWorld W) FlowOp FlowRep FlowMove
  | .ok obj => Stage (Told obj.val.verifications)
  | .error _ => Stage (Live params)

theorem verify_stage {obj : Obj} (held : Stage (· = []) s w h) :
    (verify obj).wp (system adapters worker) (Stage (Live params)) (Fanned params) s w h := by
  have failed : ∀ e s w h, Stage (Live params) s w h → Fanned (W := W) params (.error e) s w h :=
    fun _ _ _ _ held => held
  have live : ∀ events, Fanning events → Live params events := fun _ => Fanning.live
  refine emit_past (Q := Fanning) (fun _ => marked_verifier (by simp only; decide)) ?_ ?_ held
    fun s w h held => ?_
  · rintro _ seq rfl
    exact fanning_started
  · rintro _ rfl
    exact live_nil
  refine stage_past (keeps_stage (call_apart (by simp))) live failed held fun _ s w h held => ?_
  refine stage_past (keeps_stage (call_apart (by simp))) live failed held
    fun gathered s w h held => ?_
  refine stage_past (keeps_stage (Task.only_ofExcept gathered)) live failed held
    fun results s w h held => ?_
  refine stage_past (keeps_stage mutate_only) live failed held fun obj s w h held => ?_
  refine stage_past (collect_stage fun result mem => (List.of_mem_zip mem).1) live failed held
    fun obj s w h held => ?_
  refine emit_past (Q := Told obj.val.verifications)
    (fun _ => marked_verifier (by simp only; decide)) (fun _ _ fanning => fanning.told) live held
    fun s w h held => ?_
  exact held

theorem judge_stage {obj : Obj} (held : Stage (Told obj.val.verifications) s w h) :
    (judge params obj).wp (system adapters worker) (Stage (Live params))
      (fun _ => Stage (Live params)) s w h := by
  have concluded : ∀ (names : List Verification) (obj : Obj), (do
      if names ≠ [] then
        Task.raise (.rejected "a verifier falsified the change" (names.map Verification.verifier))
      return obj : Flow Obj).Only Apart := by
    intro names obj
    dsimp only
    split
    · exact Task.only_bind (Task.only_raise _) fun _ => Task.only_pure _
    · exact Task.only_pure _
  have ends := fun names obj =>
    @keeps_stage _ _ adapters worker (Live params) _ _ (concluded names obj)
  unfold judge
  dsimp only
  refine Task.wp_past (keeps_stage mutate_only) (fun _ _ _ => stage_mono fun _ => Told.live) held
    fun obj' s w h held => ?_
  split
  next some =>
    refine emit_past (Q := Live params) (fun _ => marked_verifier (by simp only; decide))
      (fun _ _ told => told.overridden ?_) (fun _ => Told.live) held fun s w h held => ?_
    · exact ends _ _ s w h held
    · obtain ⟨name, named⟩ := List.exists_mem_of_ne_nil _ some
      obtain ⟨v, mem, -⟩ := List.mem_map.mp named
      have failed := List.mem_filter.mp (List.mem_filter.mp mem).1
      exact ⟨v, failed.1, by simpa using failed.2⟩
  · exact ends _ _ s w h (stage_mono (fun _ => Told.live) held)

theorem deliver_stage {obj : Obj} (held : Stage (· = []) s w h) :
    (deliver params obj).wp (system adapters worker) (Stage (Live params))
      (fun _ => Stage (Live params)) s w h := by
  have nothing : ∀ events, events = [] → Live params events := by
    rintro _ rfl
    exact live_nil
  have opens : ∀ s w h, Stage (W := W) (· = []) s w h → Stage (Live params) s w h :=
    fun _ _ _ => stage_mono nothing
  unfold deliver approach
  simp only [Task.bind_assoc]
  refine Task.wp_past (keeps_stage (node_step_apart (by decide))) opens held
    fun _ s w h held => ?_
  refine Task.wp_past (keeps_stage (node_step_apart (by decide))) opens held
    fun _ s w h held => ?_
  refine Task.wp_past (keeps_stage cycle_apart) opens held fun _ s w h held => ?_
  refine Task.wp_past (keeps_stage report_isolation_apart) opens held fun _ s w h held => ?_
  refine Task.wp_past (keeps_stage settle_tier_apart) opens held fun _ s w h held => ?_
  refine Task.wp_bind.mpr (Task.wp_mono (verify_stage held) ?_)
  rintro (e | obj) s w h held
  · exact held
  refine Task.wp_bind.mpr (Task.wp_mono (judge_stage held) ?_)
  rintro (e | obj) s w h held
  · exact held
  · exact Task.keeps_bind (keeps_stage gate_apart) (fun _ =>
      Task.keeps_bind (keeps_stage (node_step_apart (by decide))) fun _ =>
      Task.keeps_bind (keeps_stage report_effect_apart) fun _ => Task.keeps_pure _) s w h held

/-- Whoever an outcome blames has falsified the change, and may block. -/
theorem falsified_of_blamed {outcome : Except FlowExc Obj} {marks : List EventRecorded}
    (held : Outcome params outcome s w h) (marked : Marked marked marks w h) :
    ∀ name ∈ blamed outcome, Falsified marks name ∧ name ∈ blockingSet params := by
  obtain ⟨verdicts, stands, blames⟩ := held
  intro name named
  obtain ⟨⟨payload, known, row, listed, told⟩, blocks⟩ := (blames name).mp named
  rw [← stands.verdicts] at known
  obtain ⟨event, main, kind, rfl⟩ := mem_recorded.mp known
  refine ⟨⟨event, ?_, kind, row, listed, told⟩, blocks⟩
  rw [← marked.main, List.mem_filter]
  exact ⟨main, marked_verifier (by rw [kind]; decide)⟩

theorem ending_stage {obj : Obj} {outcome : Except FlowExc Obj} (held : Stage (Live params) s w h)
    (blames : Outcome params outcome s w h) :
    (ending params obj outcome).wp (system adapters worker) (Stage (Board params))
      (fun _ => Stage (Board params)) s w h := by
  obtain ⟨marks, marked, live⟩ := held
  have falsified := falsified_of_blamed blames marked
  rcases outcome with (⟨reason, falsifiedBy⟩ | ⟨error, message⟩) | obj
  · refine emit_past (P := (· = marks)) (Q := Board params)
      (fun seq => by simp only [Ui.marked]; decide) ?_ ?_ ⟨marks, marked, rfl⟩ fun s w h held => ?_
    · rintro _ seq rfl
      exact live.aborted falsified
    · rintro _ rfl
      exact live.toBoard
    · exact Task.keeps_bind (keeps_stage doomed_only) (fun _ =>
        Task.keeps_bind (keeps_stage mutate_only) fun _ =>
        Task.keeps_bind (keeps_stage (node_step_apart (by decide))) fun _ =>
        Task.keeps_bind (keeps_stage emit_cleanup_apart) fun _ =>
        Task.keeps_bind (keeps_stage (Task.only_update _)) fun _ =>
        keeps_stage conclude_apart) s w h held
  · exact Task.keeps_bind (keeps_stage (emit_apart (by decide))) (fun _ =>
      Task.keeps_bind (keeps_stage doomed_only) fun _ =>
      Task.keeps_bind (keeps_stage (node_step_apart (by decide))) fun _ =>
      Task.keeps_bind (keeps_stage emit_cleanup_apart) fun _ =>
      Task.keeps_bind (keeps_stage (Task.only_update _)) fun _ =>
      Task.keeps_bind (keeps_stage (node_step_apart (by decide))) fun _ =>
      Task.keeps_bind (keeps_stage finish_apart) fun _ => Task.keeps_raise _) s w h
      ⟨marks, marked, live.toBoard⟩
  · exact Task.keeps_bind (keeps_stage (Task.only_update _)) (fun _ =>
      keeps_stage conclude_apart) s w h ⟨marks, marked, live.toBoard⟩

/-- The run lemma: what the box makes of a run, wherever the run stands. -/
theorem stage_of_runs {a : W} {c : FlowConfig W} (run : Runs adapters worker params a c) :
    Stage (Board params) c.proc.state c.world c.history := by
  refine wp_invariant ?_ run
  have live : ∀ s w h, Stage (W := W) (· = []) s w h → Stage (Board params) s w h := by
    refine fun _ _ _ => stage_mono ?_
    rintro _ rfl
    exact live_nil.toBoard
  have start : Stage (· = []) {} (⟨a, {}, .empty⟩ : FlowWorld W) [] :=
    ⟨[], ⟨Pool.only_empty, by simp [besides], rfl⟩, rfl⟩
  refine Task.wp_bind.mpr (Task.wp_read.mpr (Task.wp_bind.mpr ((Task.wp_update _).mpr ?_)))
  refine Task.wp_bind.mpr (Proc.wp_mono _ _ _ (Proc.wp_and _ _ _
    (keeps_stage (call_apart (by simp)) _ _ _ start) (call_stands (by simp) _ _ _ (stands_start a _)))
    (fun s w h held => live s w h held.1) ?_)
  rintro (e | _) s w h ⟨start, stands⟩
  · exact live s w h start
  · refine Task.wp_bind.mpr (Task.wp_attempt.mpr (Proc.wp_mono _ _ _ (Proc.wp_and _ _ _
      (deliver_stage start) (deliver_outcome stands))
      (fun _ _ _ held => stage_mono (fun _ => Live.toBoard) held.1) ?_))
    exact fun outcome s w h held => ending_stage held.1 held.2

/-! ## What the box shows -/

section Box

variable {rows : List RunEvent}

/-- The box never shows a worse state before a better one if its rows never paint it so. -/
theorem box_worsens {excused : Prop}
    (apart : ∀ row ∈ rows, row.event.nodeId ≠ some "__verifiers") :
    (∀ before row after, rows = before ++ row :: after → ∀ runFinished, Follows excused
      (verifiersBox before runFinished) (verifiersBox (before ++ [row]) runFinished)) ↔
      Worsens excused .pending (rows.map RunEvent.event) := by
  have shown : ∀ before row after, rows = before ++ row :: after → ∀ runFinished,
      verifiersBox before runFinished = settled runFinished (board (before.map RunEvent.event)) ∧
        verifiersBox (before ++ [row]) runFinished =
          settled runFinished (board (before.map RunEvent.event ++ [row.event])) := by
    rintro before row after rfl runFinished
    constructor
    · exact verifiersBox_eq _ fun other mem => apart other (List.mem_append_left _ mem)
    · rw [verifiersBox_eq _ fun other mem => apart other (by simp_all; tauto), List.map_append,
        List.map_singleton]
  rw [worsens_iff]
  constructor
  · rintro each before event after split
    obtain ⟨early, rest, rfl, rfl, later⟩ := List.map_eq_append_iff.mp split
    obtain ⟨row, late, rfl, rfl, rfl⟩ := List.map_eq_cons_iff.mp later
    have follows := each early row late rfl false
    rwa [(shown _ _ _ rfl false).1, (shown _ _ _ rfl false).2, follows_settled] at follows
  · rintro each before row after rfl runFinished
    rw [(shown _ _ _ rfl _).1, (shown _ _ _ rfl _).2, follows_settled]
    exact each _ _ (after.map RunEvent.event) (by simp)

/-- What is read off rows that count is read off the rows that do. -/
theorem exists_marked {P : EventRecorded → Prop} (counts : ∀ event, P event → marked event = true) :
    (∃ event ∈ events.filter marked, P event) ↔ ∃ event ∈ events, P event := by
  constructor
  · rintro ⟨event, mem, known⟩
    exact ⟨event, List.mem_of_mem_filter mem, known⟩
  · rintro ⟨event, mem, known⟩
    exact ⟨event, List.mem_filter.mpr ⟨mem, counts event known⟩, known⟩

theorem Board.worst_wins (board : Board params ((rows.map RunEvent.event).filter marked)) :
    WorstWins params rows ↔ Unmixed params (rows.map RunEvent.event) := by
  generalize marks : (rows.map RunEvent.event).filter marked = counted at board
  have falsified : ∀ name, Falsified counted name ↔ Falsified (rows.map RunEvent.event) name := by
    intro name
    rw [← marks]
    exact exists_marked fun event known => marked_verifier (by rw [known.1]; decide)
  have overridden : Overridden counted ↔ Overridden (rows.map RunEvent.event) := by
    rw [← marks]
    exact exists_marked fun event known => marked_verifier (by rw [known]; decide)
  have stopped : Stopped counted ↔ Stopped (rows.map RunEvent.event) := by
    rw [← marks]
    exact exists_marked fun event known => by simp [marked, known.1]
  have advisory : AllAdvisory params counted ↔ AllAdvisory params (rows.map RunEvent.event) :=
    forall_congr' fun name => imp_congr_left (falsified name)
  have apart : ∀ row ∈ rows, row.event.nodeId ≠ some "__verifiers" := by
    intro row mem same
    refine board.boxless row.event ?_ same
    rw [← marks, List.mem_filter]
    exact ⟨List.mem_map_of_mem mem, by simp [marked, same]⟩
  have still : ∀ {excused : Prop},
      Ui.board counted = Ui.board (rows.map RunEvent.event) ∧
        (Worsens excused .pending counted ↔ Worsens excused .pending (rows.map RunEvent.event)) := by
    intro excused
    rw [← marks]
    exact worsens_filter fun event _ other => by
      by_contra verifying
      rw [marked_verifier (by simpa using verifying)] at other
      cases other
  have shown : ∀ runFinished, verifiersBox rows runFinished =
      settled runFinished (Ui.board counted) := by
    intro runFinished
    rw [verifiersBox_eq _ apart, (@still True).1]
  rw [Unmixed, ← overridden, ← advisory]
  constructor
  · intro worst heard
    refine ((board.overridden heard).2 _).mp (still.2.mpr ?_)
    rw [advisory]
    exact (box_worsens apart).mp worst.worsens
  · intro unmixed
    by_cases heard : Overridden counted
    · have excused := unmixed heard
      obtain ⟨painted, worsens⟩ := board.overridden heard
      constructor
      · intro halted
        exact absurd excused (board.stopped (stopped.mpr halted))
      · intro runFinished ok
        rw [shown, settled_eq (by decide) (by decide), painted] at ok
        cases ok
      · exact (box_worsens apart).mpr (still.2.mp ((worsens _).mpr (advisory.mp excused)))
    · obtain ⟨worsens, failed⟩ := board.fair heard
      constructor
      · intro halted runFinished
        obtain ⟨name, told, -⟩ : ∃ name, Falsified counted name ∧ name ∈ blockingSet params := by
          by_contra none
          refine board.stopped (stopped.mpr halted) fun name told blocks => ?_
          exact none ⟨name, told, blocks⟩
        rw [shown, settled_eq (by decide) (by decide)]
        exact failed name told
      · intro runFinished ok name told
        rw [shown, settled_eq (by decide) (by decide),
          failed name ((falsified name).mpr told)] at ok
        cases ok
      · exact (box_worsens apart).mpr (still.2.mp (worsens.mono False.elim))

end Box

/-- The box reports the worst that happened, unless an objection was overridden while a
verifier that may block objected as well. -/
theorem worst_wins_iff {a : W} {c : FlowConfig W} {trail : List EventRecorded}
    {rows : List RunEvent} (run : Runs adapters worker params a c) (persisted : Persisted c trail)
    (read : rows.map RunEvent.event = ordered trail) :
    WorstWins params rows ↔ Unmixed params trail := by
  obtain ⟨marks, marked, board⟩ := stage_of_runs run
  have told := marked.read (sorted_of_runs run) telling_marked persisted
  rw [← told, ← read] at board
  have same : ∀ event, event ∈ ordered trail ↔ event ∈ trail := fun event => List.mem_insertionSort _
  rw [board.worst_wins, read]
  simp only [Unmixed, Overridden, AllAdvisory, Falsified, same]

/-! ## The shop whose verifiers all object -/

instance : Decidable (Stopped events) :=
  inferInstanceAs (Decidable (∃ event ∈ events, _))

def rowsOf (trail : List EventRecorded) : List RunEvent :=
  (ordered trail).map fun event => ⟨event, 0⟩

theorem rowsOf_events (trail : List EventRecorded) :
    (rowsOf trail).map RunEvent.event = ordered trail := by
  simp [rowsOf, Function.comp_def]

def plays (mayBlock : String → Bool) (ended : FlowConfig Unit → Bool) : Bool :=
  match launched mayBlock with
  | .ok params => ended (objectedRun params)
  | .error _ => false

theorem launched_of_plays {mayBlock : String → Bool} {ended : FlowConfig Unit → Bool}
    (played : plays mayBlock ended = true) : ∃ params, launched mayBlock = .ok params ∧
      Runs objecting plainWorker params () (objectedRun params) ∧
        ended (objectedRun params) = true := by
  unfold plays at played
  split at played
  next params ready => exact ⟨params, ready, Script.run_runs _ _ _ _ _ _, played⟩
  next => cases played

theorem worst_wins_iff_objected : ∃ params c, launched (· == "security") = .ok params ∧
    Runs objecting plainWorker params () c ∧
      (WorstWins params (rowsOf c.world.store.trail) ↔ Unmixed params c.world.store.trail) := by
  have played : plays (· == "security") (fun _ => true) = true := by decide +kernel
  obtain ⟨params, ready, run, -⟩ := launched_of_plays played
  exact ⟨params, _, ready, run, worst_wins_iff run ⟨[], List.nil_subperm, rfl⟩ (rowsOf_events _)⟩

/-- Security may block and has stopped the run; all the box says is that others have objected. -/
theorem stopped_shown_advisory : ∃ params c, launched (· == "security") = .ok params ∧
    Runs objecting plainWorker params () c ∧ Stopped c.world.store.trail ∧
      verifiersBox (rowsOf c.world.store.trail) true = .advisory ∧
        ¬ WorstWins params (rowsOf c.world.store.trail) := by
  have played : plays (· == "security") (fun c => decide (Stopped c.world.store.trail ∧
      verifiersBox (rowsOf c.world.store.trail) true = .advisory)) = true := by decide +kernel
  obtain ⟨params, ready, run, ended⟩ := launched_of_plays played
  obtain ⟨stopped, shown⟩ := of_decide_eq_true ended
  refine ⟨params, _, ready, run, stopped, shown, fun worst => ?_⟩
  have failed := worst.stopped ?_ true
  · rw [shown] at failed
    cases failed
  · obtain ⟨event, mem, known⟩ := stopped
    rw [rowsOf_events]
    exact ⟨event, (List.mem_insertionSort _).mpr mem, known⟩

end KuWarden.Ui
