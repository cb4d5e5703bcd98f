import KuWarden.Activities.Tiers
import KuWarden.Flows.Latest
import KuWarden.Flows.Merge

/-!
The risk tier along a run. It is set at the start, raised by Triage and again by final tiering,
and copied everywhere else. What the gate, the approvals and Release make of it is the final one.
-/
namespace KuWarden.Flow

open Process

def statedTiers : Payload → List RiskTier
  | .riskTierFinal tier _ _ _ => [tier]
  | .gateReached tier _ => [tier]
  | .externalEffect _ _ _ _ tier _ => [tier]
  | _ => []

def tiersOf {L : Type} : Label FlowOp FlowRep L → List RiskTier
  | .call (.recordRunStarted run) => [run.riskTier]
  | .call (.recordEvent event) => statedTiers event.payload
  | .call (.runNode _ _ state) => [state.riskTier]
  | .call (.startVerifiers brief) => [brief.riskTier]
  | .call (.notifyGateReached notice) => [notice.riskTier]
  | .reply (.runNode _ _ _) reply =>
      match (show Except PyError FlowState from reply) with
      | .ok result => [result.riskTier]
      | .error _ => []
  | _ => []

/-- On the main line, or at a verifier beside it. -/
def carriedTiers : Label FlowOp FlowRep FlowMove → List RiskTier
  | .env (.verifier _ l) => tiersOf l
  | l => tiersOf l

/-- Every tier a run has carried so far, in order. -/
def tiers (h : FlowHistory) : List RiskTier := h.flatMap carriedTiers

def PayloadAgrees (final : RiskTier) : Payload → Prop
  | .riskTierFinal tier _ _ _ => tier = final
  | .gateReached tier needed => tier = final ∧ needed = requiredApprovals final
  | .externalEffect _ _ _ _ tier _ => tier = final
  | _ => True

/-- Nothing here was done under another final tier. -/
def Agrees (final : RiskTier) : Label FlowOp FlowRep FlowMove → Prop
  | .call (.recordEvent event) => PayloadAgrees final event.payload
  | .call (.notifyGateReached notice) =>
      notice.riskTier = final ∧ notice.approvalsNeeded = requiredApprovals final
  | .call (.waitCondition needed) => needed = requiredApprovals final
  | .call (.runNode nodeId _ state) =>
      (nodeId = "release" → state.riskTier = final) ∧
        ∀ a ∈ state.approvals, a.riskTier = final
  | .reply (.runNode _ _ _) reply =>
      ∀ result, (show Except PyError FlowState from reply) = .ok result →
        ∀ a ∈ result.approvals, a.riskTier = final
  | _ => True

/-- How far a run has come with its tier. -/
structure Stage where
  tier : RiskTier
  settled : Bool

/-- A state of this stage. Only a settled one has approvals. -/
structure Bears (g : Stage) (state : FlowState) : Prop where
  tier : state.riskTier = g.tier
  approvals : ∀ a ∈ state.approvals, g.settled = true ∧ a.riskTier = g.tier

/-- The tiers that are final at this stage: any, until one is settled. -/
def Stage.Final (g : Stage) (final : RiskTier) : Prop := g.settled = true → final = g.tier

structure Speaks (g : Stage) (l : Label FlowOp FlowRep FlowMove) : Prop where
  tiers : ∀ t ∈ carriedTiers l, t = g.tier
  agrees : ∀ final, g.Final final → Agrees final l

structure Told (g : Stage) (h : FlowHistory) : Prop where
  ascending : (tiers h).Pairwise fun t t' => t.order ≤ t'.order
  reached : g.tier ∈ tiers h
  bounded : ∀ t ∈ tiers h, t.order ≤ g.tier.order
  agreed : ∀ final, g.Final final → ∀ l ∈ h, Agrees final l

/-- The verifiers of the pool are where they may stand, and what they were given and returned is
of this stage. -/
structure Manned (g : Stage) {W : Type} (brief : FlowState) (ran : List Execution)
    (s : DeliveryFlow) (w : FlowWorld W) : Prop where
  bears : Bears g brief
  returned : ∀ x ∈ ran, Bears g x.returned
  names : w.pool.slots.map Prod.fst ⊆ verifierIds
  placed : ∀ entry ∈ w.pool.slots, Placed brief ran s.seq entry

/-- What a run holds at this stage. `first` is the state it began with. -/
structure Borne (first : FlowState) (g : Stage) {W : Type} (s : DeliveryFlow) (w : FlowWorld W)
    (h : FlowHistory) : Prop where
  told : Told g h
  latest : Bears g (s.latest.elim first Obj.val)
  idle : g.settled = false → w.pool = .empty
  pool : ∃ brief ran, Manned g brief ran s w

/-! ## Labels -/

variable {g g' : Stage} {h : FlowHistory} {l : Label FlowOp FlowRep FlowMove}

@[simp] theorem tiers_concat : tiers (h ++ [l]) = tiers h ++ carriedTiers l := by
  simp [tiers]

theorem Told.concat (told : Told g h) (speaks : Speaks g l) : Told g (h ++ [l]) where
  ascending := by
    rw [tiers_concat, List.pairwise_append]
    refine ⟨told.ascending, ?_, ?_⟩
    · refine List.pairwise_of_forall_mem_list fun t mem t' mem' => ?_
      rw [speaks.tiers t mem, speaks.tiers t' mem']
    · intro t mem t' mem'
      rw [speaks.tiers t' mem']
      exact told.bounded t mem
  reached := by
    rw [tiers_concat]
    exact List.mem_append_left _ told.reached
  bounded := by
    intro t mem
    rw [tiers_concat] at mem
    rcases List.mem_append.mp mem with mem | mem
    · exact told.bounded t mem
    · rw [speaks.tiers t mem]
  agreed := by
    intro final is l' mem
    rcases List.mem_append.mp mem with mem | mem
    · exact told.agreed final is l' mem
    · cases List.mem_singleton.mp mem
      exact speaks.agrees final is

/-- The tier goes up with this label. -/
theorem Told.raised (told : Told g h) (open_ : g.settled = false)
    (le : g.tier.order ≤ g'.tier.order) (carried : carriedTiers l = [g'.tier])
    (agrees : ∀ final, g'.Final final → Agrees final l) : Told g' (h ++ [l]) where
  ascending := by
    rw [tiers_concat, carried, List.pairwise_append]
    refine ⟨told.ascending, List.pairwise_singleton _ _, ?_⟩
    intro t mem t' mem'
    rw [List.mem_singleton.mp mem']
    exact (told.bounded t mem).trans le
  reached := by simp [carried]
  bounded := by
    intro t mem
    rw [tiers_concat, carried] at mem
    rcases List.mem_append.mp mem with mem | mem
    · exact (told.bounded t mem).trans le
    · rw [List.mem_singleton.mp mem]
  agreed := by
    intro final is l' mem
    rcases List.mem_append.mp mem with mem | mem
    · exact told.agreed final (by simp [Stage.Final, open_]) l' mem
    · cases List.mem_singleton.mp mem
      exact agrees final is

theorem speaks_event {event : EventRecorded} (silent : statedTiers event.payload = []) :
    Speaks g (.call (.recordEvent event)) where
  tiers := by
    intro t mem
    rw [show carriedTiers (.call (.recordEvent event)) = [] from silent] at mem
    cases mem
  agrees := by
    intro final _
    show PayloadAgrees final event.payload
    cases stated : event.payload with
    | riskTierFinal | gateReached | externalEffect => rw [stated] at silent; cases silent
    | _ => trivial

theorem speaks_reply {op : FlowOp} {r : FlowRep op}
    (other : ∀ nodeId activityId state, op ≠ .runNode nodeId activityId state) :
    Speaks g (.reply op r) := by
  cases op with
  | runNode => exact absurd rfl (other _ _ _)
  | _ => exact ⟨fun _ mem => (by cases mem), fun _ _ => trivial⟩

theorem speaks_node {nodeId activityId : String} {state : FlowState} (bears : Bears g state)
    (released : nodeId = "release" → g.settled = true) :
    Speaks g (.call (.runNode nodeId activityId state)) where
  tiers := by
    intro t mem
    rw [List.mem_singleton.mp mem, bears.tier]
  agrees := by
    intro final is
    refine ⟨fun release => ?_, fun a mem => ?_⟩
    · rw [is (released release), bears.tier]
    · obtain ⟨settled, tier⟩ := bears.approvals a mem
      rw [is settled, tier]

theorem speaks_returned {nodeId activityId : String} {state result : FlowState}
    (bears : Bears g result) :
    Speaks g (.reply (.runNode nodeId activityId state) (.ok result)) where
  tiers := by
    intro t mem
    rw [List.mem_singleton.mp mem, bears.tier]
  agrees := by
    intro final is result' same a mem
    cases same
    obtain ⟨settled, tier⟩ := bears.approvals a mem
    rw [is settled, tier]

theorem speaks_failed {nodeId activityId : String} {state : FlowState} {e : PyError} :
    Speaks g (.reply (.runNode nodeId activityId state) (.error e)) :=
  ⟨fun _ mem => (by cases mem), fun _ _ _ absurd => by cases absurd⟩

/-- What keeps the tier and the approvals keeps the stage. -/
theorem Bears.tiered {state state' : FlowState} (bears : Bears g state)
    (same : tiered state' = tiered state) : Bears g state' where
  tier := (congrArg Prod.fst same).trans bears.tier
  approvals := by
    rw [show state'.approvals = state.approvals from congrArg Prod.snd same]
    exact bears.approvals

theorem Bears.brief {state : FlowState} (bears : Bears g state) :
    Bears g (verifierBrief state) :=
  ⟨bears.tier, fun _ mem => by cases mem⟩

/-! ## What moves beside the main line -/

variable {W Lbl : Type} {adapters : Adapters W Lbl} {worker : Worker} {first : FlowState}
  {s s' : DeliveryFlow} {w w' : FlowWorld W}

theorem Borne.concat (borne : Borne first g s w h) (speaks : Speaks g l) :
    Borne first g s w (h ++ [l]) :=
  ⟨borne.told.concat speaks, borne.latest, borne.idle, borne.pool⟩

theorem Borne.staffed (borne : Borne first g s w h) : Staffed s w := by
  obtain ⟨brief, ran, manned⟩ := borne.pool
  exact ⟨brief, ran, manned.placed⟩

/-- While a verifier waits, the tier is settled. -/
theorem Borne.settled (borne : Borne first g s w h) {i : Nat} {v : String}
    {slot : Slot DeliveryFlow FlowOp FlowRep FlowExc Obj}
    (found : w.pool.slots[i]? = some (v, slot)) : g.settled ≠ false := by
  intro is
  rw [borne.idle is] at found
  cases found

/-- No verifier is Triage. -/
theorem ne_triage_of_verifier {v : String} (verifier : v ∈ verifierIds) : v ≠ "triage" := by
  rintro rfl
  revert verifier
  decide

/-- One verifier comes to another place, and the others stay where they were. -/
theorem Manned.settle {brief : FlowState} {ran ran' : List Execution} {i : Nat} {v : String}
    {slot slot' : Slot DeliveryFlow FlowOp FlowRep FlowExc Obj}
    (manned : Manned g brief ran s w) (found : w.pool.slots[i]? = some (v, slot))
    (now : w'.pool = w.pool.settle i v slot') (returned : ∀ x ∈ ran', Bears g x.returned)
    (sub : ran ⊆ ran') (le : s.seq ≤ s'.seq) (here : Placed brief ran' s'.seq (v, slot')) :
    Manned g brief ran' s' w' where
  bears := manned.bears
  returned := returned
  names := by
    rw [now, names_settle slot' found]
    exact manned.names
  placed := by
    rw [now]
    exact placed_settle manned.placed sub le here

theorem Borne.moved {m : FlowMove} (borne : Borne first g s w h)
    (move : (system adapters worker).env s w m s' w') :
    Borne first g s' w' (h ++ [.env m]) := by
  have beside := borne.staffed.moves move
  obtain ⟨brief, ran, manned⟩ := borne.pool
  cases beside with
  | signal a =>
      exact ⟨borne.told.concat ⟨fun _ mem => (by cases mem), fun _ _ => trivial⟩,
        borne.latest, borne.idle, brief, ran, manned.bears, manned.returned, manned.names,
        manned.placed⟩
  | @returned i v act given result a k attempts found executes =>
      have mem := List.mem_of_getElem? found
      cases manned.placed _ mem with
      | asked =>
          have verifier : v ∈ verifierIds := manned.names (List.mem_map_of_mem mem)
          have after : Bears g result :=
            manned.bears.tiered (executes_tiered executes (ne_triage_of_verifier verifier))
          refine ⟨borne.told.concat ⟨?_, fun _ _ => trivial⟩, after,
            fun is => absurd is (borne.settled found), brief, ⟨v, brief, result⟩ :: ran,
            manned.settle found rfl ?_ (List.subset_cons_self _ _) le_rfl
              (.returned List.mem_cons_self)⟩
          · intro t mem
            rw [List.mem_singleton.mp mem, after.tier]
          · intro x mem
            rcases List.mem_cons.mp mem with rfl | mem
            · exact after
            · exact manned.returned x mem
  | failed found =>
      exact ⟨borne.told.concat ⟨fun _ mem => (by cases mem), fun _ _ => trivial⟩, borne.latest,
        fun is => absurd is (borne.settled found), brief, ran, manned.settle found rfl manned.returned
          (List.Subset.refl _) (Nat.le_succ _) (.failing rfl le_rfl)⟩
  | noted found kind =>
      exact ⟨borne.told.concat ⟨fun _ mem => (by cases mem), fun _ _ => trivial⟩, borne.latest,
        fun is => absurd is (borne.settled found), brief, ran, manned.settle found rfl
          manned.returned (List.Subset.refl _) le_rfl .failed⟩

/-- What a calm call leaves. -/
theorem Borne.served {op : FlowOp} {r : FlowRep op} (borne : Borne first g s w h)
    (starts : ∀ brief, op ≠ .startVerifiers brief)
    (served : (system adapters worker).serve s w op r s' w') (speaks : Speaks g (.reply op r)) :
    Borne first g s' w' (h ++ [.reply op r]) := by
  obtain ⟨rfl, pool⟩ := serves_calm served starts
  obtain ⟨brief, ran, manned⟩ := borne.pool
  exact ⟨borne.told.concat speaks, borne.latest, fun is => pool.trans (borne.idle is), brief, ran,
    manned.bears, manned.returned, pool ▸ manned.names, pool ▸ manned.placed⟩

/-- The flow's own fields come and go. -/
theorem Borne.relatest (borne : Borne first g s w h)
    (latest : Bears g (s'.latest.elim first Obj.val)) (seq : s.seq ≤ s'.seq) :
    Borne first g s' w h := by
  obtain ⟨brief, ran, manned⟩ := borne.pool
  exact ⟨borne.told, latest, borne.idle, brief, ran, manned.bears, manned.returned,
    manned.names, fun entry mem => (manned.placed entry mem).mono (List.Subset.refl _) seq⟩

theorem Borne.mutated {obj : Obj} (borne : Borne first g s w h) (bears : Bears g obj.val) :
    Borne first g (seen obj s) w h := by
  refine borne.relatest ?_ le_rfl
  have latest := borne.latest
  unfold seen
  cases known : s.latest with
  | none =>
      rw [known] at latest
      exact latest
  | some old =>
      rw [known] at latest
      simp only [Option.map_some, Option.elim_some]
      split
      · exact bears
      · exact latest

/-! ## Stretches that keep the stage -/

variable {α β : Type} {obj : Obj} {state : FlowState}

/-- The run is at some stage. -/
def Tracked (first : FlowState) : Assertion DeliveryFlow (FlowWorld W) FlowOp FlowRep FlowMove :=
  fun s w h => ∃ g, Borne first g s w h

/-- `t` keeps the stage, and what it returns is as `R` says. -/
def Stays (adapters : Adapters W Lbl) (worker : Worker) (first : FlowState) (g : Stage)
    (t : Flow α) (R : α → Prop) : Prop :=
  ∀ s w h, Borne first g s w h → t.wp (system adapters worker) (Tracked first)
    (fun r s w h => Borne first g s w h ∧ ∀ a, r = .ok a → R a) s w h

variable {R : α → Prop} {R' : β → Prop}

theorem stays_pure {a : α} (holds : R a) : Stays adapters worker first g (pure a) R := by
  intro s w h borne
  refine ⟨borne, fun a' same => ?_⟩
  cases same
  exact holds

theorem stays_raise {e : FlowExc} : Stays adapters worker first g (Task.raise e) R :=
  fun _ _ _ borne => ⟨borne, fun _ absurd => by cases absurd⟩

theorem stays_bind {t : Flow α} {f : α → Flow β} (ht : Stays adapters worker first g t R)
    (hf : ∀ a, R a → Stays adapters worker first g (f a) R') :
    Stays adapters worker first g (t >>= f) R' := by
  intro s w h borne
  refine Task.wp_bind.mpr (Task.wp_mono (ht s w h borne) ?_)
  intro r s w h held
  cases r with
  | ok a => exact hf a (held.2 a rfl) s w h held.1
  | error e => exact ⟨held.1, fun _ absurd => by cases absurd⟩

theorem stays_update {f : DeliveryFlow → DeliveryFlow}
    (kept : ∀ {s w h}, Borne first g s w h → Borne first g (f s) (w : FlowWorld W) h) :
    Stays adapters worker first g (Task.update f) fun _ => True :=
  fun _ _ _ borne => ⟨kept borne, fun _ _ => trivial⟩

theorem stays_read {R : DeliveryFlow → Prop}
    (holds : ∀ {s w h}, Borne first g s (w : FlowWorld W) h → R s) :
    Stays adapters worker first g (Task.read) R := by
  intro s w h borne
  refine ⟨borne, fun s' same => ?_⟩
  cases same
  exact holds borne

theorem stays_call {op : FlowOp} {R : FlowRep op → Prop}
    (starts : ∀ brief, op ≠ .startVerifiers brief) (speaks : Speaks g (.call op))
    (answered : ∀ {s w h r s' w'}, Borne first g s w h →
      (system adapters worker).serve s w op r s' w' → Speaks g (.reply op r) ∧ R r) :
    Stays adapters worker first g (Task.call op) R := by
  intro s w h borne
  refine Task.wp_call.mpr fun s' w' h' drift => ?_
  have out : Borne first g s' w' h' := Task.keeps_drift (P := Borne first g)
    (fun borne move => borne.moved move) (borne.concat speaks) drift
  refine ⟨⟨g, out⟩, fun r s'' w'' served => ?_⟩
  obtain ⟨replied, holds⟩ := answered out served
  refine ⟨out.served starts served replied, fun a same => ?_⟩
  cases same
  exact holds

/-- A call that has nothing to do with the tier. -/
theorem stays_plain {op : FlowOp} (speaks : Speaks g (.call op))
    (starts : ∀ brief, op ≠ .startVerifiers brief)
    (node : ∀ nodeId activityId state, op ≠ .runNode nodeId activityId state) :
    Stays adapters worker first g (Task.call op) fun _ => True :=
  stays_call starts speaks fun _ _ => ⟨speaks_reply node, trivial⟩

theorem stays_event {kind : String} {payload : Payload} {nodeId mode : Option String}
    (speaks : ∀ seq, Speaks g (.call (.recordEvent ⟨seq, kind, nodeId, payload, mode⟩))) :
    Stays adapters worker first g (emit kind payload nodeId mode) fun _ => True :=
  stays_bind (stays_update fun borne => borne.relatest borne.latest (Nat.le_succ _)) fun _ _ =>
    stays_bind (stays_read (R := fun _ => True) fun _ => trivial) fun flow _ =>
    stays_plain (speaks flow.seq) (by simp) (by simp)

theorem stays_emit {kind : String} {payload : Payload} {nodeId mode : Option String}
    (silent : statedTiers payload = []) :
    Stays adapters worker first g (emit kind payload nodeId mode) fun _ => True :=
  stays_event fun _ => speaks_event silent

theorem stays_mutate {f : FlowState → FlowState} (bears : Bears g (f obj.val)) :
    Stays adapters worker first g (mutate obj f) fun obj => Bears g obj.val :=
  stays_bind (stays_update fun borne => borne.mutated bears) fun _ _ => stays_pure bears

theorem stays_publish (bears : Bears g state) :
    Stays adapters worker first g (publish state) fun obj => Bears g obj.val :=
  stays_bind (stays_read (R := fun _ => True) fun _ => trivial) fun _ _ =>
    stays_bind (stays_update fun borne => borne.relatest bears le_rfl) fun _ _ =>
    stays_pure bears

def Returned (g : Stage) (reply : Except PyError FlowState) : Prop :=
  ∀ result, reply = .ok result → Bears g result

theorem stays_outcome {nodeId : String} {record : Bool} {reply : Except PyError FlowState}
    (returned : Returned g reply) : Stays adapters worker first g
      (nodeOutcome nodeId record reply) fun obj => Bears g obj.val := by
  cases reply with
  | error exc => exact stays_bind (stays_emit rfl) fun _ _ => stays_raise
  | ok result =>
      refine stays_bind (stays_publish (returned result rfl)) fun obj published => ?_
      split
      · exact stays_bind (stays_emit rfl) fun _ _ => stays_mutate (published.tiered rfl)
      · exact stays_pure published

theorem stays_execute {nodeId : String} (other : nodeId ≠ "triage") (bears : Bears g state)
    (released : nodeId = "release" → g.settled = true) :
    Stays adapters worker first g (execute nodeId state) (Returned g) := by
  refine stays_bind (stays_read (R := fun _ => True) fun _ => trivial) fun flow _ =>
    stays_call (by simp) (speaks_node bears released) ?_
  intro s w h reply s' w' _ served
  cases served with
  | runNode executes =>
      cases reply with
      | error e => exact ⟨speaks_failed, fun _ absurd => by cases absurd⟩
      | ok result =>
          have after := bears.tiered (executes_tiered executes other)
          refine ⟨speaks_returned after, fun result' same => ?_⟩
          cases same
          exact after

/-- Every node but Triage keeps the stage. -/
theorem stays_node {nodeId : String} (other : nodeId ≠ "triage") (bears : Bears g state)
    (released : nodeId = "release" → g.settled = true) :
    Stays adapters worker first g (nodeStep nodeId state) fun obj => Bears g obj.val :=
  stays_bind (stays_update fun borne => borne.relatest borne.latest le_rfl) fun _ _ =>
    stays_bind (stays_emit rfl) fun _ _ => stays_bind (stays_execute other bears released)
    fun _ returned => stays_outcome returned

theorem stays_pass {attempt : Nat} (bears : Bears g obj.val) :
    Stays adapters worker first g (pass attempt obj) fun obj => Bears g obj.val := by
  refine stays_bind (stays_mutate (bears.tiered rfl)) fun obj bears =>
    stays_bind (stays_node (by simp) bears (by simp)) fun coded bears =>
    stays_bind (stays_node (by simp) bears (by simp)) fun pushed bears =>
    stays_bind (stays_emit rfl) fun _ _ =>
    stays_bind (stays_plain ⟨fun _ mem => (by cases mem), fun _ _ => trivial⟩ (by simp)
      (by simp)) fun _ _ =>
    stays_bind (stays_node (by simp) bears (by simp)) fun built bears => ?_
  split
  · exact stays_pure bears
  · exact stays_bind (stays_emit rfl) fun _ _ => stays_pure bears

theorem stays_cycle {attempts : List Nat} (bears : Bears g obj.val) :
    Stays adapters worker first g (cycle attempts obj) fun obj => Bears g obj.val := by
  induction attempts generalizing obj with
  | nil => exact stays_raise
  | cons attempt rest ih =>
      refine stays_bind (stays_pass bears) fun obj bears => ?_
      split
      · exact stays_pure bears
      · exact ih bears

theorem stays_report_isolation :
    Stays adapters worker first g (reportIsolation state) fun _ => True := by
  unfold reportIsolation
  split
  · exact stays_pure trivial
  · exact stays_emit rfl

theorem stays_collect {results : List (String × Obj)} (bears : Bears g obj.val)
    (each : ∀ result ∈ results, Bears g result.2.val) :
    Stays adapters worker first g (collect results obj) fun obj => Bears g obj.val := by
  induction results generalizing obj with
  | nil => exact stays_pure bears
  | cons result rest ih =>
      obtain ⟨here, there⟩ := List.forall_mem_cons.mp each
      refine stays_bind (stays_mutate (bears.tiered rfl)) fun obj bears => ?_
      dsimp only
      split
      · exact stays_bind (stays_emit rfl) fun _ _ =>
          stays_bind (stays_mutate (here.tiered rfl)) fun _ _ => ih bears there
      · exact stays_bind (stays_mutate (here.tiered rfl)) fun _ _ => ih bears there

theorem stays_judge {params : FlowInput} (bears : Bears g obj.val) :
    Stays adapters worker first g (judge params obj) fun obj => Bears g obj.val := by
  refine stays_bind (stays_mutate (bears.tiered rfl)) fun obj bears => ?_
  dsimp only
  split
  · refine stays_bind (stays_emit rfl) fun _ _ => ?_
    split
    · exact stays_bind (R := fun _ => True) stays_raise fun _ _ => stays_pure bears
    · exact stays_pure bears
  · split
    · exact stays_bind (R := fun _ => True) stays_raise fun _ _ => stays_pure bears
    · exact stays_pure bears

/-! ## The fan-out -/

theorem stays_start {brief : FlowState} (settled : g.settled = true) (bears : Bears g brief) :
    Stays adapters worker first g (Task.call (.startVerifiers brief)) fun _ => True := by
  intro s w h borne
  have speaks : Speaks g (.call (.startVerifiers brief)) := by
    refine ⟨fun t mem => ?_, fun _ _ => trivial⟩
    rw [List.mem_singleton.mp mem, bears.tier]
  refine Task.wp_call.mpr fun s' w' h' drift => ?_
  have out : Borne first g s' w' h' := Task.keeps_drift (P := Borne first g)
    (fun borne move => borne.moved move) (borne.concat speaks) drift
  refine ⟨⟨g, out⟩, fun r s'' w'' served => ?_⟩
  cases served
  obtain ⟨-, -, names, placed⟩ := startSlots_branch brief verifierIds s'
  refine ⟨⟨out.told.concat (speaks_reply (by simp)), ?_, ?_, brief, [], bears, ?_, ?_, placed _⟩,
    fun _ _ => trivial⟩
  · rw [show (Pool.start (branch brief) verifierIds s').1.latest = s'.latest from
      startSlots_latest brief verifierIds s']
    exact out.latest
  · intro is
    rw [settled] at is
    cases is
  · intro x mem
    cases mem
  · rw [show (Pool.start (branch brief) verifierIds s').2.slots.map Prod.fst = verifierIds from names]
    exact List.Subset.refl _

/-- The results of a fan-out are of its stage. -/
theorem stays_gather : Stays adapters worker first g (Task.call FlowOp.gatherVerifiers)
    fun (reply : Except FlowExc (List Obj)) =>
      ∀ objs, reply = .ok objs → ∀ obj ∈ objs, Bears g obj.val := by
  refine stays_call (by simp) ⟨fun _ mem => (by cases mem), fun _ _ => trivial⟩ ?_
  intro s w h reply s' w' borne served
  refine ⟨speaks_reply (by simp), fun objs same obj mem => ?_⟩
  subst same
  obtain ⟨brief, ran, manned⟩ := borne.pool
  cases served with
  | gatherVerifiers joins =>
      have finished : List.Forall₂ (fun entry obj => entry.2 = .finished (.ok obj))
          w.pool.slots objs := Pool.results_forall₂ joins
      have both := (List.forall₂_and_left _ _).mpr ⟨manned.placed, finished⟩
      have each : List.Forall₂ (fun _ obj => Bears g obj.val) w.pool.slots objs := by
        refine both.imp ?_
        rintro ⟨v, slot⟩ obj ⟨stands, done⟩
        cases done
        cases stands with
        | returned ran => exact manned.returned _ ran
      clear both finished joins
      generalize w.pool.slots = slots at each
      induction each with
      | nil => cases mem
      | cons here _ ih =>
          rcases List.mem_cons.mp mem with rfl | mem
          · exact here
          · exact ih mem

theorem stays_verify (settled : g.settled = true) (bears : Bears g obj.val) :
    Stays adapters worker first g (verify obj) fun obj => Bears g obj.val := by
  refine stays_bind (stays_emit rfl) fun _ _ =>
    stays_bind (stays_start settled bears.brief) fun _ _ =>
    stays_bind stays_gather fun gathered each => ?_
  refine stays_bind (R := fun results => ∀ obj ∈ results, Bears g obj.val) ?_
    fun results each => ?_
  · intro s w h borne
    exact ⟨borne, fun objs same => each objs same⟩
  · have zipped : ∀ result ∈ verifierIds.zip results, Bears g result.2.val :=
      fun result mem => each _ (List.of_mem_zip mem).2
    exact stays_bind (stays_mutate (bears.tiered rfl)) fun obj bears =>
      stays_bind (stays_collect bears zipped) fun obj bears =>
      stays_bind (stays_emit rfl) fun _ _ =>
      stays_bind (stays_update fun borne => borne.relatest bears le_rfl) fun _ _ =>
      stays_pure bears

/-! ## The gate and Release -/

variable {tier : RiskTier}

theorem stays_publish_preview :
    Stays adapters worker first g (publishPreview state) fun _ => True := by
  unfold publishPreview
  split
  · exact stays_pure trivial
  · refine stays_bind (stays_plain ⟨fun _ mem => (by cases mem), fun _ _ => trivial⟩ (by simp)
      (by simp)) fun preview _ => ?_
    split
    · exact stays_emit rfl
    · exact stays_pure trivial

theorem stays_suspend (bears : Bears ⟨tier, true⟩ state) :
    Stays adapters worker first ⟨tier, true⟩ (suspend (requiredApprovals state.riskTier) state)
      fun _ => True := by
  have status : ∀ status, Stays adapters worker first ⟨tier, true⟩ (setStatus status)
      fun _ => True := fun status =>
    stays_plain ⟨fun _ mem => (by cases mem), fun _ _ => trivial⟩ (by simp) (by simp)
  refine stays_bind (stays_update fun borne => borne.relatest borne.latest le_rfl) fun _ _ =>
    stays_bind (status _) fun _ _ => stays_bind (R := fun _ => True)
    (stays_plain ⟨?_, ?_⟩ (by simp) (by simp)) fun notified _ => ?_
  · intro t mem
    rw [List.mem_singleton.mp mem]
    exact bears.tier
  · intro final is
    rw [is rfl]
    exact ⟨bears.tier, congrArg requiredApprovals bears.tier⟩
  cases notified with
  | error exc => exact stays_raise
  | ok _ =>
      refine stays_bind (stays_plain ⟨fun _ mem => (by cases mem), ?_⟩ (by simp) (by simp))
        fun _ _ => stays_bind (stays_update fun borne => borne.relatest borne.latest le_rfl)
        fun _ _ => stays_bind (status _) fun _ _ =>
        stays_bind (stays_read (R := fun _ => True) fun _ => trivial) fun _ _ =>
        stays_pure trivial
      intro final is
      rw [is rfl]
      exact congrArg requiredApprovals bears.tier

theorem stays_count {signals : List ApprovalSignal} (bears : Bears ⟨tier, true⟩ obj.val) :
    Stays adapters worker first ⟨tier, true⟩ (count signals obj)
      fun obj => Bears ⟨tier, true⟩ obj.val := by
  refine stays_bind (stays_mutate ⟨bears.tier, ?_⟩) fun obj bears => ?_
  · intro a mem
    obtain ⟨signal, _, rfl⟩ := List.mem_map.mp mem
    exact ⟨rfl, bears.tier⟩
  · split
    · exact stays_bind (stays_emit rfl) fun _ _ => stays_raise
    · exact stays_bind (stays_emit rfl) fun _ _ => stays_pure bears

theorem stays_gate (bears : Bears ⟨tier, true⟩ obj.val) :
    Stays adapters worker first ⟨tier, true⟩ (gate obj) fun obj => Bears ⟨tier, true⟩ obj.val := by
  refine stays_bind stays_publish_preview fun _ _ =>
    stays_bind (stays_event fun seq => ⟨?_, ?_⟩) fun _ _ => ?_
  · intro t mem
    rw [List.mem_singleton.mp mem]
    exact bears.tier
  · intro final is
    rw [is rfl]
    exact ⟨bears.tier, congrArg requiredApprovals bears.tier⟩
  · split
    · exact stays_bind (stays_emit rfl) fun _ _ => stays_pure bears
    · exact stays_bind (stays_suspend bears) fun _ _ => stays_count bears

theorem stays_report_effect (bears : Bears ⟨tier, true⟩ state) :
    Stays adapters worker first ⟨tier, true⟩ (reportEffect state) fun _ => True := by
  unfold reportEffect
  split
  · exact stays_pure trivial
  · refine stays_event fun seq => ⟨?_, ?_⟩
    · intro t mem
      rw [List.mem_singleton.mp mem]
      exact bears.tier
    · intro final is
      rw [is rfl]
      exact bears.tier

/-! ## How a run ends -/

theorem stays_finish : Stays adapters worker first g finish fun _ => True :=
  stays_bind (stays_read (R := fun _ => True) fun _ => trivial) fun flow _ =>
    stays_bind (stays_emit rfl) fun _ _ =>
    stays_bind (stays_read (R := fun _ => True) fun _ => trivial) fun _ _ =>
    stays_plain ⟨fun _ mem => (by cases mem), fun _ _ => trivial⟩ (by simp) (by simp)

theorem stays_conclude {params : FlowInput} (bears : Bears g obj.val) :
    Stays adapters worker first g (conclude params obj)
      fun result => result.riskTier = g.tier :=
  stays_bind (stays_node (by simp) bears (by simp)) fun obj bears =>
    stays_bind stays_finish fun _ _ =>
    stays_bind (stays_read (R := fun _ => True) fun _ => trivial) fun _ _ =>
    stays_pure bears.tier

/-- Compensation is handed a state of the stage that the run had come to. -/
theorem stays_doomed (begins : obj.val = first) :
    Stays adapters worker first g (doomed obj) fun obj => Bears g obj.val := by
  refine stays_bind (stays_read (R := fun flow => Bears g (flow.latest.getD obj).val) ?_)
    fun flow bears => stays_pure bears
  intro s w h borne
  have latest := borne.latest
  cases known : s.latest with
  | none =>
      rw [known] at latest
      rw [Option.getD_none, begins]
      exact latest
  | some lost =>
      rw [known] at latest
      exact latest

theorem stays_emit_cleanup :
    Stays adapters worker first g (emitCleanup state) fun _ => True := by
  unfold emitCleanup
  split
  · exact stays_pure trivial
  · exact stays_emit rfl

theorem stays_ending {params : FlowInput} (begins : obj.val = first)
    {outcome : Except FlowExc Obj} (bears : ∀ obj, outcome = .ok obj → Bears g obj.val) :
    Stays adapters worker first g (ending params obj outcome)
      fun result => result.riskTier = g.tier := by
  have written : ∀ status, Stays adapters worker first g
      (Task.update fun flow => { flow with status := status }) fun _ => True :=
    fun status => stays_update fun borne => borne.relatest borne.latest le_rfl
  rcases outcome with (⟨reason, falsifiedBy⟩ | ⟨error, message⟩) | obj
  · exact stays_bind (stays_emit rfl) fun _ _ => stays_bind (stays_doomed begins)
      fun lost bears => stays_bind (stays_mutate (bears.tiered rfl)) fun lost bears =>
      stays_bind (stays_node (by simp) bears (by simp)) fun _ bears =>
      stays_bind stays_emit_cleanup fun _ _ => stays_bind (written _) fun _ _ =>
      stays_conclude bears
  · exact stays_bind (stays_emit rfl) fun _ _ => stays_bind (stays_doomed begins)
      fun lost bears => stays_bind (stays_node (by simp) bears (by simp)) fun _ bears =>
      stays_bind stays_emit_cleanup fun _ _ => stays_bind (written _) fun _ _ =>
      stays_bind (stays_node (by simp) bears (by simp)) fun _ _ =>
      stays_bind stays_finish fun _ _ => stays_raise
  · exact stays_bind (written _) fun _ _ => stays_conclude (bears obj rfl)

/-! ## Where the tier is raised -/

/-- The run is at a stage, and what was returned is of it. -/
def Carrying (first : FlowState) (settled : Bool) (r : Except FlowExc Obj) :
    Assertion DeliveryFlow (FlowWorld W) FlowOp FlowRep FlowMove :=
  fun s w h => ∃ tier, Borne first ⟨tier, settled⟩ s w h ∧
    ∀ obj, r = .ok obj → Bears ⟨tier, settled⟩ obj.val

/-- A stage that is reached while no verifier has started. -/
theorem Borne.began (told : Told g h) (latest : Bears g (s.latest.elim first Obj.val))
    (empty : w.pool = .empty) : Borne first g s w h where
  told := told
  latest := latest
  idle _ := empty
  pool := by
    refine ⟨_, [], latest, fun x mem => (by cases mem), ?_, ?_⟩
    · rw [empty]
      exact List.nil_subset _
    · intro entry mem
      rw [empty] at mem
      cases mem

theorem triage_carries (borne : Borne first ⟨tier, false⟩ s w h)
    (bears : Bears ⟨tier, false⟩ state) :
    (nodeStep "triage" state).wp (system adapters worker) (Tracked first)
      (Carrying first false) s w h := by
  have untouched : state.approvals = [] :=
    List.eq_nil_iff_forall_not_mem.mpr fun a mem => by cases (bears.approvals a mem).1
  refine Task.wp_bind.mpr ((Task.wp_update _).mpr ?_)
  refine Task.wp_bind.mpr (Task.wp_mono (stays_emit rfl _ _ _
    (borne.relatest borne.latest le_rfl)) ?_)
  rintro (e | _) s₁ w₁ h₁ ⟨borne₁, _⟩
  · exact ⟨tier, borne₁, fun _ absurd => by cases absurd⟩
  refine Task.wp_bind.mpr (Task.wp_bind.mpr (Task.wp_read.mpr (Task.wp_call.mpr
    fun s₂ w₂ h₂ drift => ?_)))
  have out : Borne first ⟨tier, false⟩ s₂ w₂ h₂ := Task.keeps_drift
    (P := Borne first ⟨tier, false⟩) (fun borne move => borne.moved move)
    (borne₁.concat (speaks_node bears (by simp))) drift
  refine ⟨⟨_, out⟩, fun reply s₃ w₃ served => ?_⟩
  cases reply with
  | error exc =>
      refine Task.wp_mono (stays_outcome (fun _ absurd => by cases absurd) _ _ _
        (out.served (by simp) served speaks_failed)) ?_
      exact fun r s w h held => ⟨tier, held⟩
  | ok result =>
      cases served with
      | runNode executes =>
          obtain ⟨raised, same⟩ := executes_triage executes
          have now : Bears ⟨result.riskTier, false⟩ result := by
            refine ⟨rfl, fun a mem => ?_⟩
            rw [same, untouched] at mem
            cases mem
          refine publish_bind ?_
          rw [if_pos rfl]
          refine Task.wp_mono (stays_bind (stays_emit rfl) (fun _ _ =>
            stays_mutate (now.tiered rfl)) _ _ _ (Borne.began (out.told.raised rfl
              (bears.tier ▸ raised) rfl (speaks_returned now).agrees) ?_ (out.idle rfl)))
              fun r s w h held => ⟨_, held⟩
          exact now

theorem final_tier_raises {params : FlowInput} :
    state.riskTier.order ≤ (finalTier state params).1.order :=
  RiskTier.order_le_raise_to _ _

/-- Final tiering mutates the latest object, so whatever stops the run from there on is handed
the final tier. -/
theorem settle_tier_carries {params : FlowInput} (borne : Borne first ⟨tier, false⟩ s w h)
    (bears : Bears ⟨tier, false⟩ obj.val) (sole : Sole obj s w h) :
    (settleTier params obj).wp (system adapters worker) (Tracked first)
      (Carrying first true) s w h := by
  refine mutate_sole_bind sole fun obj' s₁ is sole₁ => ?_
  have now : Bears ⟨(finalTier obj.val params).1, true⟩ obj'.val := by
    rw [is]
    refine ⟨rfl, fun a mem => ?_⟩
    cases (bears.approvals a mem).1
  refine Task.wp_bind.mpr (emit_wp
    (fun _ => Borne first ⟨(finalTier obj.val params).1, true⟩) (fun borne move => borne.moved move)
    (Borne.began (borne.told.raised rfl (bears.tier ▸ final_tier_raises) rfl ?_) ?_
      (borne.idle rfl)) (fun _ s w h borne => ⟨_, borne⟩) ?_)
  · intro final is
    exact (is rfl).symm
  · show Bears _ (s₁.latest.elim first Obj.val)
    rw [sole₁.same]
    exact now
  · intro s w h borne
    refine ⟨_, borne.served (by simp) (Serves.recordEvent : Serves adapters worker _ _ _ _ _ _)
      (speaks_reply (by simp)), fun obj same => ?_⟩
    cases same
    exact now

/-! ## Whole runs -/

variable {params : FlowInput}

/-- What a delivery leaves: a stage, and a state of it if it returned one. -/
def Concludes (first : FlowState) (r : Except FlowExc Obj) :
    Assertion DeliveryFlow (FlowWorld W) FlowOp FlowRep FlowMove :=
  fun s w h => ∃ g, Borne first g s w h ∧ ∀ obj, r = .ok obj → Bears g obj.val

/-- From the fan-out on. -/
theorem stays_gated (bears : Bears ⟨tier, true⟩ obj.val) :
    Stays adapters worker first ⟨tier, true⟩ (do
      let obj ← verify obj
      let obj ← judge params obj
      let obj ← gate obj
      let obj ← nodeStep "release" obj.val
      reportEffect obj.val
      return obj) fun obj => Bears ⟨tier, true⟩ obj.val :=
  stays_bind (stays_verify rfl bears) fun _ bears =>
    stays_bind (stays_judge bears) fun _ bears => stays_bind (stays_gate bears) fun _ bears =>
    stays_bind (stays_node (by simp) bears fun _ => rfl) fun _ bears =>
    stays_bind (stays_report_effect bears) fun _ _ => stays_pure bears

theorem deliver_carries (borne : Borne first ⟨tier, false⟩ s w h)
    (bears : Bears ⟨tier, false⟩ obj.val) :
    (deliver params obj).wp (system adapters worker) (Tracked first) (Concludes first) s w h := by
  have stopped : ∀ {g e s w h}, Borne first g s (w : FlowWorld W) h →
      Concludes first (.error e) s w h :=
    fun borne => ⟨_, borne, fun _ absurd => by cases absurd⟩
  unfold deliver approach
  simp only [Task.bind_assoc]
  refine Task.wp_bind.mpr (Task.wp_mono (triage_carries borne bears) ?_)
  rintro (e | triaged) s₁ w₁ h₁ ⟨tier₁, borne₁, bears₁⟩
  · exact stopped borne₁
  refine Task.wp_bind.mpr (Task.wp_mono
    (stays_node (by simp) (bears₁ _ rfl) (by simp) _ _ _ borne₁) ?_)
  rintro (e | planned) s₂ w₂ h₂ ⟨borne₂, bears₂⟩
  · exact stopped borne₂
  have quiet : Quiet w₂.pool := borne₂.idle rfl ▸ quiet_empty
  -- The cycle keeps the stage, and returns the latest object.
  refine Task.wp_bind.mpr (Proc.wp_mono _ _ _ (Proc.wp_and _ _ _
    (stays_cycle (bears₂ _ rfl) _ _ _ borne₂) (cycle_sole quiet)) (fun _ _ _ held => held.1) ?_)
  rintro (e | built) s₃ w₃ h₃ ⟨⟨borne₃, bears₃⟩, sole⟩
  · exact stopped borne₃
  refine Task.wp_bind.mpr (Proc.wp_mono _ _ _ (Proc.wp_and _ _ _
    (stays_report_isolation _ _ _ borne₃) (report_isolation_latest (sole _ rfl)))
    (fun _ _ _ held => held.1) ?_)
  rintro (e | _) s₄ w₄ h₄ ⟨⟨borne₄, _⟩, sole⟩
  · exact stopped borne₄
  refine Task.wp_bind.mpr (Task.wp_mono (settle_tier_carries borne₄ (bears₃ _ rfl) sole) ?_)
  rintro (e | settled) s₅ w₅ h₅ ⟨final, borne₅, bears₅⟩
  · exact stopped borne₅
  exact Task.wp_mono (stays_gated (bears₅ _ rfl) _ _ _ borne₅) fun r s w h held => ⟨_, held⟩

/-- What a run comes to. -/
def Concluded (first : FlowState) (r : Except FlowExc FlowResult) :
    Assertion DeliveryFlow (FlowWorld W) FlowOp FlowRep FlowMove :=
  fun s w h => ∃ g, Borne first g s w h ∧ ∀ result, r = .ok result → result.riskTier = g.tier

theorem run_carries (a : W) :
    (run params).wp (system adapters worker) (Tracked (initial params))
      (Concluded (initial params)) {} ⟨a, {}, .empty⟩ [] := by
  have bears : Bears ⟨params.provisionalRiskTier, false⟩ (initial params) :=
    ⟨rfl, fun a mem => by cases mem⟩
  have told : Told ⟨params.provisionalRiskTier, false⟩
      [.call (.recordRunStarted (started params))] := by
    refine ⟨List.pairwise_singleton _ _, List.mem_singleton_self _, fun t mem => ?_, ?_⟩
    · rw [List.mem_singleton.mp mem]
      rfl
    · intro final _ l mem
      rw [List.mem_singleton.mp mem]
      trivial
  refine Task.wp_bind.mpr (Task.wp_read.mpr (Task.wp_bind.mpr ((Task.wp_update _).mpr
    (Task.wp_bind.mpr (Task.wp_call.mpr fun s w h drift => ?_)))))
  have began : Borne (initial params) ⟨params.provisionalRiskTier, false⟩
      { ({} : DeliveryFlow) with fresh := 1 } ⟨a, {}, .empty⟩ _ := Borne.began told bears rfl
  have out := Task.keeps_drift
    (P := Borne (initial params) ⟨params.provisionalRiskTier, false⟩)
    (fun borne move => borne.moved move) began drift
  refine ⟨⟨_, out⟩, fun _ s' w' served => ?_⟩
  have started := out.served (by simp) served (speaks_reply (by simp))
  refine Task.wp_bind.mpr (Task.wp_attempt.mpr (Task.wp_mono (deliver_carries started bears) ?_))
  rintro outcome s w h ⟨g, borne, bears⟩
  have begins : (⟨({} : DeliveryFlow).fresh, initial params⟩ : Obj).val = initial params := rfl
  exact Task.wp_mono (stays_ending begins bears _ _ _ borne) fun r s w h held => ⟨g, held⟩

theorem borne_of_runs {a : W} {c : FlowConfig W} (run : Runs adapters worker params a c) :
    ∃ g, Borne (initial params) g c.proc.state c.world c.history ∧
      ∀ s result, c.proc = .done s (.ok result) → result.riskTier = g.tier := by
  have sound := wp_sound (run_carries a) run
  cases at_ : c.proc with
  | done s r =>
      rw [at_] at sound
      obtain ⟨g, borne, concluded⟩ := sound
      refine ⟨g, borne, fun s' result same => ?_⟩
      cases same
      exact concluded result rfl
  | await s op k =>
      rw [at_] at sound
      obtain ⟨g, borne⟩ := sound
      exact ⟨g, borne, fun _ _ absurd => by cases absurd⟩

/-- The state a run carries: the latest, or the one it began with. -/
def held (params : FlowInput) (c : FlowConfig W) : FlowState :=
  c.proc.state.latest.elim (initial params) Obj.val

/-- What a run has made of its tier. -/
structure TierKept (adapters : Adapters W Lbl) (worker : Worker) (params : FlowInput)
    (c : FlowConfig W) (final : RiskTier) : Prop where
  /-- No state that an activity was given or returned, nor any brief, event or notice, lowers
  the tier. -/
  ascending : (tiers c.history).Pairwise fun t t' => t.order ≤ t'.order
  highest : ∀ t ∈ tiers c.history, t.order ≤ (held params c).riskTier.order
  returned : ∀ s result, c.proc = .done s (.ok result) →
    result.riskTier = (held params c).riskTier
  /-- The events, the notice, the depth of the gate, the approvals and the state of Release are
  all of the final tier. -/
  agreed : ∀ l ∈ c.history, Agrees final l
  approvals : ∀ a ∈ (held params c).approvals, a.riskTier = final
  /-- Whichever attempt at Release merges, held the final tier against the ceiling. -/
  merges : ∀ {activityId state w}
    {d : Config FlowState W AdapterOp AdapterRep Lbl (Except PyError Unit)},
    .call (.runNode "release" activityId state) ∈ c.history →
    adapters.system.Reaches (.launch (runNode worker "release" state) w []) d →
    ∀ scm ref number commit, .call (.mergePullRequest scm ref number commit) ∈ d.history →
      ∃ config, .reply .resolveConfig (.ok config) ∈ d.history ∧
        final.order ≤ config.autoMerge.maxRiskTier.order

/-- `c` is any point of a run, and `c'` any later one. -/
theorem tier_kept {a : W} {c c' : FlowConfig W} (run : Runs adapters worker params a c)
    (more : (system adapters worker).Reaches c c') :
    (held params c).riskTier.order ≤ (held params c').riskTier.order ∧
      ∃ final, TierKept adapters worker params c' final := by
  obtain ⟨g, borne, -⟩ := borne_of_runs run
  obtain ⟨g', borne', concluded⟩ := borne_of_runs (run.trans more)
  have now : (held params c').riskTier = g'.tier := borne'.latest.tier
  have before : (held params c).riskTier ∈ tiers c'.history := by
    obtain ⟨later, grown⟩ := more.grows
    rw [show (held params c).riskTier = g.tier from borne.latest.tier, ← grown, tiers,
      List.flatMap_append]
    exact List.mem_append_left _ borne.told.reached
  have agreed := borne'.told.agreed g'.tier fun _ => rfl
  refine ⟨now ▸ borne'.told.bounded _ before, g'.tier, borne'.told.ascending, ?_, ?_, agreed, ?_, ?_⟩
  · rw [now]
    exact borne'.told.bounded
  · intro s result final
    rw [concluded s result final, now]
  · intro a mem
    exact (borne'.latest.approvals a mem).2
  · intro activityId state w d called attempt scm ref number commit merges
    have tier : state.riskTier = g'.tier := (agreed _ called).1 rfl
    have met : CallsMeet (Release.MayAsk state) d.history :=
      wp_invariant (release_node_asks state w) attempt
    obtain ⟨early, late, split⟩ := List.append_of_mem merges
    obtain ⟨config, resolved, policy, -⟩ := met early _ late split _ _ _ _ rfl
    refine ⟨config, ?_, tier ▸ policy.tier⟩
    rw [split]
    exact List.mem_append_left _ resolved

/-- A shop whose code may only change under two pairs of eyes. -/
def guardedParams : FlowInput := { shopParams with riskRules := { highPaths := ["*.py"] } }

def twoSignals : List ApprovalSignal := [⟨"ada", true, "d1", ""⟩, ⟨"bo", true, "d1", ""⟩]

/-- Where a run stands that is about to push its change, and where it ends. -/
def unpushed : FlowConfig Unit := obligingScript.run plainWorker twoSignals guardedParams () 11

def merged : FlowConfig Unit := (obligingScript.flow plainWorker twoSignals).play 100 unpushed

theorem tier_kept_obliged :
    (held guardedParams unpushed).riskTier = .low ∧
      (held guardedParams merged).riskTier = .high ∧
      (held guardedParams unpushed).riskTier.order ≤ (held guardedParams merged).riskTier.order ∧
      ∃ final, TierKept obliging plainWorker guardedParams merged final := by
  have plays : (held guardedParams unpushed).riskTier = .low ∧
      (held guardedParams merged).riskTier = .high := by decide +kernel
  exact ⟨plays.1, plays.2, tier_kept (obligingScript.run_runs plainWorker twoSignals
    guardedParams () 11) (Schedule.play_reaches _ _ _)⟩

end KuWarden.Flow
