import KuWarden.Activities.Spending
import KuWarden.Flows.Clearance
import KuWarden.Flows.Latest

/-!
What a run says it cost. The spend rides on the state from one execution to the next, and the
verifiers' are added to it after the fan-out; the end of the run reads the latest state.
-/
namespace KuWarden.Flow

open Process

/-- An execution was given a spend, and added `k` to it. -/
def Pays (x : Execution) (k : Option Int) : Prop :=
  x.returned.spendMicroCents = combine [x.given.spendMicroCents, k]

/-- `spend` is what the executions on record have added. -/
def Tallies (spend : Option Int) (h : FlowHistory) : Prop :=
  ∀ ks, List.Forall₂ Pays (executions h) ks → spend = combine ks

def spendOf (s : DeliveryFlow) : Option Int :=
  s.latest.elim (some 0) fun obj => obj.val.spendMicroCents

def Raised (h : FlowHistory) : Prop :=
  ∃ v nodeId activityId state e,
    .env (.verifier v (.reply (.runNode nodeId activityId state) (.error e))) ∈ h

def Unheard (h : FlowHistory) : Prop := ∀ x ∈ executions h, x.nodeId ∉ verifierIds

/-- No verifier has returned beside one that raised. -/
def Lossless (h : FlowHistory) : Prop := Raised h → Unheard h

def Uncosted (h : FlowHistory) : Prop :=
  ∀ event, .call (.recordEvent event) ∈ h → ∀ m r d, event.payload ≠ .runCost m r d

/-- The cost on record is what the executions have added. -/
def Costed (h : FlowHistory) : Prop :=
  ∀ event, .call (.recordEvent event) ∈ h → ∀ m r d, event.payload = .runCost m r d →
    Lossless h → Tallies m h

/-! ## Histories -/

variable {h h' : FlowHistory} {l : Label FlowOp FlowRep FlowMove} {spend : Option Int}

theorem Lossless.before (lossless : Lossless (h ++ h')) : Lossless h := by
  intro raised x mem
  obtain ⟨v, nodeId, activityId, state, e, failed⟩ := raised
  refine lossless ⟨v, nodeId, activityId, state, e, List.mem_append_left _ failed⟩ x ?_
  rw [executions_append]
  exact List.mem_append_left _ mem

theorem executions_quiet (quiet : executed l = none) : executions (h ++ [l]) = executions h := by
  rw [executions_append, executions_singleton, quiet, Option.toList_none, List.append_nil]

theorem Tallies.quiet (tallies : Tallies spend h) (quiet : executed l = none) :
    Tallies spend (h ++ [l]) := by
  intro ks explained
  rw [executions_quiet quiet] at explained
  exact tallies ks explained

theorem forall₂_concat {α β : Type} {R : α → β → Prop} {xs : List α} {x : α} {ks : List β}
    (all : List.Forall₂ R (xs ++ [x]) ks) :
    ∃ ks' k, ks = ks' ++ [k] ∧ List.Forall₂ R xs ks' ∧ R x k := by
  induction xs generalizing ks with
  | nil =>
      obtain ⟨k, rest, here, none, rfl⟩ := List.forall₂_cons_left_iff.mp all
      cases none
      exact ⟨[], k, rfl, .nil, here⟩
  | cons y xs ih =>
      obtain ⟨k, rest, here, there, rfl⟩ := List.forall₂_cons_left_iff.mp all
      obtain ⟨ks', k', rfl, before, last⟩ := ih there
      exact ⟨k :: ks', k', rfl, .cons here before, last⟩

theorem forall₂_exists {α β : Type} {R : α → β → Prop} {xs : List α}
    (each : ∀ x ∈ xs, ∃ y, R x y) : ∃ ys, List.Forall₂ R xs ys := by
  induction xs with
  | nil => exact ⟨[], .nil⟩
  | cons x xs ih =>
      obtain ⟨y, here⟩ := each x List.mem_cons_self
      obtain ⟨ys, there⟩ := ih fun x mem => each x (List.mem_cons_of_mem _ mem)
      exact ⟨y :: ys, .cons here there⟩

theorem exists_of_forall₂ {α β : Type} {R : α → β → Prop} {xs : List α} {ys : List β}
    (all : List.Forall₂ R xs ys) {x : α} (mem : x ∈ xs) : ∃ y ∈ ys, R x y := by
  induction all with
  | nil => cases mem
  | cons here _ ih =>
      rcases List.mem_cons.mp mem with rfl | mem
      · exact ⟨_, List.mem_cons_self, here⟩
      · obtain ⟨y, listed, there⟩ := ih mem
        exact ⟨y, List.mem_cons_of_mem _ listed, there⟩

theorem combine_concat (ks : List (Option Int)) (k : Option Int) :
    combine (ks ++ [k]) = combine [combine ks, k] := by
  rw [combine_append, combine_singleton]

/-- An execution that goes on from the tally adds to it. -/
theorem Tallies.paid {x : Execution} (tallies : Tallies x.given.spendMicroCents h)
    (ran : executed l = some x) : Tallies x.returned.spendMicroCents (h ++ [l]) := by
  intro ks explained
  rw [executions_append, executions_singleton, ran, Option.toList_some] at explained
  obtain ⟨before, k, rfl, earlier, pays⟩ := forall₂_concat explained
  rw [show x.returned.spendMicroCents = _ from pays, tallies before earlier, combine_concat]

theorem Uncosted.concat (uncosted : Uncosted h)
    (other : ∀ event, l = .call (.recordEvent event) → ∀ m r d, event.payload ≠ .runCost m r d) :
    Uncosted (h ++ [l]) := by
  intro event mem
  rcases List.mem_append.mp mem with mem | mem
  · exact uncosted event mem
  · exact other event (List.mem_singleton.mp mem).symm

theorem Uncosted.costed (uncosted : Uncosted h) : Costed h :=
  fun event mem m r d same => absurd same (uncosted event mem m r d)

theorem Raised.concat (raised : Raised h) : Raised (h ++ [l]) := by
  obtain ⟨v, nodeId, activityId, state, e, failed⟩ := raised
  exact ⟨v, nodeId, activityId, state, e, List.mem_append_left _ failed⟩

/-! ## While the cost is open -/

variable {W Lbl : Type} {adapters : Adapters W Lbl} {worker : Worker} {s s' : DeliveryFlow}
  {w w' : FlowWorld W} {obj : Obj} {state : FlowState} {α : Type}

/-- The verifiers are where they may stand; they are at rest, or one of them has raised. -/
structure Resting (s : DeliveryFlow) (w : FlowWorld W) (h : FlowHistory) : Prop where
  staffed : Staffed s w
  names : w.pool.slots.map Prod.fst ⊆ verifierIds
  still : Quiet w.pool ∨ Raised h

/-- `spend` is the tally, unless a verifier's result was lost. -/
structure Due (spend : Option Int) (s : DeliveryFlow) (w : FlowWorld W) (h : FlowHistory) :
    Prop where
  resting : Resting s w h
  uncosted : Uncosted h
  tallies : Lossless h → Tallies spend h

/-- The latest state carries the tally. -/
abbrev Afloat (s : DeliveryFlow) (w : FlowWorld W) (h : FlowHistory) : Prop :=
  Due (spendOf s) s w h

/-- So does the state in hand. -/
structure Paid (obj : Obj) (s : DeliveryFlow) (w : FlowWorld W) (h : FlowHistory) : Prop where
  afloat : Afloat s w h
  held : Lossless h → obj.val.spendMicroCents = spendOf s

/-- What moves beside the main line at rest: nothing that counts, or a verifier that returns
beside one that raised. -/
theorem Resting.moved {m : FlowMove} (resting : Resting s w h)
    (move : (system adapters worker).env s w m s' w') : Resting s' w' (h ++ [.env m]) ∧
      (¬ Lossless (h ++ [.env m]) ∨ executed (.env m) = none ∧ s'.latest = s.latest) := by
  have beside := resting.staffed.moves move
  have staffed := resting.staffed.moved beside
  have running : ∀ {i : Nat} {v : String} {op : FlowOp} {k : FlowRep op → DeliveryFlow →
      Proc DeliveryFlow FlowOp FlowRep (Except FlowExc Obj)},
      w.pool.slots[i]? = some (v, .running op k) → Raised h := by
    intro i v op k found
    rcases resting.still with quiet | raised
    · obtain ⟨_, finished⟩ := quiet _ (List.mem_of_getElem? found)
      cases finished
    · exact raised
  cases beside with
  | signal a =>
      exact ⟨⟨staffed, resting.names, resting.still.imp id Raised.concat⟩, .inr ⟨rfl, rfl⟩⟩
  | @returned i v act brief result a k attempts found executes =>
      have raised := (running found).concat (l := .env (.verifier v
        (.reply (.runNode v act brief) (.ok result))))
      have verifier : v ∈ verifierIds := resting.names
        (List.mem_map_of_mem (List.mem_of_getElem? found))
      refine ⟨⟨staffed, ?_, .inr raised⟩, .inl fun lossless => ?_⟩
      · exact (names_settle _ found).symm ▸ resting.names
      · refine lossless raised ⟨v, brief, result⟩ ?_ verifier
        rw [executions_append]
        exact List.mem_append_right _ List.mem_cons_self
  | failed found =>
      exact ⟨⟨staffed, (names_settle _ found).symm ▸ resting.names,
        .inr (running found).concat⟩, .inr ⟨rfl, rfl⟩⟩
  | noted found kind =>
      exact ⟨⟨staffed, (names_settle _ found).symm ▸ resting.names,
        .inr (running found).concat⟩, .inr ⟨rfl, rfl⟩⟩

theorem spendOf_same (same : s'.latest = s.latest) : spendOf s' = spendOf s := by
  unfold spendOf
  rw [same]

theorem Paid.moved {m : FlowMove} (paid : Paid obj s w h)
    (move : (system adapters worker).env s w m s' w') : Paid obj s' w' (h ++ [.env m]) := by
  obtain ⟨resting, lost | ⟨quiet, same⟩⟩ := paid.afloat.resting.moved move
  · exact ⟨⟨resting, paid.afloat.uncosted.concat (by simp), fun is => absurd is lost⟩,
      fun is => absurd is lost⟩
  · refine ⟨⟨resting, paid.afloat.uncosted.concat (by simp), fun is => ?_⟩, fun is => ?_⟩
    · rw [spendOf_same same]
      exact (paid.afloat.tallies is.before).quiet quiet
    · rw [spendOf_same same]
      exact paid.held is.before

theorem Resting.kept (resting : Resting s w h) (seq : s.seq ≤ s'.seq)
    (pool : w'.pool = w.pool) : Resting s' w' h := by
  refine ⟨?_, pool ▸ resting.names, pool ▸ resting.still⟩
  obtain ⟨brief, ran, placed⟩ := resting.staffed.mono seq
  exact ⟨brief, ran, pool ▸ placed⟩

theorem Resting.concat (resting : Resting s w h) : Resting s w (h ++ [l]) :=
  ⟨resting.staffed, resting.names, resting.still.imp id Raised.concat⟩

theorem Paid.kept (paid : Paid obj s w h) (latest : s'.latest = s.latest) (seq : s.seq ≤ s'.seq)
    (pool : w'.pool = w.pool) : Paid obj s' w' h where
  afloat := ⟨paid.afloat.resting.kept seq pool, paid.afloat.uncosted, fun is => by
    rw [spendOf_same latest]
    exact paid.afloat.tallies is⟩
  held is := by
    rw [spendOf_same latest]
    exact paid.held is

/-- A label that is no execution, and does not record the cost. -/
theorem Paid.concat (paid : Paid obj s w h) (quiet : executed l = none)
    (other : ∀ event, l = .call (.recordEvent event) → ∀ m r d, event.payload ≠ .runCost m r d) :
    Paid obj s w (h ++ [l]) where
  afloat := ⟨paid.afloat.resting.concat, paid.afloat.uncosted.concat other,
    fun is => (paid.afloat.tallies is.before).quiet quiet⟩
  held is := paid.held is.before

/-- A mutation that leaves the spend alone. -/
theorem Paid.mutated {f : FlowState → FlowState} (paid : Paid obj s w h)
    (same : (f obj.val).spendMicroCents = obj.val.spendMicroCents) :
    Paid { obj with val := f obj.val } (seen { obj with val := f obj.val } s) w h := by
  have carried : Lossless h →
      spendOf (seen { obj with val := f obj.val } s) = spendOf s := by
    intro is
    have held := paid.held is
    unfold spendOf seen at *
    cases known : s.latest with
    | none => rfl
    | some latest =>
        rw [known] at held
        simp only [Option.map_some, Option.elim_some] at held ⊢
        split
        · exact same.trans held
        · rfl
  refine ⟨⟨paid.afloat.resting.kept le_rfl rfl, paid.afloat.uncosted, fun is => ?_⟩,
    fun is => ?_⟩
  · rw [carried is]
    exact paid.afloat.tallies is
  · rw [carried is]
    exact same.trans (paid.held is)

/-! ## Stretches of the main line -/

/-- The costs on record are right wherever a run stands. -/
def Honoured : Assertion DeliveryFlow (FlowWorld W) FlowOp FlowRep FlowMove := fun _ _ h => Costed h

/-- What a stretch leaves: the state it goes on with, or at least the latest one. -/
def Leaving (next : α → Obj) (r : Except FlowExc α) :
    Assertion DeliveryFlow (FlowWorld W) FlowOp FlowRep FlowMove :=
  match r with
  | .ok a => Paid (next a)
  | .error _ => Afloat

/-- From the state in hand, `t` comes to the one it goes on with. -/
def Carries (adapters : Adapters W Lbl) (worker : Worker) (obj : Obj) (t : Flow α)
    (next : α → Obj) : Prop :=
  ∀ s w h, Paid obj s w h → t.wp (system adapters worker) Honoured (Leaving next) s w h

variable {β : Type} {next : α → Obj} {next' : β → Obj}

theorem Paid.costed (paid : Paid obj s w h) : Costed h := paid.afloat.uncosted.costed

theorem carries_pure {a : α} (same : next a = obj) :
    Carries adapters worker obj (pure a) next := by
  intro s w h paid
  show Paid (next a) s w h
  rw [same]
  exact paid

theorem carries_raise {e : FlowExc} : Carries adapters worker obj (Task.raise e) next :=
  fun _ _ _ paid => paid.afloat

theorem carries_bind {t : Flow α} {f : α → Flow β} (ht : Carries adapters worker obj t next)
    (hf : ∀ a, Carries adapters worker (next a) (f a) next') :
    Carries adapters worker obj (t >>= f) next' := by
  intro s w h paid
  refine Task.wp_bind.mpr (Task.wp_mono (ht s w h paid) ?_)
  intro r s w h left
  cases r with
  | ok a => exact hf a s w h left
  | error e => exact left

/-- What every state in hand survives. -/
theorem carries_of_keeps {t : Flow α}
    (keeps : t.Keeps (system adapters worker) (Paid (W := W) obj)) :
    Carries adapters worker obj t fun _ => obj := by
  intro s w h paid
  refine Proc.wp_mono _ _ _ (keeps s w h paid) (fun _ _ _ paid => paid.costed) ?_
  intro r s w h paid
  cases r with
  | ok a => exact paid
  | error e => exact paid.afloat

theorem carries_update {f : DeliveryFlow → DeliveryFlow} (latest : ∀ s, (f s).latest = s.latest)
    (seq : ∀ s, s.seq ≤ (f s).seq) :
    Carries adapters worker obj (Task.update f) fun _ => obj :=
  carries_of_keeps (Task.keeps_update fun s _ _ paid => paid.kept (latest s) (seq s) rfl)

theorem carries_read : Carries adapters worker obj Task.read fun _ => obj :=
  carries_of_keeps Task.keeps_read

/-- A call that starts nothing, runs no node and does not record the cost. -/
theorem carries_call {op : FlowOp}
    (cost : ∀ event, op = .recordEvent event → ∀ m r d, event.payload ≠ .runCost m r d)
    (node : ∀ nodeId activityId state, op ≠ .runNode nodeId activityId state)
    (starts : ∀ brief, op ≠ .startVerifiers brief) :
    Carries adapters worker obj (Task.call op) fun _ => obj := by
  refine carries_of_keeps (Task.keeps_call ?_ (fun paid move => paid.moved move) ?_)
  · intro s w h paid
    refine paid.concat rfl fun event same => ?_
    cases same
    exact cost event rfl
  · intro s w h r s' w' paid served
    obtain ⟨rfl, pool⟩ := serves_calm served starts
    refine (paid.concat ?_ (by simp)).kept rfl le_rfl pool
    cases op with
    | runNode => exact absurd rfl (node _ _ _)
    | _ => rfl

theorem carries_emit {kind : String} {payload : Payload} {nodeId mode : Option String}
    (cost : ∀ m r d, payload ≠ .runCost m r d) :
    Carries adapters worker obj (emit kind payload nodeId mode) fun _ => obj :=
  carries_bind (carries_update (fun _ => rfl) fun _ => Nat.le_succ _) fun _ =>
    carries_bind carries_read fun flow => carries_call
      (fun event same => by cases same; exact cost) (by simp) (by simp)

theorem carries_mutate {f : FlowState → FlowState}
    (same : (f obj.val).spendMicroCents = obj.val.spendMicroCents) :
    Carries adapters worker obj (mutate obj f) id :=
  fun _ _ _ paid => paid.mutated same

/-- A node adds to the spend it was given, and its result is the latest state. -/
theorem carries_node {nodeId : String} :
    Carries adapters worker obj (nodeStep nodeId obj.val) id := by
  refine carries_bind (carries_update (fun _ => rfl) fun _ => le_rfl) fun _ =>
    carries_bind (carries_emit (by simp)) fun _ s w h paid => ?_
  refine Task.wp_bind.mpr (Task.wp_bind.mpr (Task.wp_read.mpr (Task.wp_call.mpr
    fun s₂ w₂ h₂ drift => ?_)))
  have out : Paid obj s₂ w₂ h₂ := Task.keeps_drift (P := Paid obj)
    (fun paid move => paid.moved move) (paid.concat rfl (by simp)) drift
  refine ⟨out.costed, fun reply s₃ w₃ served => ?_⟩
  obtain ⟨rfl, pool⟩ := serves_calm served (by simp)
  cases reply with
  | error exc =>
      exact carries_bind (carries_emit (by simp [failure, failureOf])) (fun _ => carries_raise)
        _ _ _ ((out.concat rfl (by simp)).kept rfl le_rfl pool)
  | ok result =>
      have published : Paid ⟨s₃.fresh, result⟩
          { s₃ with fresh := s₃.fresh + 1, latest := some ⟨s₃.fresh, result⟩ } w₃
          (h₂ ++ [.reply (.runNode nodeId (nodeId ++ "#" ++ Text.ofNat s.seq) obj.val)
            (.ok result)]) := by
        refine ⟨⟨out.afloat.resting.concat.kept le_rfl pool,
          out.afloat.uncosted.concat (by simp), fun is => ?_⟩, fun _ => rfl⟩
        have given := out.held is.before
        have tallies := out.afloat.tallies is.before
        rw [← given] at tallies
        exact Tallies.paid (x := ⟨nodeId, obj.val, result⟩) tallies rfl
      refine publish_bind ?_
      exact carries_bind (carries_emit (by simp)) (fun _ => carries_mutate rfl) _ _ _ published

theorem carries_pass {attempt : Nat} : Carries adapters worker obj (pass attempt obj) id := by
  refine carries_bind (carries_mutate rfl) fun obj => carries_bind carries_node fun coded =>
    carries_bind carries_node fun pushed => carries_bind (carries_emit (by simp)) fun _ =>
    carries_bind (carries_call (by simp) (by simp) (by simp)) fun _ =>
    carries_bind carries_node fun built => ?_
  split
  · exact carries_pure rfl
  · exact carries_bind (carries_emit (by simp [verdictPayload])) fun _ => carries_pure rfl

theorem carries_cycle {attempts : List Nat} :
    Carries adapters worker obj (cycle attempts obj) id := by
  induction attempts generalizing obj with
  | nil => exact carries_raise
  | cons attempt rest ih =>
      refine carries_bind carries_pass fun built => ?_
      split
      · exact carries_pure rfl
      · exact ih

theorem carries_isolation {state : FlowState} :
    Carries adapters worker obj (reportIsolation state) fun _ => obj := by
  unfold reportIsolation
  split
  · exact carries_pure rfl
  · exact carries_emit (by simp)

theorem carries_settle {params : FlowInput} :
    Carries adapters worker obj (settleTier params obj) id :=
  carries_bind (carries_mutate rfl) fun settled => carries_bind (carries_emit (by simp))
    fun _ => carries_pure rfl

theorem carries_judge {params : FlowInput} :
    Carries adapters worker obj (judge params obj) id := by
  refine carries_bind (carries_mutate rfl) fun judged => ?_
  dsimp only
  split
  · refine carries_bind (carries_emit (by simp)) fun _ => ?_
    split
    · exact carries_bind carries_raise fun _ => carries_pure rfl
    · exact carries_pure rfl
  · split
    · exact carries_bind carries_raise fun _ => carries_pure rfl
    · exact carries_pure rfl

theorem carries_gate : Carries adapters worker obj (gate obj) id := by
  have status : ∀ status, Carries adapters worker obj (setStatus status) fun _ => obj :=
    fun status => carries_call (by simp) (by simp) (by simp)
  have counts : ∀ signals, Carries adapters worker obj (count signals obj) id := by
    intro signals
    refine carries_bind (carries_mutate rfl) fun counted => ?_
    split
    · exact carries_bind (carries_emit (by simp)) fun _ => carries_raise
    · exact carries_bind (carries_emit (by simp)) fun _ => carries_pure rfl
  have suspends : ∀ needed,
      Carries adapters worker obj (suspend needed obj.val) fun _ => obj := by
    intro needed
    refine carries_bind (carries_update (fun _ => rfl) fun _ => le_rfl) fun _ =>
      carries_bind (status _) fun _ =>
      carries_bind (carries_call (by simp) (by simp) (by simp)) fun notified => ?_
    cases notified with
    | error exc => exact carries_raise
    | ok _ =>
        exact carries_bind (carries_call (by simp) (by simp) (by simp)) fun _ =>
          carries_bind (carries_update (fun _ => rfl) fun _ => le_rfl) fun _ =>
          carries_bind (status _) fun _ => carries_bind carries_read fun _ => carries_pure rfl
  have publishes : Carries adapters worker obj (publishPreview obj.val) fun _ => obj := by
    unfold publishPreview
    split
    · exact carries_pure rfl
    · refine carries_bind (carries_call (by simp) (by simp) (by simp)) fun preview => ?_
      split
      · exact carries_emit (by simp)
      · exact carries_pure rfl
  refine carries_bind publishes fun _ => carries_bind (carries_emit (by simp)) fun _ => ?_
  split
  · exact carries_bind (carries_emit (by simp)) fun _ => carries_pure rfl
  · exact carries_bind (suspends _) fun signals => counts signals

theorem carries_release : Carries adapters worker obj (do
    let obj ← nodeStep "release" obj.val
    reportEffect obj.val
    return obj) id := by
  have reports : ∀ {released : Obj}, Carries adapters worker released
      (reportEffect released.val) fun _ => released := by
    intro released
    unfold reportEffect
    split
    · exact carries_pure rfl
    · exact carries_emit (by simp [effectPayload])
  exact carries_bind carries_node fun released => carries_bind reports fun _ => carries_pure rfl

/-! ## The fan-out -/

def spentBy (entry : String × Slot DeliveryFlow FlowOp FlowRep FlowExc Obj) : Option (Option Int) :=
  match entry.2 with
  | .finished (.ok obj) => some obj.val.spendMicroCents
  | _ => none

def spends (pool : VerifierPool) : List (Option Int) := pool.slots.filterMap spentBy

structure Smooth (pool : VerifierPool) : Prop where
  failure : pool.failure = none
  slots : ∀ entry ∈ pool.slots, (∃ obj, entry.2 = .finished (.ok obj)) ∨
    ∃ nodeId activityId state k, entry.2 = .running (.runNode nodeId activityId state) k

/-- The verifiers are out. `obj` is what the main line holds, and `brief` what they were given. -/
structure Fanning (obj : Obj) (brief : FlowState) (s : DeliveryFlow) (w : FlowWorld W)
    (h : FlowHistory) : Prop where
  names : w.pool.slots.map Prod.fst ⊆ verifierIds
  placed : ∃ ran, ∀ entry ∈ w.pool.slots, Placed brief ran s.seq entry
  uncosted : Uncosted h
  smooth : Raised h ∨ Smooth w.pool
  sums : Lossless h → ∀ ks, List.Forall₂ Pays (executions h) ks →
    combine ks = combine [obj.val.spendMicroCents, combine (spends w.pool)]
  idle : Lossless h → Unheard h →
    spendOf s = obj.val.spendMicroCents ∧ Tallies obj.val.spendMicroCents h

variable {brief : FlowState}

theorem Unheard.before (unheard : Unheard (h ++ h')) : Unheard h := by
  intro x mem
  refine unheard x ?_
  rw [executions_append]
  exact List.mem_append_left _ mem

/-- A slot that held no result changes, and holds none. -/
theorem spends_settle {pool : VerifierPool} {i : Nat} {v : String}
    {slot slot' : Slot DeliveryFlow FlowOp FlowRep FlowExc Obj}
    (found : pool.slots[i]? = some (v, slot)) (before : spentBy (v, slot) = none)
    (after : spentBy (v, slot') = none) : spends (pool.settle i v slot') = spends pool := by
  obtain ⟨front, back, old, new⟩ := Pool.filterMap_settle spentBy slot' found
  unfold spends
  rw [old, new, before, after]

theorem spends_returned {pool : VerifierPool} {i : Nat} {v : String} {result : Obj}
    {slot : Slot DeliveryFlow FlowOp FlowRep FlowExc Obj}
    (found : pool.slots[i]? = some (v, slot)) (before : spentBy (v, slot) = none) :
    combine (spends (pool.settle i v (.finished (.ok result)))) =
      combine [combine (spends pool), result.val.spendMicroCents] := by
  obtain ⟨front, back, old, new⟩ := Pool.filterMap_settle spentBy (.finished (.ok result)) found
  unfold spends
  rw [old, new, before, ← combine_concat]
  refine combine_perm ?_
  have moved : (front ++ ([result.val.spendMicroCents] ++ back)).Perm
      (front ++ (back ++ [result.val.spendMicroCents])) :=
    List.Perm.append_left _ List.perm_append_comm
  simpa [spentBy] using moved

theorem Smooth.settle {pool : VerifierPool} {i : Nat} {v : String} {result : Obj}
    (smooth : Smooth pool) : Smooth (pool.settle i v (.finished (.ok result))) where
  failure := by
    unfold Pool.settle
    rw [smooth.failure]
  slots := by
    intro entry mem
    rcases Pool.mem_settle mem with old | rfl
    · exact smooth.slots entry old
    · exact .inl ⟨result, rfl⟩

theorem Fanning.moved {m : FlowMove} (free : brief.spendMicroCents = some 0)
    (fanning : Fanning obj brief s w h) (move : (system adapters worker).env s w m s' w') :
    Fanning obj brief s' w' (h ++ [.env m]) := by
  obtain ⟨ran, placed⟩ := fanning.placed
  have beside := Staffed.moves ⟨brief, ran, placed⟩ move
  have sums : ∀ {pool : VerifierPool}, executed (.env m) = none → spends pool = spends w.pool →
      Lossless (h ++ [.env m]) → ∀ ks, List.Forall₂ Pays (executions (h ++ [.env m])) ks →
      combine ks = combine [obj.val.spendMicroCents, combine (spends pool)] := by
    intro pool quiet same lossless ks explained
    rw [executions_quiet quiet] at explained
    rw [same]
    exact fanning.sums lossless.before ks explained
  have idle : executed (.env m) = none → s'.latest = s.latest → Lossless (h ++ [.env m]) →
      Unheard (h ++ [.env m]) → spendOf s' = obj.val.spendMicroCents ∧
        Tallies obj.val.spendMicroCents (h ++ [.env m]) := by
    intro quiet same lossless unheard
    obtain ⟨latest, tallies⟩ := fanning.idle lossless.before unheard.before
    exact ⟨(spendOf_same same).trans latest, tallies.quiet quiet⟩
  have uncosted : Uncosted (h ++ [.env m]) := fanning.uncosted.concat (by simp)
  cases beside with
  | signal a =>
      exact ⟨fanning.names, ⟨ran, placed⟩, uncosted, fanning.smooth.imp Raised.concat id,
        sums rfl rfl, idle rfl rfl⟩
  | @returned i v act given result a k attempts found executes =>
      have mem := List.mem_of_getElem? found
      cases placed _ mem with
      | asked =>
          have verifier : v ∈ verifierIds := fanning.names (List.mem_map_of_mem mem)
          refine ⟨(names_settle _ found).symm ▸ fanning.names, ⟨⟨v, brief, result⟩ :: ran,
            placed_settle placed (List.subset_cons_self _ _) le_rfl
              (.returned List.mem_cons_self)⟩, uncosted,
            fanning.smooth.imp Raised.concat Smooth.settle, ?_, ?_⟩
          · intro lossless ks explained
            rw [executions_append, executions_singleton] at explained
            obtain ⟨before, k, rfl, earlier, pays⟩ := forall₂_concat explained
            have spent : result.spendMicroCents = k := by
              have paid : result.spendMicroCents = combine [brief.spendMicroCents, k] := pays
              rw [paid, free]
              cases k <;> simp [combine]
            rw [combine_concat, fanning.sums lossless.before before earlier,
              spends_returned found rfl, combine_assoc, spent]
          · intro lossless unheard
            refine absurd verifier (unheard ⟨v, brief, result⟩ ?_)
            rw [executions_append]
            exact List.mem_append_right _ List.mem_cons_self
  | @failed i v act given e a k found =>
      exact ⟨(names_settle _ found).symm ▸ fanning.names, ⟨ran, placed_settle placed
        (List.Subset.refl _) (Nat.le_succ _) (.failing rfl le_rfl)⟩, uncosted,
        .inl ⟨v, v, act, given, e, by simp⟩, sums rfl (spends_settle found rfl rfl), idle rfl rfl⟩
  | noted found kind =>
      refine ⟨(names_settle _ found).symm ▸ fanning.names, ⟨ran, placed_settle placed
        (List.Subset.refl _) le_rfl .failed⟩, uncosted, ?_,
        sums rfl (spends_settle found rfl rfl), idle rfl rfl⟩
      rcases fanning.smooth with raised | smooth
      · exact .inl raised.concat
      · rcases smooth.slots _ (List.mem_of_getElem? found) with ⟨_, finished⟩ | ⟨_, _, _, _, asks⟩
        · cases finished
        · cases asks

theorem results_spends {slots : List (String × Slot DeliveryFlow FlowOp FlowRep FlowExc Obj)}
    {objs : List Obj} (all : Pool.results slots = some objs) :
    slots.filterMap spentBy = objs.map fun obj => obj.val.spendMicroCents := by
  have finished := Pool.results_forall₂ all
  clear all
  induction finished with
  | nil => rfl
  | @cons entry obj rest objs done _ ih =>
      rw [List.filterMap_cons_some (b := obj.val.spendMicroCents)
        (by simp [spentBy, done]), ih, List.map_cons]

theorem combine_zero (total : Option Int) : combine [total, combine []] = total := by
  cases total <;> simp [combine]

theorem Paid.started (paid : Paid obj s w h) (brief : FlowState) :
    Fanning obj brief (Pool.start (branch brief) verifierIds s).1
      { w with pool := (Pool.start (branch brief) verifierIds s).2 }
      (h ++ [.reply (.startVerifiers brief) ()]) := by
  obtain ⟨-, -, names, placed⟩ := startSlots_branch brief verifierIds s
  have latest : (Pool.start (branch brief) verifierIds s).1.latest = s.latest :=
    startSlots_latest brief verifierIds s
  have asks := startSlots_asks brief verifierIds s
  have tallies : Lossless (h ++ [.reply (.startVerifiers brief) ()]) →
      Tallies obj.val.spendMicroCents (h ++ [.reply (.startVerifiers brief) ()]) := by
    intro lossless
    rw [paid.held lossless.before]
    exact (paid.afloat.tallies lossless.before).quiet rfl
  refine ⟨names ▸ List.Subset.refl _, ⟨[], placed _⟩,
    paid.afloat.uncosted.concat (by simp), .inr ⟨rfl, fun entry mem => ?_⟩, ?_, ?_⟩
  · obtain ⟨activityId, k, running⟩ := asks entry mem
    exact .inr ⟨entry.1, activityId, brief, k, running⟩
  · intro lossless ks explained
    have none : spends (Pool.start (branch brief) verifierIds s).2 = [] := by
      refine List.filterMap_eq_nil_iff.mpr fun entry mem => ?_
      obtain ⟨activityId, k, running⟩ := asks entry mem
      simp [spentBy, running]
    rw [none, combine_zero]
    exact (tallies lossless ks explained).symm
  · intro lossless _
    exact ⟨(spendOf_same latest).trans (paid.held lossless.before).symm, tallies lossless⟩

theorem Fanning.concat (fanning : Fanning obj brief s w h) (quiet : executed l = none)
    (other : ∀ event, l ≠ .call (.recordEvent event)) : Fanning obj brief s w (h ++ [l]) where
  names := fanning.names
  placed := fanning.placed
  uncosted := fanning.uncosted.concat fun event same => absurd same (other event)
  smooth := fanning.smooth.imp Raised.concat id
  sums lossless ks explained := by
    rw [executions_quiet quiet] at explained
    exact fanning.sums lossless.before ks explained
  idle lossless unheard := by
    obtain ⟨latest, tallies⟩ := fanning.idle lossless.before unheard.before
    exact ⟨latest, tallies.quiet quiet⟩

/-- A fan-out that failed leaves the latest state as it was, unless a result was lost. -/
theorem Fanning.failed {e : FlowExc} (fanning : Fanning obj brief s w h)
    (joins : w.pool.Joins (.error e)) : Afloat s w h := by
  have raised : Raised h := by
    rcases fanning.smooth with raised | smooth
    · exact raised
    · have failed : w.pool.failure = some e := joins
      rw [smooth.failure] at failed
      cases failed
  obtain ⟨ran, placed⟩ := fanning.placed
  refine ⟨⟨⟨brief, ran, placed⟩, fanning.names, .inr raised⟩, fanning.uncosted, fun lossless => ?_⟩
  obtain ⟨latest, tallies⟩ := fanning.idle lossless (lossless raised)
  rw [latest]
  exact tallies

/-- One that succeeded leaves the tally to be added up. -/
theorem Fanning.joined {objs : List Obj} (fanning : Fanning obj brief s w h)
    (joins : w.pool.Joins (.ok objs)) : Due (combine (obj.val.spendMicroCents ::
      objs.map fun r => r.val.spendMicroCents)) s w h := by
  obtain ⟨ran, placed⟩ := fanning.placed
  have all : Pool.results w.pool.slots = some objs := joins
  refine ⟨⟨⟨brief, ran, placed⟩, fanning.names, .inl ?_⟩, fanning.uncosted, ?_⟩
  · have finished := Pool.results_forall₂ all
    have waits : List.Forall₂ (fun entry _ => (∃ r, entry.2 = .finished r) ∧ True)
        w.pool.slots objs := finished.imp fun entry obj done => ⟨⟨_, done⟩, trivial⟩
    exact ((List.forall₂_and_left _ _).mp waits).1
  · intro lossless ks explained
    rw [fanning.sums lossless ks explained, spends, results_spends all, ← combine_cons]

theorem Due.kept (due : Due spend s w h) (seq : s.seq ≤ s'.seq) (pool : w'.pool = w.pool) :
    Due spend s' w' h :=
  ⟨due.resting.kept seq pool, due.uncosted, due.tallies⟩

theorem Due.concat (due : Due spend s w h) (quiet : executed l = none)
    (other : ∀ event, l = .call (.recordEvent event) → ∀ m r d, event.payload ≠ .runCost m r d) :
    Due spend s w (h ++ [l]) :=
  ⟨due.resting.concat, due.uncosted.concat other, fun is => (due.tallies is.before).quiet quiet⟩

theorem Due.moved {m : FlowMove} (due : Due spend s w h)
    (move : (system adapters worker).env s w m s' w') : Due spend s' w' (h ++ [.env m]) := by
  obtain ⟨resting, lost | ⟨quiet, -⟩⟩ := due.resting.moved move
  · exact ⟨resting, due.uncosted.concat (by simp), fun is => absurd is lost⟩
  · exact ⟨resting, due.uncosted.concat (by simp), fun is => (due.tallies is.before).quiet quiet⟩

section Due

variable {Q : Except FlowExc α → Assertion DeliveryFlow (FlowWorld W) FlowOp FlowRep FlowMove}

theorem mutate_due_bind {f : FlowState → FlowState} {t : Obj → Flow α}
    (due : Due spend s w h) (ht : ∀ obj' s, obj'.val = f obj.val → Due spend s w h →
      (t obj').wp (system adapters worker) Honoured Q s w h) :
    (mutate obj f >>= t).wp (system adapters worker) Honoured Q s w h :=
  ht _ _ rfl (due.kept le_rfl rfl)

theorem emit_due_bind {kind : String} {payload : Payload} {nodeId mode : Option String}
    {t : Unit → Flow α} (cost : ∀ m r d, payload ≠ .runCost m r d) (due : Due spend s w h)
    (ht : ∀ s w h, Due spend s w h →
      (t ()).wp (system adapters worker) Honoured Q s w h) :
    (emit kind payload nodeId mode >>= t).wp (system adapters worker) Honoured Q s w h := by
  refine Task.wp_bind.mpr (emit_wp (fun _ => Due spend) (fun due move => due.moved move) ?_
    (fun _ _ _ _ due => due.uncosted.costed) fun s w h due => ?_)
  · refine (due.kept (Nat.le_succ _) rfl).concat rfl fun event same => ?_
    cases same
    exact cost
  · exact ht _ _ _ ((due.concat rfl (by simp)).kept le_rfl rfl)

theorem collect_due {results : List (String × Obj)} (due : Due spend s w h)
    (same : obj.val.spendMicroCents = spend) :
    (collect results obj).wp (system adapters worker) Honoured (fun r s w h =>
      ∃ obj', r = .ok obj' ∧ obj'.val.spendMicroCents = spend ∧ Due spend s w h) s w h := by
  induction results generalizing obj s w h with
  | nil => exact ⟨obj, rfl, same, due⟩
  | cons result rest ih =>
      refine mutate_due_bind due fun obj' s₁ is due₁ => ?_
      have same' : obj'.val.spendMicroCents = spend := by
        rw [is]
        exact same
      dsimp only
      split
      · exact emit_due_bind (by simp) due₁ fun s₂ w₂ h₂ due₂ =>
          mutate_due_bind due₂ fun _ s₃ _ due₃ => ih due₃ same'
      · exact mutate_due_bind due₁ fun _ s₃ _ due₃ => ih due₃ same'

end Due

theorem carries_verify : Carries adapters worker obj (verify obj) id := by
  refine carries_bind (carries_emit (by simp)) fun _ s w h paid => ?_
  -- The verifiers start from a brief that has spent nothing.
  refine Task.wp_bind.mpr (Task.wp_call.mpr fun s₁ w₁ h₁ drift => ?_)
  have out : Paid obj s₁ w₁ h₁ := Task.keeps_drift (P := Paid obj)
    (fun paid move => paid.moved move) (paid.concat rfl (by simp)) drift
  refine ⟨out.costed, fun r s₂ w₂ served => ?_⟩
  cases served
  refine Task.wp_bind.mpr (Task.wp_call.mpr fun s₃ w₃ h₃ drift => ?_)
  have fanned : Fanning obj (verifierBrief obj.val) s₃ w₃ h₃ :=
    Task.keeps_drift (P := Fanning obj (verifierBrief obj.val))
      (fun fanning move => fanning.moved rfl move)
      ((out.started (verifierBrief obj.val)).concat rfl (by simp)) drift
  refine ⟨fanned.uncosted.costed, fun reply s₄ w₄ served => ?_⟩
  cases served with
  | gatherVerifiers joins =>
      cases reply with
      | error e => exact (fanned.failed joins).concat rfl (by simp)
      | ok objs =>
          have due := (fanned.joined joins).concat (l := .reply .gatherVerifiers (.ok objs))
            rfl (by simp)
          refine Task.wp_bind.mpr ((Task.wp_ofExcept _).mpr ?_)
          rw [Task.andThen_ok]
          refine mutate_due_bind due fun obj₅ s₅ is due₅ => ?_
          refine Task.wp_bind.mpr (Task.wp_mono (collect_due due₅ (by rw [is])) ?_)
          rintro _ s₆ w₆ h₆ ⟨obj₆, rfl, same, due₆⟩
          refine emit_due_bind (by simp) due₆ fun s₇ w₇ h₇ due₇ => ?_
          have latest : Paid obj₆ { s₇ with latest := some obj₆ } w₇ h₇ := by
            refine ⟨?_, fun _ => rfl⟩
            show Due obj₆.val.spendMicroCents _ w₇ h₇
            rw [same]
            exact due₇.kept le_rfl rfl
          exact latest

/-! ## The end of a run -/

structure Closed (s : DeliveryFlow) (w : FlowWorld W) (h : FlowHistory) : Prop where
  resting : Resting s w h
  costed : Costed h

theorem Costed.concat (costed : Costed h) (quiet : executed l = none)
    (other : ∀ event, l ≠ .call (.recordEvent event)) : Costed (h ++ [l]) := by
  intro event mem m r d cost lossless
  rcases List.mem_append.mp mem with mem | mem
  · exact (costed event mem m r d cost lossless.before).quiet quiet
  · exact absurd (List.mem_singleton.mp mem).symm (other event)

theorem Closed.moved {m : FlowMove} (closed : Closed s w h)
    (move : (system adapters worker).env s w m s' w') : Closed s' w' (h ++ [.env m]) := by
  obtain ⟨resting, lost | ⟨quiet, -⟩⟩ := closed.resting.moved move
  · exact ⟨resting, fun _ _ _ _ _ _ is => absurd is lost⟩
  · exact ⟨resting, closed.costed.concat quiet (by simp)⟩

theorem finish_eq : finish = Task.read >>= fun flow =>
    emit "run_cost" (.runCost (spendOf flow) (asText (spendOf flow)) lastReviewed) >>= fun _ =>
      Task.read >>= fun flow => Task.call (FlowOp.recordRunEnded flow.status) := by
  unfold finish
  congr 1
  funext flow
  unfold spendOf
  cases flow.latest <;> rfl

theorem finish_costs (afloat : Afloat s w h) :
    finish.wp (system adapters worker) Honoured (fun _ => Closed) s w h := by
  rw [finish_eq]
  refine Task.wp_bind.mpr (Task.wp_read.mpr ?_)
  rw [Task.andThen_ok]
  refine Task.wp_bind.mpr (emit_wp (fun _ => Closed) (fun closed move => closed.moved move) ?_
    (fun _ _ _ _ closed => closed.costed) fun s₁ w₁ h₁ closed => ?_)
  · refine ⟨afloat.resting.concat.kept (Nat.le_succ _) rfl, fun event mem m r d cost is => ?_⟩
    rcases List.mem_append.mp mem with mem | mem
    · exact absurd cost (afloat.uncosted event mem m r d)
    · cases List.mem_singleton.mp mem
      cases cost
      exact (afloat.tallies is.before).quiet rfl
  · have recorded := closed.costed.concat (l := .reply (.recordEvent ⟨s.seq + 1, "run_cost",
      none, .runCost (spendOf s) (asText (spendOf s)) lastReviewed, none⟩) ()) rfl (by simp)
    have ending := recorded.concat (l := .call (.recordRunEnded s₁.status)) rfl (by simp)
    refine Task.wp_bind.mpr (Task.wp_read.mpr (Task.wp_call.mpr fun s₂ w₂ h₂ drift => ?_))
    have out : Closed s₂ w₂ h₂ := by
      refine Task.keeps_drift (P := Closed) (fun closed move => closed.moved move) ?_ drift
      exact ⟨.concat (.concat (by exact closed.resting.kept le_rfl rfl)), ending⟩
    refine ⟨out.costed, fun r s₃ w₃ served => ?_⟩
    obtain ⟨rfl, pool⟩ := serves_calm served (by simp)
    exact ⟨out.resting.concat.kept le_rfl pool,
      out.costed.concat (l := .reply (.recordRunEnded s₁.status) ()) rfl (by simp)⟩

/-- What follows the state in hand to the end. -/
def Accounts (adapters : Adapters W Lbl) (worker : Worker) (obj : Obj) (t : Flow α) : Prop :=
  ∀ s w h, Paid obj s w h →
    t.wp (system adapters worker) Honoured (fun _ _ _ h => Costed h) s w h

theorem accounts_bind {t : Flow α} {f : α → Flow β} (ht : Carries adapters worker obj t next)
    (hf : ∀ a, Accounts adapters worker (next a) (f a)) :
    Accounts adapters worker obj (t >>= f) := by
  intro s w h paid
  refine Task.wp_bind.mpr (Task.wp_mono (ht s w h paid) ?_)
  intro r s w h left
  cases r with
  | ok a => exact hf a s w h left
  | error e => exact Due.uncosted left |>.costed

theorem finish_accounts {f : Unit → Flow α} (still : ∀ s w h, Costed h →
      (f ()).wp (system adapters worker) Honoured (fun _ _ _ h => Costed h) s w h) :
    Accounts adapters worker obj (finish >>= f) := by
  intro s w h paid
  refine Task.wp_bind.mpr (Task.wp_mono (finish_costs paid.afloat) ?_)
  intro r s w h closed
  cases r with
  | ok _ => exact still s w h closed.costed
  | error e => exact closed.costed

theorem conclude_accounts {params : FlowInput} :
    Accounts adapters worker obj (conclude params obj) :=
  accounts_bind carries_node fun _ => finish_accounts fun _ _ _ costed => costed

/-- Compensation is handed the latest state. -/
theorem carries_doomed {first : Obj} (free : first.val.spendMicroCents = some 0) :
    Carries adapters worker obj (doomed first) id := by
  intro s w h paid
  refine ⟨paid.afloat, fun _ => ?_⟩
  unfold spendOf
  cases known : s.latest with
  | none => exact free
  | some latest => rfl

theorem carries_emit_cleanup : Carries adapters worker obj (emitCleanup state) fun _ => obj := by
  unfold emitCleanup
  split
  · exact carries_pure rfl
  · exact carries_emit (by simp)

theorem failed_accounts {params : FlowInput} {first : Obj} {e : FlowExc}
    (free : first.val.spendMicroCents = some 0) :
    Accounts adapters worker obj (ending params first (.error e)) := by
  have written : ∀ {obj : Obj} {status}, Carries adapters worker obj
      (Task.update fun flow => { flow with status := status }) fun _ => obj :=
    fun {_ _} => carries_update (fun _ => rfl) fun _ => le_rfl
  cases e with
  | rejected reason falsifiedBy =>
      exact accounts_bind (carries_emit (by simp)) fun _ => accounts_bind (carries_doomed free)
        fun lost => accounts_bind (carries_mutate rfl) fun lost => accounts_bind carries_node
        fun compensated => accounts_bind carries_emit_cleanup fun _ => accounts_bind written
        fun _ => conclude_accounts
  | failure error message =>
      exact accounts_bind (carries_emit (by simp)) fun _ => accounts_bind (carries_doomed free)
        fun lost => accounts_bind carries_node fun compensated =>
        accounts_bind carries_emit_cleanup fun _ => accounts_bind written fun _ =>
        accounts_bind carries_node fun reported => finish_accounts fun _ _ _ costed => costed

theorem succeeded_accounts {params : FlowInput} {first : Obj} :
    Accounts adapters worker obj (ending params first (.ok obj)) :=
  accounts_bind (carries_update (fun _ => rfl) fun _ => le_rfl) fun _ => conclude_accounts

/-- Whatever stopped the main line, some state carries the tally. -/
theorem Due.paid (afloat : Afloat s w h) : ∃ lost, Paid lost s w h := by
  refine ⟨s.latest.getD ⟨0, default⟩, afloat, fun _ => ?_⟩
  unfold spendOf
  cases s.latest <;> rfl

theorem carries_deliver {params : FlowInput} :
    Carries adapters worker obj (deliver params obj) id := by
  have isolates : ∀ built : Obj, Carries adapters worker built
      (reportIsolation built.val) fun _ => built := fun _ => carries_isolation
  have approaches : Carries adapters worker obj (approach params obj) id := by
    refine carries_bind carries_node fun triaged => carries_bind carries_node fun planned =>
      carries_bind carries_cycle fun built => carries_bind (isolates built) fun _ => carries_bind carries_settle fun settled =>
      carries_bind carries_verify fun verified => carries_bind carries_judge fun judged =>
      carries_gate
  exact carries_bind approaches fun gated => carries_release

theorem paid_nothing {params : FlowInput} {a : W} :
    Paid ⟨0, initial params⟩ {} (⟨a, {}, .empty⟩ : FlowWorld W) [] where
  afloat := {
    resting := ⟨staffed_empty _ _ _, List.nil_subset _, .inl quiet_empty⟩
    uncosted := by simp [Uncosted]
    tallies := fun _ ks explained => by
      cases explained
      rfl }
  held _ := rfl

theorem run_costs (params : FlowInput) (a : W) :
    (run params).wp (system adapters worker) Honoured (fun _ _ _ h => Costed h) {}
      ⟨a, {}, .empty⟩ [] := by
  have started : Carries adapters worker ⟨0, initial params⟩
      (Task.call (FlowOp.recordRunStarted (started params))) fun _ => ⟨0, initial params⟩ :=
    carries_call (by simp) (by simp) (by simp)
  have start : Paid ⟨0, initial params⟩ { fresh := 1 } (⟨a, {}, .empty⟩ : FlowWorld W) [] :=
    paid_nothing.kept rfl le_rfl rfl
  refine Task.wp_bind.mpr (Task.wp_read.mpr ?_)
  rw [Task.andThen_ok]
  refine Task.wp_bind.mpr ((Task.wp_update _).mpr ?_)
  rw [Task.andThen_ok]
  refine Task.wp_bind.mpr (Task.wp_mono (started _ _ _ start) ?_)
  intro r s₁ w₁ h₁ left
  cases r with
  | error e => exact Due.uncosted left |>.costed
  | ok _ =>
      refine Task.wp_bind.mpr (Task.wp_attempt.mpr
        (Task.wp_mono (carries_deliver _ _ _ left) ?_))
      intro outcome s₂ w₂ h₂ left
      cases outcome with
      | ok obj => exact succeeded_accounts _ _ _ left
      | error e =>
          -- What the main line held is lost; the end takes up the latest state.
          obtain ⟨lost, paid⟩ := Due.paid left
          have accounts : Accounts adapters worker lost
              (ending params ⟨0, initial params⟩ (.error e)) := failed_accounts rfl
          exact accounts s₂ w₂ h₂ paid

/-! ## The calls behind a cost -/

/-- The calls to models that completed in the attempt an execution returned from. -/
def CompletedIn (adapters : Adapters W Lbl) (worker : Worker) (x : Execution)
    (calls : List ModelCall) : Prop :=
  ∃ w c, adapters.system.Reaches (.launch (runNode worker x.nodeId x.given) w []) c ∧
    c.proc = .done x.returned (.ok ()) ∧ modelCalls c.history = calls

/-- The calls behind every result the flow received, execution by execution. -/
def Explained (adapters : Adapters W Lbl) (worker : Worker) (h : FlowHistory)
    (calls : List (List ModelCall)) : Prop :=
  List.Forall₂ (CompletedIn adapters worker) (executions h) calls

/-- An amount is what calls cost together, and unknown exactly if one of them has no rate. -/
def Accurate (amount : Option Int) (calls : List ModelCall) : Prop :=
  amount = bill calls ∧
    (amount = none ↔ ∃ call ∈ calls, rates.lookup call.completion.model = none)

theorem CompletedIn.pays {x : Execution} {calls : List ModelCall}
    (completed : CompletedIn adapters worker x calls) : Pays x (bill (accrued calls)) := by
  obtain ⟨w, c, reached, final, rfl⟩ := completed
  exact (run_node_bills reached final).1

theorem CompletedIn.selected {x : Execution} {calls : List ModelCall}
    (completed : CompletedIn adapters worker x calls) (coder : x.nodeId = "coder") :
    selections calls ≠ [] := by
  obtain ⟨w, c, reached, final, rfl⟩ := completed
  exact (run_node_bills reached final).2 coder

theorem bill_accrued_flatten (calls : List (List ModelCall)) :
    bill (accrued calls.flatten) = combine (calls.map fun made => bill (accrued made)) := by
  induction calls with
  | nil => rfl
  | cons made rest ih =>
      have split : accrued (made ++ rest.flatten) = accrued made ++ accrued rest.flatten :=
        List.filter_append ..
      rw [List.flatten_cons, split, bill_append, ih, List.map_cons, ← combine_cons]

/-- The tally is what the calls accrued, whatever the selections cost. -/
theorem Tallies.billed {amount : Option Int} {calls : List (List ModelCall)}
    (tallies : Tallies amount h) (explained : Explained adapters worker h calls) :
    amount = bill (accrued calls.flatten) := by
  rw [bill_accrued_flatten]
  refine tallies _ (List.forall₂_map_right_iff.mpr ?_)
  exact explained.imp fun x made completed => completed.pays

theorem accurate_iff {amount : Option Int} {calls : List ModelCall}
    (same : amount = bill (accrued calls)) : Accurate amount calls ↔
      bill (accrued calls) = none ∨ bill (selections calls) = some 0 := by
  have whole : bill (accrued calls) = bill calls ↔
      bill (accrued calls) = none ∨ bill (selections calls) = some 0 := by
    rw [bill_split calls, eq_comm]
    exact combine_pair_eq_left
  rw [← whole, same]
  refine ⟨fun accurate => accurate.1, fun total => ⟨total, ?_⟩⟩
  rw [total]
  exact bill_eq_none_iff

/-- There are calls behind every result of a run. -/
theorem explained_honest (honest : (system adapters worker).Honest h) :
    ∃ calls, Explained adapters worker h calls := by
  have each : ∀ x ∈ executions h, ∃ calls, CompletedIn adapters worker x calls := by
    intro x mem
    obtain ⟨w, attempts, w', executes⟩ := executed_honest honest mem
    obtain ⟨w₀, c, reached, final⟩ := executes.returned
    exact ⟨_, w₀, c, reached, final, rfl⟩
  exact forall₂_exists each

theorem explained_of_runs {params : FlowInput} {a : W} {c : FlowConfig W}
    (run : Runs adapters worker params a c) : ∃ calls, Explained adapters worker c.history calls :=
  explained_honest (System.Reaches.honest run (System.honest_launch System.honest_nil))

theorem costed_of_runs {params : FlowInput} {a : W} {c : FlowConfig W}
    (run : Runs adapters worker params a c) : Costed c.history :=
  wp_invariant (run_costs params a) run

/-! ## A run whose models are paid for -/

/-- Every model answers with one token in, and at a known rate. -/
def charge : (op : AdapterOp) → AdapterRep op
  | .complete _ _ => .ok (⟨none, { inputTokens := 1 }, "claude-haiku-4-5"⟩ : Completion)
  | op => oblige op

def chargedRun : FlowConfig Unit :=
  (answeringScript charge).run plainWorker [] shopParams () 100

theorem chargedRun_runs : Runs (answering charge) plainWorker shopParams () chargedRun :=
  Script.run_runs _ _ _ _ _ _

def costOf : Label FlowOp FlowRep FlowMove → Option (Option Int)
  | .call (.recordEvent event) =>
      match event.payload with
      | .runCost amount _ _ => some amount
      | _ => none
  | _ => none

theorem recorded_of_findSome {amount : Option Int} (found : h.findSome? costOf = some amount) :
    ∃ event reason date, .call (.recordEvent event) ∈ h ∧
      event.payload = .runCost amount reason date := by
  obtain ⟨l, mem, cost⟩ := List.exists_of_findSome?_eq_some found
  unfold costOf at cost
  split at cost
  next event =>
    split at cost
    next recorded reason date payload =>
      cases cost
      exact ⟨event, reason, date, mem, payload⟩
    next => cases cost
  next => cases cost

def verifierRaised : Label FlowOp FlowRep FlowMove → Bool
  | .env (.verifier _ (.reply (.runNode _ _ _) reply)) =>
      match (show Except PyError FlowState from reply) with
      | .ok _ => false
      | .error _ => true
  | _ => false

theorem lossless_of_raises (none : ∀ l ∈ h, verifierRaised l = false) : Lossless h := by
  rintro ⟨v, nodeId, activityId, state, e, mem⟩
  cases none _ mem

/-- No verifier raises in that run, its cost is recorded, and its Coder is called. -/
theorem chargedRun_plays : chargedRun.history.all (fun l => !verifierRaised l) = true ∧
    (chargedRun.history.findSome? costOf).isSome = true ∧
      (executions chargedRun.history).any (fun x => x.nodeId = "coder") = true := by
  decide +kernel

theorem chargedRun_lossless : Lossless chargedRun.history := by
  refine lossless_of_raises fun l mem => ?_
  simpa using List.all_eq_true.mp chargedRun_plays.1 l mem

theorem charged_cost {x : Execution} {calls : List ModelCall}
    (completed : CompletedIn (answering charge) plainWorker x calls) :
    ∀ call ∈ calls, call.cost = some 100 := by
  obtain ⟨w, c, reached, final, rfl⟩ := completed
  have honest := reached.honest (System.honest_launch System.honest_nil)
  intro call mem
  obtain ⟨l, logged, made⟩ := List.mem_filterMap.mp mem
  have accounted := honest l logged
  unfold modelCall at made
  split at made
  next node request reply =>
    obtain ⟨s, w, s', w', -, same⟩ := accounted
    cases same
    cases made
    show microCents "claude-haiku-4-5" { inputTokens := 1 } = some 100
    decide
  next => cases made

theorem bill_charged {calls : List ModelCall} (each : ∀ call ∈ calls, call.cost = some 100) :
    bill calls = some (100 * calls.length) := by
  induction calls with
  | nil => rfl
  | cons call rest ih =>
      have rest_cost := ih fun call mem => each call (List.mem_cons_of_mem _ mem)
      have here := each call List.mem_cons_self
      unfold bill at rest_cost ⊢
      rw [List.map_cons, here, combine_cons, rest_cost]
      simp [combine]
      ring

theorem bill_charged_eq_zero {calls : List ModelCall}
    (each : ∀ call ∈ calls, call.cost = some 100) (free : bill calls = some 0) : calls = [] := by
  rw [bill_charged each] at free
  have none : calls.length = 0 := by
    have := Option.some_inj.mp free
    omega
  exact List.length_eq_zero_iff.mp none

/-- However the nodes went and in whatever order the verifiers came in, the amount on record
is right exactly if the selections cost nothing or the rest has no rate, unless a verifier
returned beside one that raised. -/
theorem run_cost_iff {params : FlowInput} {a : W} {c : FlowConfig W}
    (run : Runs adapters worker params a c) {event : EventRecorded} {amount : Option Int}
    {reason date : String} (recorded : .call (.recordEvent event) ∈ c.history)
    (cost : event.payload = .runCost amount reason date) (lossless : Lossless c.history) :
    (∃ calls, Explained adapters worker c.history calls) ∧
      ∀ calls, Explained adapters worker c.history calls →
        (Accurate amount calls.flatten ↔ bill (accrued calls.flatten) = none ∨
          bill (selections calls.flatten) = some 0) := by
  refine ⟨explained_of_runs run, fun calls explained => accurate_iff ?_⟩
  exact (costed_of_runs run event recorded amount reason date cost lossless).billed explained

theorem run_cost_iff_charged : ∃ amount,
    chargedRun.history.findSome? costOf = some amount ∧
      ∃ calls, Explained (answering charge) plainWorker chargedRun.history calls ∧
        (Accurate amount calls.flatten ↔ bill (accrued calls.flatten) = none ∨
          bill (selections calls.flatten) = some 0) := by
  obtain ⟨amount, found⟩ := Option.isSome_iff_exists.mp chargedRun_plays.2.1
  obtain ⟨event, reason, date, recorded, cost⟩ := recorded_of_findSome found
  obtain ⟨⟨calls, explained⟩, settled⟩ :=
    run_cost_iff chargedRun_runs recorded cost chargedRun_lossless
  exact ⟨amount, found, calls, explained, settled calls explained⟩

/-- A run that completes pays for every call but the Coder's selection. -/
theorem selection_unpaid : ∃ c event amount reason date calls,
    Runs (answering charge) plainWorker shopParams () c ∧
      .call (.recordEvent event) ∈ c.history ∧
      event.payload = .runCost amount reason date ∧
      Explained (answering charge) plainWorker c.history calls ∧
      ¬ Accurate amount calls.flatten := by
  obtain ⟨amount, found⟩ := Option.isSome_iff_exists.mp chargedRun_plays.2.1
  obtain ⟨event, reason, date, recorded, cost⟩ := recorded_of_findSome found
  obtain ⟨calls, explained⟩ := explained_of_runs chargedRun_runs
  have lossless := chargedRun_lossless
  have tallies := costed_of_runs chargedRun_runs event recorded amount reason date cost lossless
  refine ⟨_, event, amount, reason, date, calls, chargedRun_runs, recorded, cost, explained, ?_⟩
  have charged : ∀ call ∈ calls.flatten, call.cost = some 100 := by
    intro call mem
    obtain ⟨made, listed, mem⟩ := List.mem_flatten.mp mem
    obtain ⟨x, -, completed⟩ := exists_of_forall₂ explained.flip listed
    exact charged_cost completed call mem
  obtain ⟨x, ran, coder⟩ : ∃ x ∈ executions chargedRun.history, x.nodeId = "coder" := by
    simpa using chargedRun_plays.2.2
  obtain ⟨made, listed, completed⟩ := exists_of_forall₂ explained ran
  rw [accurate_iff (tallies.billed explained)]
  have accrual : ∀ call ∈ accrued calls.flatten, call.cost = some 100 :=
    fun call mem => charged call (List.mem_of_mem_filter mem)
  have selection : ∀ call ∈ selections calls.flatten, call.cost = some 100 :=
    fun call mem => charged call (List.mem_of_mem_filter mem)
  rintro (unknown | free)
  · rw [bill_charged accrual] at unknown
    cases unknown
  · have none := bill_charged_eq_zero selection free
    refine completed.selected coder (List.eq_nil_iff_forall_not_mem.mpr fun call mem => ?_)
    obtain ⟨made_here, selects⟩ := List.mem_filter.mp mem
    have : call ∈ selections calls.flatten :=
      List.mem_filter.mpr ⟨List.mem_flatten_of_mem listed made_here, selects⟩
    rw [none] at this
    cases this

end KuWarden.Flow
