import KuWarden.Evidence
import KuWarden.Flows.Calls
import KuWarden.Flows.Clearance
import KuWarden.Flows.Latest
import KuWarden.Flows.Marks
import Mathlib.Logic.Function.Basic

/-!
The evidence of a run at its gate, against the state that the gate lets through.

The document is made from the latest event of each of a few kinds. While a human is awaited,
and when Release is called, these events say of the state what the state holds.
-/
namespace KuWarden.Flow

open Process

/-- The kinds of events that the document is made from. -/
def sources : List String := [
  "build_test_verdict", "sandbox_isolation", "risk_tier_final", "verifiers_completed",
  "verifier_overridden", "preview_published"]

/-- The latest payload on record, for each of these kinds. -/
abbrev Table := String → Option Payload

def tableOf (h : FlowHistory) : Table :=
  fun kind => if kind ∈ sources then (recorded kind h).getLast? else none

/-- The events on record say of `state` what it holds. -/
structure Rendered (params : FlowInput) (state : FlowState) (T : Table) : Prop where
  tests : ∃ verdict, state.ciResult = some verdict ∧ verdict.exitCode = 0 ∧
    T "build_test_verdict" = some (verdictPayload state verdict)
  isolation : T "sandbox_isolation" = state.sandboxIsolation.map fun isolation =>
    .sandboxIsolation isolation state.sandboxGaps
  tier : ∃ provisional changed, state.provisionalRiskTier = some provisional ∧
    T "risk_tier_final" = some (.riskTierFinal state.riskTier provisional
      state.riskTierReason changed)
  reason : state.riskTierReason ≠ ""
  verifications : ∃ passed total names, T "verifiers_completed" =
    some (.verifiersCompleted passed total names (state.verifications.map verdictRow))
  overridden : T "verifier_overridden" = if state.advisoryObjections = [] then none
    else some (.verifierOverridden state.advisoryObjections overriddenDetail)
  /-- Whoever objected is among those that were overridden. -/
  objections : state.advisoryObjections =
    (state.verifications.filter fun v => !v.passed).map Verification.verifier
  unopposed : Unopposed params state.verifications
  preview : T "preview_published" = none ∨ ∃ url commit, url ≠ "" ∧
    nonEmpty state.headCommit = some commit ∧
    T "preview_published" = some (.previewPublished url commit)

/-- Every human who was awaited was awaited on this table. -/
def Awaited (T : Table) (h : FlowHistory) : Prop :=
  CallsMeet (fun h op => ∀ needed, op = .waitCondition needed → tableOf h = T) h

/-- What the past holds when a human is awaited, and when Release is called: nothing was
added in between. -/
def MayShow (params : FlowInput) (h : FlowHistory) : FlowOp → Prop
  | .waitCondition _ => ∃ state, Rendered params state (tableOf h)
  | .runNode nodeId _ state => nodeId = "release" →
      Rendered params state (tableOf h) ∧ Awaited (tableOf h) h
  | _ => True

/-! ## The table -/

theorem recorded_append {kind : String} {h : FlowHistory}
    {l : Label FlowOp FlowRep FlowMove} (silent : ∀ event, mainOf l = some event →
      event.kind ≠ kind) : recorded kind (h ++ [l]) = recorded kind h := by
  rw [recorded_concat]
  refine (List.append_right_eq_self).mpr ?_
  cases l with
  | reply op r =>
      cases op with
      | recordEvent event => exact if_neg (silent event rfl)
      | _ => rfl
  | _ => rfl

theorem tableOf_silent {h : FlowHistory} {l : Label FlowOp FlowRep FlowMove}
    (silent : ∀ event, mainOf l = some event → event.kind ∉ sources) :
    tableOf (h ++ [l]) = tableOf h := by
  funext kind
  unfold tableOf
  by_cases source : kind ∈ sources
  · rw [if_pos source, if_pos source, recorded_append]
    exact fun event found same => silent event found (same ▸ source)
  · rw [if_neg source, if_neg source]

theorem tableOf_recorded {h : FlowHistory} {event : EventRecorded}
    {r : FlowRep (.recordEvent event)} (source : event.kind ∈ sources) :
    tableOf (h ++ [.reply (.recordEvent event) r]) =
      Function.update (tableOf h) event.kind (some event.payload) := by
  funext kind
  by_cases same : kind = event.kind
  · subst same
    rw [Function.update_self, tableOf, if_pos source, recorded_concat, recordOf, if_pos rfl,
      List.getLast?_concat]
  · rw [Function.update_of_ne same]
    unfold tableOf
    rw [recorded_append]
    rintro other found rfl
    cases found
    exact same rfl

theorem tableOf_call {h : FlowHistory} {op : FlowOp} :
    tableOf (h ++ [.call op]) = tableOf h := tableOf_silent fun _ absurd => nomatch absurd

theorem tableOf_moves {h : FlowHistory} (moves : List FlowMove) :
    tableOf (h ++ moves.map .env) = tableOf h := by
  induction moves generalizing h with
  | nil => rw [List.map_nil, List.append_nil]
  | cons l rest ih =>
      rw [List.map_cons, ← List.singleton_append, ← List.append_assoc, ih]
      exact tableOf_silent fun _ absurd => nomatch absurd

/-! ## Calls that leave the table as it is -/

/-- What the main line calls on its way to the gate, but for the events above. -/
def Unsourced : FlowOp → Prop
  | .recordEvent event => event.kind ∉ sources
  | .waitCondition _ => False
  | .runNode nodeId _ _ => nodeId ≠ "release"
  | _ => True

/-- What it calls from the gate until Release. -/
def Still : FlowOp → Prop
  | .waitCondition _ => True
  | op => Unsourced op

/-- What it calls after that. -/
def Neutral : FlowOp → Prop
  | .waitCondition _ => False
  | .runNode nodeId _ _ => nodeId ≠ "release"
  | _ => True

section Calls

variable {obj : Obj} {state : FlowState} {ops : FlowOp → Prop}

theorem emit_unsourced {kind : String} {payload : Payload} {nodeId mode : Option String}
    (other : kind ∉ sources) : (emit kind payload nodeId mode).Only Unsourced :=
  record_only fun _ => other

theorem node_outcome_unsourced {nodeId : String} {record : Bool}
    {reply : Except PyError FlowState} : (nodeOutcome nodeId record reply).Only Unsourced := by
  cases reply with
  | error exc => exact Task.only_bind (emit_unsourced (by decide)) fun _ => Task.only_raise _
  | ok state =>
      refine Task.only_bind publish_only fun result => ?_
      split
      · exact Task.only_bind (emit_unsourced (by decide)) fun _ => mutate_only
      · exact Task.only_pure _

theorem node_step_unsourced {nodeId : String} (other : nodeId ≠ "release") :
    (nodeStep nodeId state).Only Unsourced := by
  have executed : (execute nodeId state).Only Unsourced :=
    Task.only_bind Task.only_read fun _ => Task.only_call other
  exact Task.only_bind (Task.only_update _) fun _ =>
    Task.only_bind (emit_unsourced (by decide)) fun _ =>
    Task.only_bind executed fun _ => node_outcome_unsourced

theorem neutral_of_plain : ∀ op, Plain op → Neutral op := by
  intro op plain
  cases op with
  | runNode nodeId activityId state =>
      rintro rfl
      exact absurd (by decide) plain.1
  | waitCondition needed => cases plain
  | _ => trivial

theorem ending_neutral {params : FlowInput} {outcome : Except FlowExc Obj} :
    (ending params obj outcome).Only Neutral := by
  refine ending_only neutral_of_plain ?_ fun _ _ => show "compensate" ≠ "release" by decide
  intro op ends
  cases op <;> trivial

end Calls

variable {W Lbl : Type} {adapters : Adapters W Lbl} {worker : Worker} {params : FlowInput}

/-! ## Up to the gate -/

/-- This is the table. Every call so far was one that may be made, and nobody was awaited. -/
structure Drafting (params : FlowInput) (T : Table) (h : FlowHistory) : Prop where
  met : CallsMeet (MayShow params) h
  table : tableOf h = T
  alone : ∀ needed, .call (.waitCondition needed) ∉ h

theorem Drafting.past {T T' : Table} {h : FlowHistory} {l : Label FlowOp FlowRep FlowMove}
    (drafting : Drafting params T h) (other : ∀ op, l ≠ .call op)
    (table : tableOf (h ++ [l]) = T') : Drafting params T' (h ++ [l]) where
  met := (callsMeet_append_other other).mpr drafting.met
  table := table
  alone := by
    intro needed mem
    rcases List.mem_append.mp mem with old | new
    · exact drafting.alone needed old
    · exact other _ (List.mem_singleton.mp new).symm

theorem Drafting.called {T : Table} {h : FlowHistory} {op : FlowOp}
    (drafting : Drafting params T h) (silent : ∀ needed, op ≠ .waitCondition needed)
    (release : ∀ activityId state, op ≠ .runNode "release" activityId state) :
    Drafting params T (h ++ [.call op]) where
  met := by
    refine callsMeet_append_call.mpr ⟨drafting.met, ?_⟩
    cases op with
    | waitCondition needed => exact absurd rfl (silent needed)
    | runNode nodeId activityId state =>
        rintro rfl
        exact absurd rfl (release activityId state)
    | _ => trivial
  table := tableOf_call.trans drafting.table
  alone := by
    intro needed mem
    rcases List.mem_append.mp mem with old | new
    · exact drafting.alone needed old
    · cases List.mem_singleton.mp new
      exact silent needed rfl

variable (adapters worker params) in
/-- From this table, `t` makes no call that it may not, and returns one that `Q` tells. -/
def Drafts {α : Type} (t : Flow α) (T : Table) (Q : α → Table → Prop) : Prop :=
  ∀ s w h, Drafting params T h → t.wp (system adapters worker)
    (fun _ _ h => CallsMeet (MayShow params) h)
    (fun r _ _ h => CallsMeet (MayShow params) h ∧
      ∀ a, r = .ok a → ∃ T', Q a T' ∧ Drafting params T' h) s w h

namespace Drafts

variable {α β : Type} {t : Flow α} {f : α → Flow β} {a : α} {T : Table}
  {P Q : α → Table → Prop} {R : β → Table → Prop}

theorem pure (held : Q a T) : Drafts adapters worker params (Pure.pure a : Flow α) T Q := by
  intro s w h drafting
  refine ⟨drafting.met, ?_⟩
  rintro _ ⟨⟩
  exact ⟨T, held, drafting⟩

theorem raise {e : FlowExc} :
    Drafts adapters worker params (Task.raise e : Flow α) T Q := by
  intro s w h drafting
  refine ⟨drafting.met, ?_⟩
  intro a absurd
  cases absurd

theorem mono (ht : Drafts adapters worker params t T P) (hQ : ∀ a T', P a T' → Q a T') :
    Drafts adapters worker params t T Q := by
  intro s w h drafting
  refine Task.wp_mono (ht s w h drafting) ?_
  rintro r s' w' h' ⟨met, returned⟩
  refine ⟨met, fun a same => ?_⟩
  obtain ⟨T', held, drafting'⟩ := returned a same
  exact ⟨T', hQ a T' held, drafting'⟩

theorem wp_bind {s : DeliveryFlow} {w : FlowWorld W} {h : FlowHistory}
    {Q : Except FlowExc β → Assertion DeliveryFlow (FlowWorld W) FlowOp FlowRep FlowMove}
    (ht : Drafts adapters worker params t T P) (drafting : Drafting params T h)
    (raised : ∀ e s w h, CallsMeet (MayShow params) h → Q (.error e) s w h)
    (hf : ∀ a T' s w h, P a T' → Drafting params T' h → (f a).wp (system adapters worker)
      (fun _ _ h => CallsMeet (MayShow params) h) Q s w h) :
    (t >>= f).wp (system adapters worker) (fun _ _ h => CallsMeet (MayShow params) h) Q
      s w h := by
  refine Task.wp_bind.mpr (Task.wp_mono (ht s w h drafting) ?_)
  rintro (e | a) s' w' h' ⟨met, returned⟩
  · exact raised e s' w' h' met
  · obtain ⟨T', held, drafting'⟩ := returned a rfl
    exact hf a T' s' w' h' held drafting'

theorem bind (ht : Drafts adapters worker params t T P)
    (hf : ∀ a T', P a T' → Drafts adapters worker params (f a) T' R) :
    Drafts adapters worker params (t >>= f) T R := by
  intro s w h drafting
  refine ht.wp_bind drafting ?_ fun a T' s w h held drafting' => hf a T' held s w h drafting'
  intro e s w h met
  refine ⟨met, ?_⟩
  intro b absurd
  cases absurd

theorem raise_bind {e : FlowExc} : Drafts adapters worker params (Task.raise e >>= f) T R :=
  raise

/-- What records nothing of the sort. -/
theorem quiet (only : t.Only Unsourced) :
    Drafts adapters worker params t T fun _ T' => T' = T := by
  intro s w h drafting
  have still : ∀ {l : Label FlowOp FlowRep FlowMove} {h}, Drafting params T h →
      (∀ op, l ≠ .call op) → (∀ event, mainOf l = some event → event.kind ∉ sources) →
      Drafting params T (h ++ [l]) := by
    intro l h drafting other silent
    exact drafting.past other ((tableOf_silent silent).trans drafting.table)
  have kept : t.Keeps (system adapters worker) fun _ _ h => Drafting params T h := by
    refine only.keeps ?_ ?_ ?_
    · intro w h op silent drafting
      refine drafting.called ?_ ?_
      · rintro needed rfl
        cases silent
      · rintro activityId state rfl
        exact silent rfl
    · intro s w h l s' w' drafting _
      exact still drafting (by simp) fun _ absurd => nomatch absurd
    · intro s w h op r s' w' silent drafting _
      refine still drafting (by simp) fun event recorded => ?_
      cases op with
      | recordEvent other =>
          cases recorded
          exact silent
      | _ => cases recorded
  refine Proc.wp_mono _ _ _ (kept s w h drafting) (fun _ _ _ held => held.met) ?_
  intro r s' w' h' held
  exact ⟨held.met, fun a _ => ⟨T, rfl, held⟩⟩

theorem quiet_bind (only : t.Only Unsourced)
    (hf : ∀ a, Drafts adapters worker params (f a) T R) :
    Drafts adapters worker params (t >>= f) T R := by
  refine (quiet only).bind ?_
  rintro a _ rfl
  exact hf a

theorem mutate_bind {obj : Obj} {f : FlowState → FlowState} {t : Obj → Flow β}
    (ht : Drafts adapters worker params (t { obj with val := f obj.val }) T R) :
    Drafts adapters worker params (mutate obj f >>= t) T R :=
  fun _ w h drafting => ht _ w h drafting

/-- An event that the document is made from. -/
theorem emit {kind : String} {payload : Payload} {nodeId mode : Option String}
    (source : kind ∈ sources) : Drafts adapters worker params (emit kind payload nodeId mode) T
      fun _ T' => T' = Function.update T kind (some payload) := by
  intro s w h drafting
  refine emit_wp (fun _ _ _ h => Drafting params T h) ?_ ?_ (fun _ _ _ _ held => held.met) ?_
  · intro event s w h l s' w' held _
    refine held.past (by simp) ((tableOf_silent fun event recorded => ?_).trans held.table)
    cases recorded
  · exact drafting.called (by simp) (by simp)
  · intro s' w' h' held
    have next := held.past (by simp) (@tableOf_recorded h'
      ⟨s.seq + 1, kind, nodeId, payload, mode⟩ () source)
    rw [held.table] at next
    exact ⟨next.met, fun _ _ => ⟨_, rfl, next⟩⟩

theorem emit_bind {kind : String} {payload : Payload} {nodeId mode : Option String}
    {t : Unit → Flow β} (source : kind ∈ sources)
    (ht : Drafts adapters worker params (t ()) (Function.update T kind (some payload)) R) :
    Drafts adapters worker params (Flow.emit kind payload nodeId mode >>= t) T R := by
  refine (emit source).bind ?_
  rintro _ _ rfl
  exact ht

/-! ### The stretches -/

theorem pass {attempt : Nat} {obj : Obj} :
    Drafts adapters worker params (pass attempt obj) T fun obj' T' =>
      match obj'.val.ciResult with
      | none => T' = T
      | some verdict => T' =
          Function.update T "build_test_verdict" (some (verdictPayload obj'.val verdict)) := by
  refine mutate_bind (quiet_bind (node_step_unsourced (by decide)) fun _ =>
    quiet_bind (node_step_unsourced (by decide)) fun _ =>
    quiet_bind (emit_unsourced (by decide)) fun _ =>
    quiet_bind (Task.only_call trivial) fun _ =>
    quiet_bind (node_step_unsourced (by decide)) fun built => ?_)
  cases found : built.val.ciResult with
  | none =>
      refine pure ?_
      rw [found]
  | some verdict =>
      refine emit_bind (by decide) (pure ?_)
      rw [found]

/-- Only the verdict that ends the cycle is left. -/
theorem cycle {attempts : List Nat} {obj : Obj} :
    Drafts adapters worker params (cycle attempts obj) T fun obj' T' =>
      ∃ verdict, obj'.val.ciResult = some verdict ∧ verdict.exitCode = 0 ∧ T' =
        Function.update T "build_test_verdict" (some (verdictPayload obj'.val verdict)) := by
  induction attempts generalizing T obj with
  | nil => exact raise
  | cons attempt rest ih =>
      refine pass.bind ?_
      intro built T₁ left
      split
      next done =>
        obtain ⟨verdict, found, zero⟩ := green_iff.mp done
        rw [found] at left
        exact pure ⟨verdict, found, zero, left⟩
      next =>
        refine ih.mono ?_
        rintro obj' T₂ ⟨verdict, found, zero, rfl⟩
        refine ⟨verdict, found, zero, ?_⟩
        split at left
        · rw [left]
        · rw [left, Function.update_idem]

/-- An event that is recorded only if there is something to say. -/
theorem update_none {kind : String} (unrecorded : T kind = none) :
    Function.update T kind none = T := by
  rw [← unrecorded, Function.update_eq_self]

theorem reportIsolation {state : FlowState} (unrecorded : T "sandbox_isolation" = none) :
    Drafts adapters worker params (reportIsolation state) T fun _ T' =>
      T' = Function.update T "sandbox_isolation" (state.sandboxIsolation.map fun isolation =>
        .sandboxIsolation isolation state.sandboxGaps) := by
  unfold Flow.reportIsolation
  cases state.sandboxIsolation with
  | none => exact pure (update_none unrecorded).symm
  | some isolation => exact emit (by decide)

theorem settleTier {obj : Obj} :
    Drafts adapters worker params (settleTier params obj) T fun obj' T' =>
      obj'.val = settled params obj.val ∧ T' = Function.update T "risk_tier_final"
        (some (tierMark params obj.val).2) :=
  mutate_bind (emit_bind (by decide) (pure ⟨rfl, rfl⟩))

theorem collect {results : List (String × Obj)} {obj : Obj} :
    Drafts adapters worker params (collect results obj) T fun obj' T' => T' = T ∧
      ∃ verifications, obj'.val = { obj.val with verifications := verifications } := by
  induction results generalizing obj with
  | nil => exact pure ⟨rfl, _, rfl⟩
  | cons result rest ih =>
      have taken : ∀ verifications, Drafts adapters worker params
          (Flow.collect rest ⟨obj.id, { obj.val with verifications := verifications }⟩) T
            fun obj' T' => T' = T ∧
              ∃ verifications, obj'.val = { obj.val with verifications := verifications } :=
        fun _ => ih
      refine mutate_bind ?_
      dsimp only
      split
      · exact quiet_bind (emit_unsourced (by decide)) fun _ => mutate_bind (taken _)
      · exact mutate_bind (taken _)

/-- The fan-out is recorded with the verdicts that the state has taken over. -/
theorem verify {obj : Obj} :
    Drafts adapters worker params (verify obj) T fun obj' T' =>
      (∃ spend verifications, obj'.val = { obj.val with
        spendMicroCents := spend
        verifications := verifications }) ∧
      ∃ passed total names, T' = Function.update T "verifiers_completed"
        (some (.verifiersCompleted passed total names
          (obj'.val.verifications.map verdictRow))) := by
  refine quiet_bind (emit_unsourced (by decide)) fun _ =>
    quiet_bind (Task.only_call trivial) fun _ => quiet_bind (Task.only_call trivial) fun _ =>
    quiet_bind (Task.only_ofExcept _) fun _ => mutate_bind (collect.bind ?_)
  rintro checked _ ⟨rfl, verifications, same⟩
  exact emit_bind (by decide) (quiet_bind (Task.only_update _) fun _ =>
    pure ⟨⟨_, verifications, same⟩, _, _, _, rfl⟩)

/-- Where nobody who may block objected, whoever objected was overridden. -/
theorem spared {verifications : List Verification}
    (none : (verifications.filter fun v => !v.passed).filter
      (fun v => (blockingSet params).contains v.verifier) = []) :
    (verifications.filter fun v => !v.passed).filter
        (fun v => !(blockingSet params).contains v.verifier) =
      (verifications.filter fun v => !v.passed) ∧ Unopposed params verifications := by
  have others := List.filter_eq_nil_iff.mp none
  constructor
  · refine List.filter_eq_self.mpr fun v mem => ?_
    simpa using others v mem
  · intro v mem blocks
    by_contra failed
    refine others v (List.mem_filter.mpr ⟨mem, ?_⟩) (List.contains_iff_mem.mpr blocks)
    rw [Bool.eq_false_iff.mpr failed, Bool.not_false]

theorem judge {obj : Obj} (unrecorded : T "verifier_overridden" = none) :
    Drafts adapters worker params (judge params obj) T fun obj' T' =>
      obj'.val = { obj.val with advisoryObjections :=
        (obj.val.verifications.filter fun v => !v.passed).map Verification.verifier } ∧
      Unopposed params obj.val.verifications ∧
      T' = Function.update T "verifier_overridden" (if obj'.val.advisoryObjections = [] then none
        else some (.verifierOverridden obj'.val.advisoryObjections overriddenDetail)) := by
  refine mutate_bind ?_
  dsimp only
  split
  next some =>
    refine emit_bind (by decide) ?_
    split
    · exact raise_bind
    next none =>
      obtain ⟨all, unopposed⟩ := spared (not_not.mp none)
      refine pure ⟨?_, unopposed, ?_⟩
      · rw [all]
      · rw [if_neg some]
  next empty =>
    split
    · exact raise_bind
    next none =>
      obtain ⟨all, unopposed⟩ := spared (not_not.mp none)
      refine pure ⟨?_, unopposed, ?_⟩
      · rw [all]
      · rw [if_pos (not_not.mp empty), update_none unrecorded]

theorem publishPreview {state : FlowState} :
    Drafts adapters worker params (publishPreview state) T fun _ T' => T' = T ∨
      ∃ url commit, url ≠ "" ∧ nonEmpty state.headCommit = some commit ∧
        T' = Function.update T "preview_published" (some (.previewPublished url commit)) := by
  unfold Flow.publishPreview
  cases found : nonEmpty state.headCommit with
  | none => exact pure (.inl rfl)
  | some commit =>
      refine quiet_bind (Task.only_call trivial) fun url => ?_
      split
      next published =>
        refine (emit (by decide)).mono ?_
        rintro _ _ rfl
        exact .inr ⟨url, commit, published, rfl, rfl⟩
      next => exact pure (.inl rfl)

end Drafts

/-! ## At the gate -/

/-- This is still the table, and everybody was awaited on it. -/
structure Waited (params : FlowInput) (T : Table) (h : FlowHistory) : Prop where
  met : CallsMeet (MayShow params) h
  table : tableOf h = T
  awaited : Awaited T h

theorem Drafting.waited {T : Table} {h : FlowHistory} (drafting : Drafting params T h) :
    Waited params T h where
  met := drafting.met
  table := drafting.table
  awaited := by
    rintro before _ after split needed rfl
    refine absurd ?_ (drafting.alone needed)
    rw [split]
    exact List.mem_append_right _ List.mem_cons_self

section Gate

variable {state : FlowState} {T : Table}

theorem waited_past {h : FlowHistory} {l : Label FlowOp FlowRep FlowMove}
    (waited : Waited params T h) (other : ∀ op, l ≠ .call op)
    (silent : ∀ event, mainOf l = some event → event.kind ∉ sources) :
    Waited params T (h ++ [l]) where
  met := (callsMeet_append_other other).mpr waited.met
  table := (tableOf_silent silent).trans waited.table
  awaited := (callsMeet_append_other other).mpr waited.awaited

/-- Nothing is added while a human is awaited. -/
theorem waited_keeps {α : Type} {t : Flow α} (rendered : Rendered params state T)
    (only : t.Only Still) : t.Keeps (system adapters worker) fun _ _ h => Waited params T h := by
  refine only.keeps ?_ (fun waited _ => waited_past waited (by simp) fun _ absurd => nomatch absurd)
    ?_
  · intro w h op still waited
    refine ⟨callsMeet_append_call.mpr ⟨waited.met, ?_⟩, tableOf_call.trans waited.table,
      callsMeet_append_call.mpr ⟨waited.awaited, fun _ _ => waited.table⟩⟩
    cases op with
    | waitCondition needed =>
        refine ⟨state, ?_⟩
        rw [waited.table]
        exact rendered
    | runNode nodeId activityId given =>
        rintro rfl
        exact absurd rfl still
    | _ => trivial
  · intro s w h op r s' w' still waited _
    refine waited_past waited (by simp) fun event recorded => ?_
    cases op with
    | recordEvent other =>
        cases recorded
        exact still
    | _ => cases recorded

/-- Approvals are not shown. -/
theorem Rendered.approved (rendered : Rendered params state T) (approvals : List Approval) :
    Rendered params { state with approvals := approvals } T :=
  ⟨rendered.tests, rendered.isolation, rendered.tier, rendered.reason, rendered.verifications,
    rendered.overridden, rendered.objections, rendered.unopposed, rendered.preview⟩

theorem Rendered.previewed {url commit : String} (rendered : Rendered params state T)
    (published : url ≠ "") (found : nonEmpty state.headCommit = some commit) :
    Rendered params state (Function.update T "preview_published"
      (some (.previewPublished url commit))) := by
  have other : ∀ kind, kind ≠ "preview_published" → Function.update T "preview_published"
      (some (.previewPublished url commit)) kind = T kind := fun kind other =>
    Function.update_of_ne other _ _
  refine ⟨?_, ?_, ?_, rendered.reason, ?_, ?_, rendered.objections, rendered.unopposed, ?_⟩
  · rw [other _ (by decide)]
    exact rendered.tests
  · rw [other _ (by decide)]
    exact rendered.isolation
  · rw [other _ (by decide)]
    exact rendered.tier
  · rw [other _ (by decide)]
    exact rendered.verifications
  · rw [other _ (by decide)]
    exact rendered.overridden
  · exact .inr ⟨url, commit, published, found, Function.update_self ..⟩

/-- What is handed on is what was on record while a human was awaited. -/
def Shown (params : FlowInput) :
    Except FlowExc Obj → Assertion DeliveryFlow (FlowWorld W) FlowOp FlowRep FlowMove :=
  fun r _ _ h => CallsMeet (MayShow params) h ∧ ∀ obj, r = .ok obj → ∃ T,
    Rendered params obj.val T ∧ Waited params T h

theorem shown_error {e : FlowExc} {s : DeliveryFlow} {w : FlowWorld W} {h : FlowHistory}
    (met : CallsMeet (MayShow params) h) : Shown params (.error e) s w h :=
  ⟨met, fun _ absurd => nomatch absurd⟩

theorem emit_still {kind : String} {payload : Payload} {nodeId mode : Option String}
    (other : kind ∉ sources) : (emit kind payload nodeId mode).Only Still :=
  record_only fun _ => other

theorem suspend_still {needed : Nat} : (suspend needed state).Only Still := by
  refine suspend_only fun op suspends => ?_
  cases op <;> trivial

theorem still_bind {α β : Type} {t : Flow α} {f : α → Flow β} {s : DeliveryFlow}
    {w : FlowWorld W} {h : FlowHistory}
    {Q : Except FlowExc β → Assertion DeliveryFlow (FlowWorld W) FlowOp FlowRep FlowMove}
    (rendered : Rendered params state T) (only : t.Only Still) (waited : Waited params T h)
    (raised : ∀ e s w h, CallsMeet (MayShow params) h → Q (.error e) s w h)
    (hf : ∀ a s w h, Waited params T h → (f a).wp (system adapters worker)
      (fun _ _ h => CallsMeet (MayShow params) h) Q s w h) :
    (t >>= f).wp (system adapters worker) (fun _ _ h => CallsMeet (MayShow params) h) Q
      s w h := by
  have kept : t.Keeps (system adapters worker) fun _ _ h => Waited params T h :=
    waited_keeps rendered only
  refine Task.wp_bind.mpr (Proc.wp_mono _ _ _ (kept s w h waited) (fun _ _ _ held => held.met) ?_)
  rintro (e | a) s' w' h' held
  · exact raised e s' w' h' held.met
  · exact hf a s' w' h' held

theorem gate_shown {obj : Obj} {s : DeliveryFlow} {w : FlowWorld W} {h : FlowHistory}
    (rendered : Rendered params obj.val T) (drafting : Drafting params T h) :
    (gate obj).wp (system adapters worker) (fun _ _ h => CallsMeet (MayShow params) h)
      (Shown params) s w h := by
  refine Drafts.publishPreview.wp_bind drafting (fun _ _ _ _ => shown_error) ?_
  intro _ T₁ s₁ w₁ h₁ previewed drafting₁
  have shown : Rendered params obj.val T₁ := by
    rcases previewed with rfl | ⟨url, commit, published, found, rfl⟩
    · exact rendered
    · exact rendered.previewed published found
  refine (Drafts.quiet (emit_unsourced (by decide))).wp_bind drafting₁
    (fun _ _ _ _ => shown_error) ?_
  intro _ T₂ s₂ w₂ h₂ same drafting₂
  rw [same] at drafting₂
  have passes : ∀ {auto obj' s w h}, Rendered params obj'.val T₁ → Waited params T₁ h →
      (do
        emit "gate_passed" (.gatePassed auto)
        return obj' : Flow Obj).wp (system adapters worker)
          (fun _ _ h => CallsMeet (MayShow params) h) (Shown params) s w h := by
    intro auto obj' s w h shown' waited
    refine still_bind shown' (emit_still (by decide)) waited (fun _ _ _ _ => shown_error) ?_
    intro _ s w h waited'
    exact ⟨waited'.met, fun _ same => ⟨T₁, Except.ok.inj same ▸ shown', waited'⟩⟩
  split
  · exact passes shown drafting₂.waited
  · refine still_bind shown suspend_still drafting₂.waited (fun _ _ _ _ => shown_error) ?_
    intro signals s₃ w₃ h₃ waited
    have counted := shown.approved (signals.map (approvalOf obj.val.riskTier))
    refine mutate_bind fun s₄ => ?_
    split
    · refine still_bind counted (emit_still (by decide)) waited (fun _ _ _ _ => shown_error) ?_
      intro _ s w h rejected
      exact (Task.wp_raise _).mpr (shown_error rejected.met)
    · exact passes counted waited

end Gate

/-! ## A whole run -/

section Run

variable {s : DeliveryFlow} {w : FlowWorld W} {h : FlowHistory}

theorem reason_ne_empty {current : RiskTier} {diff : Option Diff} {rules : RiskRules} :
    (tierForDiff current diff rules).2 ≠ "" := by
  unfold tierForDiff
  dsimp only
  split
  · simp
  · split
    · simp
    · split
      · simp
      · split <;> simp

/-- The state that comes to the gate. -/
def judged (params : FlowInput) (built : FlowState) (spend : Option Int)
    (verifications : List Verification) : FlowState :=
  { settled params built with
    spendMicroCents := spend
    verifications := verifications
    advisoryObjections :=
      (verifications.filter fun v => !v.passed).map Verification.verifier }

/-- What the stretches before the gate leave, put together. -/
theorem rendered_judged {built : FlowState} {verdict : CIResult} {spend : Option Int}
    {verifications : List Verification} {passed total : Nat} {names : List String}
    (found : built.ciResult = some verdict) (zero : verdict.exitCode = 0)
    (unopposed : Unopposed params verifications) :
    Rendered params (judged params built spend verifications)
      (Function.update (Function.update (Function.update (Function.update
        (Function.update (fun _ => none)
          "build_test_verdict" (some (verdictPayload built verdict)))
          "sandbox_isolation" (built.sandboxIsolation.map fun isolation =>
            .sandboxIsolation isolation built.sandboxGaps))
          "risk_tier_final" (some (tierMark params built).2))
          "verifiers_completed"
            (some (.verifiersCompleted passed total names (verifications.map verdictRow))))
          "verifier_overridden"
            (if (judged params built spend verifications).advisoryObjections = [] then none
            else some (.verifierOverridden
              (judged params built spend verifications).advisoryObjections
              overriddenDetail))) := by
  refine ⟨⟨verdict, found, zero, ?_⟩, ?_,
    ⟨built.riskTier, (built.diff.map fun d => d.files.length).getD 0, rfl, ?_⟩, reason_ne_empty,
    ⟨passed, total, names, ?_⟩, ?_, rfl, unopposed, .inl ?_⟩
  all_goals simp only [Function.update_apply, String.reduceEq, if_true, if_false]
  all_goals rfl

theorem approach_shown {obj : Obj} (drafting : Drafting params (fun _ => none) h) :
    (approach params obj).wp (system adapters worker) (fun _ _ h => CallsMeet (MayShow params) h)
      (Shown params) s w h := by
  have raised : ∀ (e : FlowExc) (s : DeliveryFlow) (w : FlowWorld W) h,
      CallsMeet (MayShow params) h → Shown params (.error e) s w h := fun _ _ _ _ => shown_error
  refine (Drafts.quiet (node_step_unsourced (by decide))).wp_bind drafting raised ?_
  intro triage _ s w h same drafting
  rw [same] at drafting
  refine (Drafts.quiet (node_step_unsourced (by decide))).wp_bind drafting raised ?_
  intro planner _ s w h same drafting
  rw [same] at drafting
  refine Drafts.cycle.wp_bind drafting raised ?_
  rintro built _ s w h ⟨verdict, found, zero, rfl⟩ drafting
  refine (Drafts.reportIsolation ?_).wp_bind drafting raised ?_
  · rw [Function.update_of_ne (by decide)]
  rintro _ _ s w h rfl drafting
  refine Drafts.settleTier.wp_bind drafting raised ?_
  rintro tiered _ s w h ⟨tieredIs, rfl⟩ drafting
  refine Drafts.verify.wp_bind drafting raised ?_
  rintro checked _ s w h ⟨⟨spend, verifications, checkedIs⟩, passed, total, names, rfl⟩ drafting
  refine (Drafts.judge ?_).wp_bind drafting raised ?_
  · simp only [Function.update_apply, String.reduceEq, if_false]
  rintro obj' _ s w h ⟨judgedIs, unopposed, rfl⟩ drafting
  refine gate_shown ?_ drafting
  have at_gate : obj'.val = judged params built.val spend verifications := by
    rw [judgedIs, checkedIs, tieredIs]
    rfl
  have kept : checked.val.verifications = verifications := by rw [checkedIs]
  rw [kept] at unopposed
  rw [at_gate, kept]
  exact rendered_judged found zero unopposed

theorem neutral_keeps {α : Type} {t : Flow α} (only : t.Only Neutral) :
    t.Keeps (system adapters worker) fun _ _ h => CallsMeet (MayShow params) h := by
  refine only.keeps ?_ (fun met _ => (callsMeet_append_other (by simp)).mpr met)
    fun _ met _ => (callsMeet_append_other (by simp)).mpr met
  intro _ h op neutral met
  refine callsMeet_append_call.mpr ⟨met, ?_⟩
  cases op with
  | waitCondition needed => cases neutral
  | runNode nodeId activityId state =>
      rintro rfl
      exact absurd rfl neutral
  | _ => trivial

/-- Release is called on the table that the gate was opened on. -/
theorem release_shown {state : FlowState} {T : Table} (rendered : Rendered params state T)
    (waited : Waited params T h) :
    (nodeStep "release" state).wp (system adapters worker)
      (fun _ _ h => CallsMeet (MayShow params) h) (fun _ _ _ h => CallsMeet (MayShow params) h)
      s w h := by
  refine Task.wp_bind.mpr ((Task.wp_update _).mpr ?_)
  refine still_bind rendered (emit_still (by decide)) waited (fun _ _ _ _ met => met) ?_
  intro _ s₁ w₁ h₁ waited₁
  refine Task.wp_bind.mpr (Task.wp_bind.mpr (Task.wp_read.mpr (Task.wp_call.mpr ?_)))
  intro s₂ w₂ h₂ drift
  have met₂ : CallsMeet (MayShow params) h₂ := by
    refine (callsMeet_drift drift).mpr (callsMeet_append_call.mpr ⟨waited₁.met, fun _ => ?_⟩)
    rw [waited₁.table]
    exact ⟨rendered, waited₁.awaited⟩
  refine ⟨met₂, fun reply s₃ w₃ _ => ?_⟩
  exact neutral_keeps (outcome_only fun _ _ => trivial) s₃ w₃ _
    ((callsMeet_append_other (by simp)).mpr met₂)

theorem deliver_shown {obj : Obj} (drafting : Drafting params (fun _ => none) h) :
    (deliver params obj).wp (system adapters worker)
      (fun _ _ h => CallsMeet (MayShow params) h) (fun _ _ _ h => CallsMeet (MayShow params) h)
      s w h := by
  refine Task.wp_bind.mpr (Task.wp_mono (approach_shown drafting) ?_)
  rintro (e | obj₁) s₁ w₁ h₁ ⟨met₁, shown⟩
  · exact met₁
  · obtain ⟨T, rendered, waited⟩ := shown _ rfl
    refine Task.wp_bind.mpr (Task.wp_mono (release_shown rendered waited) ?_)
    rintro (e | obj₂) s₂ w₂ h₂ met₂
    · exact met₂
    · have reported : (reportEffect obj₂.val).Only Neutral := report_effect_only neutral_of_plain
      exact neutral_keeps (Task.only_bind reported fun _ => Task.only_pure obj₂) s₂ w₂ h₂ met₂

theorem run_shown (a : W) :
    (run params).wp (system adapters worker) (fun _ _ h => CallsMeet (MayShow params) h)
      (fun _ _ _ h => CallsMeet (MayShow params) h) {} ⟨a, {}, .empty⟩ [] := by
  have start : Drafting params (fun _ => none) [] := by
    refine ⟨callsMeet_nil _, ?_, by simp⟩
    funext kind
    exact ite_self _
  have began : (Task.call (FlowOp.recordRunStarted (started params)) :
      Flow Unit).Only Unsourced := Task.only_call trivial
  refine Task.wp_bind.mpr (Task.wp_bind.mpr ?_)
  refine (Drafts.quiet began).wp_bind start (fun _ _ _ _ met => met) ?_
  intro _ T s₁ w₁ h₁ same drafting
  rw [same] at drafting
  refine Task.wp_bind.mpr (Task.wp_attempt.mpr (Task.wp_mono (deliver_shown drafting) ?_))
  intro outcome s₂ w₂ h₂ met₂
  exact neutral_keeps ending_neutral s₂ w₂ h₂ met₂

end Run

/-! ## Read off the trail -/

theorem recorded_eq_mains {kind : String} {h : FlowHistory} :
    recorded kind h =
      ((mains h).filter fun event => event.kind = kind).map EventRecorded.payload := by
  induction h with
  | nil => rfl
  | cons l rest ih =>
      have split : recorded kind (l :: rest) = recordOf kind l ++ recorded kind rest :=
        List.flatMap_cons
      cases l with
      | reply op r =>
          cases op with
          | recordEvent event =>
              have more : mains (.reply (.recordEvent event) r :: rest) =
                  event :: mains rest := rfl
              rw [split, ih, more]
              by_cases same : event.kind = kind <;> simp [recordOf, same]
          | _ => exact split.trans ih
      | _ => exact split.trans ih

/-- The document is made from what the main line recorded last of each kind. -/
theorem payload_of_eq {c : FlowConfig W} {trail : List EventRecorded} {rows : List Evidence.Row}
    (sorted : Sorted c.proc.state c.world c.history) (persisted : Persisted c trail)
    (read : rows.map Evidence.Row.event = ordered trail) {kind : String}
    (source : kind ∈ sources) :
    Evidence.payloadOf rows kind = (tableOf c.history kind).getD .empty := by
  have beside : ∀ event, event ∈ besides c.history ∨ event ∈ pending c.world.pool →
      decide (event.kind = kind) = false := by
    intro event there
    rw [sorted.ledger.beside event there, decide_eq_false_iff_not]
    rintro rfl
    exact absurd source (by decide)
  have events : (rows.filter fun row => row.event.kind = kind).map Evidence.Row.event =
      (mains c.history).filter fun event => event.kind = kind := by
    rw [← sorted.read beside persisted, ← read, List.filter_map]
    rfl
  rw [tableOf, if_pos source, recorded_eq_mains, ← events, List.map_map]
  rfl

/-- The document says of `state` what the state holds. -/
structure Shows (params : FlowInput) (doc : Evidence.Document) (state : FlowState) : Prop where
  tests : ∃ verdict, state.ciResult = some verdict ∧ verdict.exitCode = 0 ∧
    doc.tests = verdictPayload state verdict ∧ (verdict.source = .sandbox → ∃ rest,
      "The tests were run in KuWarden's own sandbox, not by the project's CI. " ++ rest ∈
        doc.caveats)
  isolation : doc.sandboxIsolation = (state.sandboxIsolation.map fun isolation =>
    .sandboxIsolation isolation state.sandboxGaps).getD .empty
  degraded : state.sandboxIsolation = some .degraded → ∃ rest,
    "The sandbox ran under weakened isolation (" ++ rest ∈ doc.caveats
  riskTier : doc.riskTier = state.riskTier
  provisionalRiskTier : state.provisionalRiskTier = some doc.provisionalRiskTier
  riskTierReason : doc.riskTierReason = state.riskTierReason
  verifications : doc.verifications = state.verifications.map verdictRow
  /-- Whoever objected was not permitted to block, and is named. -/
  objections : ∀ v ∈ state.verifications, v.passed = false → v.verifier ∉ blockingSet params ∧
    ∃ rest, v.verifier ++ " falsified this change and was not permitted to block it, because this "
      ++ rest ∈ doc.caveats
  /-- What runs there is what is released. -/
  preview : doc.previewUrl ≠ "" → ∃ commit, nonEmpty state.headCommit = some commit ∧
    Evidence.payloadOf doc.events "preview_published" = .previewPublished doc.previewUrl commit

/-! ### What the caveats say -/

section Caveats

variable {policyCommit preview : String} {verdict isolation overridden : Payload}
  {verifications : List VerdictRow}

theorem caveat_of_advisory {advisory : List String} {detail name : String}
    (named : name ∈ advisory) : ∃ rest, name ++
      " falsified this change and was not permitted to block it, because this " ++ rest ∈
        Evidence.caveats policyCommit verdict isolation verifications
          (.verifierOverridden advisory detail) preview := by
  refine ⟨"application declares it advisory. Its findings are on this page and were not " ++
    "acted on by the gate.", ?_⟩
  iterate 5 apply List.mem_append_left
  exact List.mem_map.mpr ⟨name, named, by simp only [String.append_assoc]⟩

theorem caveat_of_anchor {caveat : String} (named : caveat ∈ Evidence.anchorCaveat verdict) :
    caveat ∈ Evidence.caveats policyCommit verdict isolation verifications overridden preview := by
  iterate 3 apply List.mem_append_left
  exact List.mem_append_right _ named

theorem caveat_of_isolation {caveat : String}
    (named : caveat ∈ Evidence.isolationCaveat isolation) :
    caveat ∈ Evidence.caveats policyCommit verdict isolation verifications overridden preview := by
  iterate 2 apply List.mem_append_left
  exact List.mem_append_right _ named

theorem anchorCaveat_sandbox {state : FlowState} {verdict : CIResult}
    (source : verdict.source = .sandbox) : ∃ rest,
      "The tests were run in KuWarden's own sandbox, not by the project's CI. " ++ rest ∈
        Evidence.anchorCaveat (verdictPayload state verdict) := by
  rw [verdictPayload, source]
  simp only [Evidence.anchorCaveat, List.mem_singleton, String.append_assoc]
  exact ⟨_, rfl⟩

theorem isolationCaveat_degraded {gaps : List String} : ∃ rest,
    "The sandbox ran under weakened isolation (" ++ rest ∈
      Evidence.isolationCaveat (.sandboxIsolation .degraded gaps) := by
  simp only [Evidence.isolationCaveat, List.mem_singleton, String.append_assoc]
  exact ⟨_, rfl⟩

end Caveats

/-- A document made from a table that renders the state shows it. -/
theorem shows_of_rendered {state : FlowState} {T : Table} {rows : List Evidence.Row}
    (rendered : Rendered params state T) (made : ∀ kind ∈ sources,
      Evidence.payloadOf rows kind = (T kind).getD .empty) (runId : UUID) (row : Evidence.Run)
    (appName : Option String) :
    Shows params (Evidence.document runId row rows appName) state := by
  obtain ⟨verdict, found, zero, tests⟩ := rendered.tests
  obtain ⟨provisional, changed, before, tier⟩ := rendered.tier
  obtain ⟨passed, total, names, verifications⟩ := rendered.verifications
  have tests_eq : Evidence.payloadOf rows "build_test_verdict" = verdictPayload state verdict := by
    rw [made _ (by decide), tests, Option.getD_some]
  have isolation_eq : Evidence.payloadOf rows "sandbox_isolation" =
      (state.sandboxIsolation.map fun isolation =>
        .sandboxIsolation isolation state.sandboxGaps).getD .empty := by
    rw [made _ (by decide), rendered.isolation]
  have tier_eq : Evidence.payloadOf rows "risk_tier_final" = .riskTierFinal state.riskTier
      provisional state.riskTierReason changed := by
    rw [made _ (by decide), tier, Option.getD_some]
  have verifications_eq : Evidence.payloadOf rows "verifiers_completed" =
      .verifiersCompleted passed total names (state.verifications.map verdictRow) := by
    rw [made _ (by decide), verifications, Option.getD_some]
  have tiers : Evidence.tiersOf row.row.started.riskTier
      (Evidence.payloadOf rows "risk_tier_final") =
        (state.riskTier, provisional, state.riskTierReason) := by
    rw [tier_eq, Evidence.tiersOf, if_neg rendered.reason]
  refine ⟨⟨verdict, found, zero, tests_eq, fun source => ?_⟩, isolation_eq, fun degraded => ?_,
    congrArg Prod.fst tiers, ?_, congrArg (fun tiers => tiers.2.2) tiers, ?_, ?_, ?_⟩
  · obtain ⟨rest, mem⟩ := @anchorCaveat_sandbox state verdict source
    rw [← tests_eq] at mem
    exact ⟨rest, caveat_of_anchor mem⟩
  · obtain ⟨rest, mem⟩ := @isolationCaveat_degraded state.sandboxGaps
    have shown : Evidence.payloadOf rows "sandbox_isolation" =
        .sandboxIsolation .degraded state.sandboxGaps := by
      rw [isolation_eq, degraded, Option.map_some, Option.getD_some]
    rw [← shown] at mem
    exact ⟨rest, caveat_of_isolation mem⟩
  · rw [before]
    exact congrArg (fun tiers => some tiers.2.1) tiers.symm
  · exact congrArg Evidence.verificationsOf verifications_eq
  · intro v mem failed
    have permitted : v.verifier ∉ blockingSet params := by
      intro blocks
      rw [rendered.unopposed v mem blocks] at failed
      cases failed
    refine ⟨permitted, ?_⟩
    have named : v.verifier ∈ state.advisoryObjections := by
      rw [rendered.objections]
      refine List.mem_map_of_mem (List.mem_filter.mpr ⟨mem, ?_⟩)
      rw [failed, Bool.not_false]
    have shown : Evidence.payloadOf rows "verifier_overridden" =
        .verifierOverridden state.advisoryObjections overriddenDetail := by
      rw [made _ (by decide), rendered.overridden, if_neg (List.ne_nil_of_mem named),
        Option.getD_some]
    show ∃ rest, _ ∈ Evidence.caveats _ _ _ _ (Evidence.payloadOf rows "verifier_overridden") _
    rw [shown]
    exact caveat_of_advisory named
  · show Evidence.previewOf (Evidence.payloadOf rows "preview_published") ≠ "" → ∃ commit, _ ∧
      Evidence.payloadOf rows "preview_published" = .previewPublished
        (Evidence.previewOf (Evidence.payloadOf rows "preview_published")) commit
    rw [made _ (by decide)]
    rcases rendered.preview with unpublished | ⟨url, commit, -, found, published⟩
    · rw [unpublished]
      exact fun absurd => (absurd rfl).elim
    · rw [published]
      exact fun _ => ⟨commit, found, rfl⟩

/-! ## From the gate to Release -/

/-- Whatever happens in between, what is read while a human is awaited shows the state that
Release is called with. -/
theorem released_as_shown {a : W} {c c' : FlowConfig W} {before more rest : FlowHistory}
    {needed : Nat} {moves : List FlowMove} {activityId : String} {state : FlowState}
    {trail : List EventRecorded} {rows : List Evidence.Row}
    (run : Runs adapters worker params a c)
    (waits : c.history = before ++ .call (.waitCondition needed) :: moves.map .env)
    (persisted : Persisted c trail) (read : rows.map Evidence.Row.event = ordered trail)
    (later : (system adapters worker).Reaches c c')
    (called : c'.history =
      c.history ++ (more ++ .call (.runNode "release" activityId state) :: rest))
    (runId : UUID) (row : Evidence.Run) (appName : Option String) :
    Shows params (Evidence.document runId row rows appName) state := by
  have met : CallsMeet (MayShow params) c'.history :=
    wp_invariant (P := fun _ _ h => CallsMeet (MayShow params) h) (run_shown a) (run.trans later)
  have split : c'.history =
      (c.history ++ more) ++ .call (.runNode "release" activityId state) :: rest := by
    rw [called, List.append_assoc]
  obtain ⟨rendered, awaited⟩ := met _ _ _ split rfl
  have gate : c.history ++ more =
      before ++ .call (.waitCondition needed) :: (moves.map .env ++ more) := by
    rw [waits, List.append_assoc, List.cons_append]
  have table : tableOf c.history = tableOf (c.history ++ more) := by
    have here : c.history = before ++ [.call (.waitCondition needed)] ++ moves.map .env := by
      rw [waits, List.append_assoc, List.singleton_append]
    rw [here, tableOf_moves, tableOf_call, ← here]
    exact awaited _ _ _ gate needed rfl
  rw [← table] at rendered
  exact shows_of_rendered rendered
    (fun _ source => payload_of_eq (sorted_of_runs run) persisted read source) runId row appName

/-! ### A change that one human has to approve -/

def reviewedParams : FlowInput := { shopParams with provisionalRiskTier := .medium }

/-- Nobody has decided yet. -/
def heldRun : FlowConfig Unit := obligingScript.run plainWorker [] reviewedParams () 100

/-- Somebody has approved. -/
def passedRun : FlowConfig Unit :=
  (obligingScript.flow plainWorker [⟨"ada", true, "d1", ""⟩]).play 20 heldRun

def awaits : Label FlowOp FlowRep FlowMove → Bool
  | .call (.waitCondition _) => true
  | _ => false

def shownRows (trail : List EventRecorded) : List Evidence.Row :=
  (ordered trail).map fun event => ⟨event, ""⟩

theorem shownRows_events (trail : List EventRecorded) :
    (shownRows trail).map Evidence.Row.event = ordered trail := by
  rw [shownRows, List.map_map]
  exact List.map_id' _

theorem released_as_shown_reviewed : ∃ before more rest needed activityId state,
    heldRun.history = before ++ [.call (.waitCondition needed)] ∧
    passedRun.history =
      heldRun.history ++ (more ++ .call (.runNode "release" activityId state) :: rest) ∧
    Shows reviewedParams (Evidence.document ⟨1⟩ ⟨⟨started reviewedParams, "", none⟩, ""⟩
      (shownRows heldRun.world.store.trail) (some "shop")) state := by
  have later : (system obliging plainWorker).Reaches heldRun passedRun :=
    Schedule.play_reaches _ _ _
  have run : Runs obliging plainWorker reviewedParams () heldRun := Script.run_runs _ _ _ _ _ _
  have held : heldRun.history.getLast?.any awaits = true := by decide +kernel
  have passed : ((passedRun.history.drop heldRun.history.length).findSome?
      (callOf "release")).isSome = true := by decide +kernel
  generalize heldRun = c at later run held passed ⊢
  generalize passedRun = c' at later passed ⊢
  obtain ⟨l, last, waits⟩ := (Option.any_eq_true _ _).mp held
  obtain ⟨before, waiting⟩ := List.getLast?_eq_some_iff.mp last
  obtain ⟨after, grown⟩ := later.grows
  rw [← grown, List.drop_left] at passed
  obtain ⟨state, found⟩ := Option.isSome_iff_exists.mp passed
  obtain ⟨more, activityId, rest, rfl⟩ := called_of_findSome found
  unfold awaits at waits
  split at waits
  next needed =>
    refine ⟨before, more, rest, needed, activityId, state, waiting, grown.symm, ?_⟩
    have quiet : c.history =
        before ++ .call (.waitCondition needed) :: ([] : List FlowMove).map .env := waiting
    exact released_as_shown run quiet ⟨[], List.nil_subperm, rfl⟩ (shownRows_events _) later
      grown.symm ⟨1⟩ _ _
  next => cases waits

end KuWarden.Flow
