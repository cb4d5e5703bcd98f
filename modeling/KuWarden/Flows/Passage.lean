import KuWarden.Flows.Calls
import KuWarden.Flows.FanOut

/-!
One rule for each function on the way to Release: what it leaves behind when it returns.
-/
namespace KuWarden.Flow

open Process

variable {W Lbl : Type} {adapters : Adapters W Lbl} {worker : Worker}

def unnoted (state : FlowState) : FlowState := { state with notes := none }

/-- One pass, by what its three nodes were given and returned. -/
structure Pass where
  given : FlowState
  coded : FlowState
  pushed : FlowState
  graded : FlowState

def Pass.executions (p : Pass) : List Execution :=
  [⟨"coder", p.given, p.coded⟩, ⟨"push", unnoted p.coded, p.pushed⟩,
    ⟨"build_test", unnoted p.pushed, p.graded⟩]

def verdictMark (graded : FlowState) (verdict : CIResult) : String × Payload :=
  ("build_test_verdict", verdictPayload graded verdict)

/-- What one pass leaves: its three nodes, and the verdict it recorded. -/
structure Passed (obj : Obj) (ms : List (String × Payload)) (ran : List Execution)
    (p : Pass) : Prop where
  ran : ran = p.executions
  returned : obj.val = unnoted p.graded
  verdicts : ms = (p.graded.ciResult.map (verdictMark p.graded)).toList

/-- What a cycle leaves that ended in a green pass. -/
structure Green (obj : Obj) (ms : List (String × Payload)) (ran : List Execution)
    (p : Pass) (verdict : CIResult) : Prop where
  ran : ∃ before, ran = before ++ p.executions
  returned : obj.val = unnoted p.graded
  verdicts : ∃ before, ms = before ++ [verdictMark p.graded verdict] ∧
    ∀ m ∈ before, m.1 = "build_test_verdict"
  carried : p.graded.ciResult = some verdict
  green : verdict.exitCode = 0

theorem Green.after {obj obj' : Obj} {ms ms' : List (String × Payload)}
    {ran ran' : List Execution} {p p' : Pass} {verdict : CIResult}
    (passed : Passed obj' ms' ran' p') (rest : Green obj ms ran p verdict) :
    Green obj (ms' ++ ms) (ran' ++ ran) p verdict := by
  obtain ⟨before, rfl⟩ := rest.ran
  obtain ⟨marks, rfl, verdicts⟩ := rest.verdicts
  refine ⟨⟨ran' ++ before, by simp⟩, rest.returned, ⟨ms' ++ marks, by simp, ?_⟩,
    rest.carried, rest.green⟩
  intro m mem
  rcases List.mem_append.mp mem with first | last
  · rw [passed.verdicts] at first
    obtain ⟨verdict, -, rfl⟩ := Option.map_eq_some_iff.mp (Option.mem_toList.mp first)
    rfl
  · exact verdicts m last

theorem green_iff {state : FlowState} : green state = true ↔
    ∃ verdict, state.ciResult = some verdict ∧ verdict.exitCode = 0 := by
  unfold green
  split
  next verdict found => simp [found]
  next absent => simp [absent]

/-- All four verifiers ran on the brief, and returned these in the order of `VERIFIERS`. -/
structure AllRan (brief : FlowState) (ran : List Execution) (objs : List Obj) : Prop where
  only : ∀ x ∈ ran, x.nodeId ∈ verifierIds ∧ x.given = brief
  each : List.Forall₂ (fun v obj => ⟨v, brief, obj.val⟩ ∈ ran) verifierIds objs

/-- What the fan-out leaves of the state: four verdicts more, and a spend. -/
def verified (state : FlowState) (objs : List Obj) : FlowState :=
  { state with
    spendMicroCents := combine
      (state.spendMicroCents :: objs.map fun r => r.val.spendMicroCents)
    verifications := state.verifications ++ objs.flatMap fun r => r.val.verifications }

/-- The state the second tiering stage leaves. -/
def settled (params : FlowInput) (state : FlowState) : FlowState :=
  { state with
    riskTier := (finalTier state params).1
    riskTierReason := (finalTier state params).2
    provisionalRiskTier := some state.riskTier }

def tierMark (params : FlowInput) (state : FlowState) : String × Payload :=
  ("risk_tier_final", .riskTierFinal (finalTier state params).1 state.riskTier
    (finalTier state params).2 ((state.diff.map fun d => d.files.length).getD 0))

/-- Nobody who may block this change falsified it. -/
def Unopposed (params : FlowInput) (verifications : List Verification) : Prop :=
  ∀ v ∈ verifications, v.verifier ∈ blockingSet params → v.passed = true

def counted (state : FlowState) (signals : List ApprovalSignal) : FlowState :=
  { state with approvals := signals.map (approvalOf state.riskTier) }

/-- How a gate lets a change pass, and what it records. -/
inductive GatePassed (obj : Obj) : Obj → List (String × Payload) → Prop
  | auto : requiredApprovals obj.val.riskTier = 0 →
      GatePassed obj obj [("gate_reached", .gateReached obj.val.riskTier 0),
        ("gate_passed", .gatePassed true)]
  | approved (signals : List ApprovalSignal) : requiredApprovals obj.val.riskTier ≠ 0 →
      (∀ a ∈ signals, a.approved = true) →
      requiredApprovals obj.val.riskTier ≤ signals.length →
      GatePassed obj { obj with val := counted obj.val signals }
        [("gate_reached", .gateReached obj.val.riskTier
          (requiredApprovals obj.val.riskTier)), ("gate_passed", .gatePassed false)]

theorem decided_mono {needed : Nat} {signals signals' : List ApprovalSignal}
    (grown : signals <+: signals') (enough : decided needed signals = true) :
    decided needed signals' = true := by
  obtain ⟨late, rfl⟩ := grown
  unfold decided at enough ⊢
  simp only [Bool.or_eq_true, List.any_append, List.filter_append, List.length_append,
    decide_eq_true_eq, ge_iff_le] at enough ⊢
  rcases enough with rejected | enough
  · exact .inl (.inl rejected)
  · exact .inr (by omega)

/-- Signals that decide a gate and reject nothing approve often enough. -/
theorem approved_of_decided {needed : Nat} {signals : List ApprovalSignal}
    (enough : decided needed signals = true)
    (unrejected : ¬ (signals.any fun a => !a.approved) = true) :
    (∀ a ∈ signals, a.approved = true) ∧ needed ≤ signals.length := by
  have approved : ∀ a ∈ signals, a.approved = true := by simpa using unrejected
  refine ⟨approved, ?_⟩
  unfold decided at enough
  rw [Bool.eq_false_iff.mpr unrejected, Bool.false_or, decide_eq_true_eq,
    List.filter_eq_self.mpr approved] at enough
  exact enough

namespace Onward

variable {β : Type} {R : β → List (String × Payload) → List Execution → Prop}

theorem emit {kind : String} {payload : Payload} {nodeId mode : Option String} :
    Onward adapters worker (emit kind payload nodeId mode)
      fun _ ms ran => ms = milestoneOf kind payload ∧ ran = [] := by
  refine update (fun _ => rfl) (read fun flow => ?_)
  exact call (by simp) fun _ => ⟨rfl, rfl⟩

/-- An event that is no milestone. -/
theorem emit_bind {kind : String} {payload : Payload} {nodeId mode : Option String}
    {t : Unit → Flow β} (plain : milestoneOf kind payload = [])
    (ht : Onward adapters worker (t ()) R) :
    Onward adapters worker (Flow.emit kind payload nodeId mode >>= t) R := by
  refine emit.bind ?_
  rintro _ ms ran ⟨rfl, rfl⟩
  rw [plain]
  exact ht

theorem mark_bind {kind : String} {payload : Payload} {nodeId mode : Option String}
    {t : Unit → Flow β} (mark : milestoneOf kind payload = [(kind, payload)])
    (ht : Onward adapters worker (t ()) fun b ms ran => R b ((kind, payload) :: ms) ran) :
    Onward adapters worker (Flow.emit kind payload nodeId mode >>= t) R := by
  refine emit.bind ?_
  rintro _ ms ran ⟨rfl, rfl⟩
  rw [mark]
  exact ht

theorem mutate {obj : Obj} {f : FlowState → FlowState} :
    Onward adapters worker (mutate obj f)
      fun obj' ms ran => obj' = { obj with val := f obj.val } ∧ ms = [] ∧ ran = [] :=
  update (fun _ => rfl) (pure ⟨rfl, rfl, rfl⟩)

theorem mutate_bind {obj : Obj} {f : FlowState → FlowState} {t : Obj → Flow β}
    (ht : Onward adapters worker (t { obj with val := f obj.val }) R) :
    Onward adapters worker (Flow.mutate obj f >>= t) R := by
  refine mutate.bind ?_
  rintro _ ms ran ⟨rfl, rfl, rfl⟩
  exact ht

/-- A call that leaves neither a milestone nor an execution. -/
theorem call_bind {op : FlowOp} {t : FlowRep op → Flow β}
    (other : ∀ brief, op ≠ .startVerifiers brief)
    (plain : ∀ r, milestone (.reply op r) = [] ∧ executed (.reply op r) = none)
    (ht : ∀ r, Onward adapters worker (t r) R) :
    Onward adapters worker (Task.call op >>= t) R := by
  refine bind (P := fun _ ms ran => ms = [] ∧ ran = []) (call other ?_) ?_
  · intro r
    simp [plain r]
  · rintro r ms ran ⟨rfl, rfl⟩
    exact ht r

theorem publish {state : FlowState} :
    Onward adapters worker (publish state)
      fun obj ms ran => obj.val = state ∧ ms = [] ∧ ran = [] :=
  read fun _ => update (fun _ => rfl) (pure ⟨rfl, rfl, rfl⟩)

theorem nodeStep {nodeId : String} {state : FlowState} :
    Onward adapters worker (nodeStep nodeId state)
      fun obj ms ran => ms = [] ∧ ∃ result, ran = [⟨nodeId, state, result⟩] ∧
        obj.val = unnoted result := by
  refine update (fun _ => rfl) (emit_bind rfl ?_)
  refine bind (P := fun reply ms ran => ms = [] ∧ ∀ result, reply = .ok result →
    ran = [⟨nodeId, state, result⟩]) ?_ ?_
  · refine read fun flow => call (by simp) fun reply => ⟨rfl, ?_⟩
    rintro result rfl
    rfl
  · rintro reply ms ran ⟨rfl, found⟩
    cases reply with
    | error exc => exact emit_bind rfl raise
    | ok result =>
        cases found result rfl
        refine publish.bind ?_
        rintro obj _ _ ⟨rfl, rfl, rfl⟩
        refine emit_bind rfl (mutate.mono ?_)
        rintro _ _ _ ⟨rfl, rfl, rfl⟩
        exact ⟨rfl, _, rfl, rfl⟩

theorem node_step_bind {nodeId : String} {state : FlowState} {t : Obj → Flow β}
    (ht : ∀ obj result, obj.val = unnoted result →
      Onward adapters worker (t obj)
        fun b ms ran => R b ms (⟨nodeId, state, result⟩ :: ran)) :
    Onward adapters worker (Flow.nodeStep nodeId state >>= t) R := by
  refine nodeStep.bind ?_
  rintro obj _ _ ⟨rfl, result, rfl, returned⟩
  exact ht obj result returned

/-! ## The cycle -/

theorem pass {attempt : Nat} {obj : Obj} :
    Onward adapters worker (pass attempt obj) fun obj' ms ran =>
      ∃ p, Passed obj' ms ran p := by
  refine mutate_bind (node_step_bind fun coder coded coderDid => ?_)
  refine node_step_bind fun push pushed pushDid => ?_
  refine emit_bind rfl ?_
  refine call_bind (by simp) (fun _ => ⟨rfl, rfl⟩) fun _ => ?_
  refine node_step_bind fun build graded buildDid => ?_
  have known : build.val.ciResult = graded.ciResult := by rw [buildDid]; rfl
  rw [coderDid, pushDid, known]
  cases found : graded.ciResult with
  | none =>
      exact pure ⟨⟨_, coded, pushed, graded⟩, rfl, buildDid, by rw [found]; rfl⟩
  | some verdict =>
      refine mark_bind rfl (pure ⟨⟨_, coded, pushed, graded⟩, rfl, buildDid, ?_⟩)
      rw [found, buildDid]
      rfl

theorem cycle {attempts : List Nat} {obj : Obj} :
    Onward adapters worker (cycle attempts obj) fun obj' ms ran =>
      ∃ p verdict, Green obj' ms ran p verdict := by
  induction attempts generalizing obj with
  | nil => exact raise
  | cons attempt rest ih =>
      refine pass.bind ?_
      rintro obj ms ran ⟨p, passed⟩
      split
      next done =>
        obtain ⟨verdict, found, zero⟩ := green_iff.mp done
        rw [passed.returned] at found
        have found : p.graded.ciResult = some verdict := found
        refine pure ⟨p, verdict, ⟨[], ?_⟩, passed.returned, ⟨[], ?_, by simp⟩, found, zero⟩
        · rw [passed.ran, List.append_nil, List.nil_append]
        · rw [passed.verdicts, found]
          rfl
      next =>
        refine ih.mono ?_
        rintro obj' ms' ran' ⟨p', verdict, last⟩
        exact ⟨p', verdict, last.after passed⟩

/-! ## From the cycle to the gate -/

theorem reportIsolation {state : FlowState} :
    Onward adapters worker (reportIsolation state) fun _ ms ran => ms = [] ∧ ran = [] := by
  unfold Flow.reportIsolation
  split
  · exact pure ⟨rfl, rfl⟩
  · exact emit

theorem collect {results : List (String × Obj)} {obj : Obj} :
    Onward adapters worker (collect results obj) fun obj' ms ran =>
      ms = [] ∧ ran = [] ∧ obj'.val = { obj.val with
        verifications := obj.val.verifications ++
          results.flatMap fun result => result.2.val.verifications } := by
  induction results generalizing obj with
  | nil => exact pure ⟨rfl, rfl, by simp⟩
  | cons result rest ih =>
      obtain ⟨verifierId, result⟩ := result
      have onward : ∀ obj₁ : Obj, obj₁.val = { obj.val with
          verifications := obj.val.verifications ++ result.val.verifications } →
          Onward adapters worker (Flow.collect rest obj₁) fun obj' ms ran =>
            ms = [] ∧ ran = [] ∧ obj'.val = { obj.val with
              verifications := obj.val.verifications ++
                ((verifierId, result) :: rest).flatMap
                  fun result => result.2.val.verifications } := by
        intro obj₁ taken
        refine ih.mono ?_
        rintro obj' ms ran ⟨rfl, rfl, collected⟩
        refine ⟨rfl, rfl, ?_⟩
        rw [collected, taken]
        simp
      refine mutate_bind ?_
      split
      · exact emit_bind rfl (mutate_bind (onward _ rfl))
      · exact mutate_bind (onward _ rfl)

theorem fanned_start {brief : FlowState} {s s' : DeliveryFlow} {w w' : FlowWorld W}
    {h h' : FlowHistory} {r : FlowRep (.startVerifiers brief)} (quiet : Quiet w.pool)
    (drift : (system adapters worker).Drift s w (h ++ [.call (.startVerifiers brief)])
      s' w' h')
    {s'' : DeliveryFlow} {w'' : FlowWorld W}
    (served : (system adapters worker).serve s' w' (.startVerifiers brief) r s'' w'') :
    Fanned brief s.approvals (milestones h) (executions h) [] s'' w''
      (h' ++ [.reply (.startVerifiers brief) r]) := by
  obtain ⟨signals, rfl, rfl, rfl⟩ := drift_of_quiet quiet drift
  cases served
  obtain ⟨kept, -, names, placed⟩ :=
    startSlots_branch brief verifierIds { s with approvals := s.approvals ++ signals }
  refine ⟨names, placed _, ?_, ?_, ?_, by simp⟩
  · exact kept ▸ List.prefix_append _ _
  · simp only [milestones_append, milestones_signals, milestones_singleton, milestone,
      List.append_nil]
  · simp only [executions_append, executions_signals, executions_singleton, executed,
      executionOf, Option.toList_none, List.append_nil]

theorem fan_out_bind {brief : FlowState} {t : List Obj → Flow β}
    (ht : ∀ objs ran, AllRan brief ran objs →
      Onward adapters worker (t objs) fun b ms ran' => R b ms (ran ++ ran')) :
    Onward adapters worker (Task.call (FlowOp.startVerifiers brief) >>= fun _ =>
      (Task.call FlowOp.gatherVerifiers : Flow (Except FlowExc (List Obj))) >>= fun gathered =>
        Task.ofExcept gathered >>= t) R := by
  intro s w h quiet
  refine Task.ensures_bind (Task.ensures_call fun s' w' h' r s'' w'' drift served =>
    fanned_start quiet drift served) ?_
  intro _ s₁ w₁ h₁ fanned
  refine Task.ensures_bind (R := fun gathered s₂ w₂ h₂ => ∀ objs, gathered = .ok objs →
    ∃ ran, AllRan brief ran objs ∧ Advance s h [] ran s₂ w₂ h₂) (Task.ensures_call ?_) ?_
  · intro s' w' h' r s'' w'' drift served objs gathered
    subst gathered
    obtain ⟨ran, fanned⟩ := (fanned.concat rfl rfl).drift drift
    cases served with
    | gatherVerifiers joins =>
        obtain ⟨quiet', each⟩ := fanned.joined joins
        refine ⟨ran, ⟨fanned.ran, each⟩, quiet', fanned.signals, ?_, ?_⟩
        · rw [milestones_append, milestones_singleton, fanned.quietly]
          rfl
        · rw [executions_append, executions_singleton, fanned.counted]
          exact List.append_nil _
  · intro gathered s₂ w₂ h₂ joined
    refine Task.ensures_ofExcept_bind.mpr ?_
    rintro objs rfl
    obtain ⟨ran, all, advance⟩ := joined objs rfl
    refine Task.ensures_mono (ht objs ran all _ _ _ advance.quiet) ?_
    rintro b s' w' h' ⟨ms, ran', held, advance'⟩
    exact ⟨_, _, held, advance.trans advance'⟩

theorem verify {obj : Obj} :
    Onward adapters worker (verify obj) fun obj' ms ran => ms = [] ∧
      ∃ objs, AllRan (verifierBrief obj.val) ran objs ∧ obj'.val = verified obj.val objs := by
  refine emit_bind rfl (fan_out_bind fun objs ran all => mutate_bind ?_)
  refine collect.bind ?_
  rintro obj' _ _ ⟨rfl, rfl, collected⟩
  refine emit_bind rfl (update (fun _ => rfl) (pure ⟨rfl, objs, ?_, ?_⟩))
  · simpa using all
  · have order : (verifierIds.zip objs).map Prod.snd = objs :=
      List.map_snd_zip all.each.length_eq.ge
    have taken : (verifierIds.zip objs).flatMap (fun r => r.2.val.verifications) =
        objs.flatMap fun r => r.val.verifications := by
      conv_rhs => rw [← order, List.flatMap_map]
    rw [collected, taken]
    rfl

theorem settleTier {params : FlowInput} {obj : Obj} :
    Onward adapters worker (settleTier params obj) fun obj' ms ran =>
      obj'.val = settled params obj.val ∧ ms = [tierMark params obj.val] ∧ ran = [] :=
  mutate_bind (mark_bind rfl (pure ⟨rfl, rfl, rfl⟩))

theorem judge {params : FlowInput} {obj : Obj} :
    Onward adapters worker (judge params obj) fun obj' ms ran =>
      Unopposed params obj.val.verifications ∧ (∃ overridden,
        obj'.val = { obj.val with advisoryObjections := overridden }) ∧
      ms = [] ∧ ran = [] := by
  have unopposed : ¬ (obj.val.verifications.filter fun v => !v.passed).filter
      (fun v => (blockingSet params).contains v.verifier) ≠ [] →
      Unopposed params obj.val.verifications := by
    intro none v mem blocks
    by_contra failed
    have found : v ∈ (obj.val.verifications.filter fun v => !v.passed).filter
        (fun v => (blockingSet params).contains v.verifier) := by
      simp [mem, blocks, Bool.eq_false_iff.mpr failed]
    rw [not_not.mp none] at found
    cases found
  refine mutate_bind ?_
  dsimp only
  split
  · refine emit_bind rfl ?_
    split
    · exact raise_bind
    · next none => exact pure ⟨unopposed none, ⟨_, rfl⟩, rfl, rfl⟩
  · split
    · exact raise_bind
    · next none => exact pure ⟨unopposed none, ⟨_, rfl⟩, rfl, rfl⟩

/-! ## The gate -/

theorem wait_bind {needed : Nat} {f : DeliveryFlow → Flow β}
    (ht : ∀ flow, decided needed flow.approvals = true → Onward adapters worker (f flow) R) :
    Onward adapters worker (Task.call (FlowOp.waitCondition needed) >>= fun _ =>
      Task.update (fun flow => { flow with status := "running" }) >>= fun _ =>
        setStatus "running" >>= fun _ => Task.read >>= f) R := by
  intro s w h quiet
  refine Task.ensures_bind (R := fun _ s' w' h' => decided needed s'.approvals = true ∧
    Advance s h [] [] s' w' h') (Task.ensures_call ?_) ?_
  · intro s' w' h' r s'' w'' drift served
    obtain ⟨signals, rfl, rfl, rfl⟩ := drift_of_quiet quiet drift
    cases served with
    | waitCondition enough =>
        refine ⟨enough, quiet, List.prefix_append _ _, ?_, ?_⟩
        · simp only [milestones_append, milestones_signals, milestones_singleton, milestone,
            List.append_nil]
        · simp only [executions_append, executions_signals, executions_singleton, executed,
            executionOf, Option.toList_none, List.append_nil]
  · rintro _ s₁ w₁ h₁ ⟨enough, advance⟩
    have resumed : Onward adapters worker (setStatus "running")
        fun _ ms ran => ms = [] ∧ ran = [] := call (by simp) fun _ => ⟨rfl, rfl⟩
    refine Task.ensures_update_bind.mpr
      (Task.ensures_bind (resumed _ w₁ h₁ advance.quiet) ?_)
    rintro _ s₂ w₂ h₂ ⟨_, _, ⟨rfl, rfl⟩, advance'⟩
    refine Task.ensures_read_bind.mpr (Task.ensures_mono
      (ht s₂ (decided_mono advance'.signals enough) s₂ w₂ h₂ advance'.quiet) ?_)
    rintro b s' w' h' ⟨ms, ran, held, last⟩
    have whole : Advance s₁ h₁ ([] ++ ms) ([] ++ ran) s' w' h' := by
      refine Advance.trans ⟨advance'.quiet, ?_, advance'.milestones, advance'.executions⟩ last
      exact advance'.signals
    exact ⟨ms, ran, held, advance.trans whole⟩

theorem suspend {needed : Nat} {state : FlowState} :
    Onward adapters worker (suspend needed state) fun signals ms ran =>
      decided needed signals = true ∧ ms = [] ∧ ran = [] := by
  refine update (fun _ => rfl) (call_bind (by simp) (fun _ => ⟨rfl, rfl⟩) fun _ => ?_)
  refine call_bind (by simp) (fun _ => ⟨rfl, rfl⟩) fun notified => ?_
  cases notified with
  | error exc => exact raise
  | ok _ => exact wait_bind fun flow enough => pure ⟨enough, rfl, rfl⟩

theorem publishPreview {state : FlowState} :
    Onward adapters worker (publishPreview state) fun _ ms ran => ms = [] ∧ ran = [] := by
  unfold Flow.publishPreview
  split
  · exact pure ⟨rfl, rfl⟩
  · refine call_bind (by simp) (fun _ => ⟨rfl, rfl⟩) fun preview => ?_
    split
    · exact emit
    · exact pure ⟨rfl, rfl⟩

theorem gate {obj : Obj} :
    Onward adapters worker (gate obj) fun obj' ms ran =>
      GatePassed obj obj' ms ∧ ran = [] := by
  refine publishPreview.bind ?_
  rintro _ _ _ ⟨rfl, rfl⟩
  refine mark_bind rfl ?_
  split
  next none =>
    refine mark_bind rfl (pure ⟨?_, rfl⟩)
    rw [none]
    exact .auto none
  next some =>
    refine suspend.bind ?_
    rintro signals _ _ ⟨enough, rfl, rfl⟩
    refine mutate_bind ?_
    split
    · exact emit.bind fun _ _ _ _ => raise
    next unrejected =>
      obtain ⟨approved, many⟩ := approved_of_decided enough unrejected
      exact mark_bind rfl (pure ⟨.approved signals some approved many, rfl⟩)

end Onward

/-! ## What a pass reports of its push -/

/-- The files that a call reports, to the trail or to the index. -/
def filesOf : FlowOp → Option (List FileChange)
  | .recordEvent event =>
      match event.payload with
      | .branchPushed _ _ _ _ files => some files
      | _ => none
  | .recordRunFiles _ files => some files
  | _ => none

/-- The diff is one that Push handed on. -/
def Reports (h : FlowHistory) (op : FlowOp) : Prop :=
  ∀ files, filesOf op = some files → ∃ x ∈ executions h, x.nodeId = "push" ∧
    files = (x.returned.diff.map Diff.files).getD []

section Reporting

variable {α : Type} {past : FlowHistory} {obj : Obj}

theorem keeps_silent {t : Flow α} (silent : t.Only fun op => filesOf op = none) :
    t.Keeps (system adapters worker) fun _ _ h => CallsMeet Reports h := by
  refine silent.keeps (P := fun _ h => CallsMeet Reports h) ?_ ?_ ?_
  · intro w h op none met
    refine callsMeet_append_call.mpr ⟨met, fun files some => ?_⟩
    cases none.symm.trans some
  · exact fun met _ => (callsMeet_append_other (by simp)).mpr met
  · exact fun _ met _ => (callsMeet_append_other (by simp)).mpr met

theorem node_step_silent {nodeId : String} {state : FlowState} :
    (nodeStep nodeId state).Only fun op => filesOf op = none := by
  refine Task.only_bind (Task.only_update _) fun _ =>
    Task.only_bind (record_only fun _ => rfl) fun _ =>
    Task.only_bind (Task.only_bind Task.only_read fun _ => Task.only_call rfl) fun reply => ?_
  cases reply with
  | error exc => exact Task.only_bind (record_only fun _ => rfl) fun _ => Task.only_raise _
  | ok result =>
      exact Task.only_bind publish_only fun _ => Task.only_bind (record_only fun _ => rfl)
        fun _ => mutate_only

/-- A step ends with the state that its node was answered to have returned. -/
theorem node_step_returned {nodeId : String} {state : FlowState} {s : DeliveryFlow}
    {w : FlowWorld W} {h : FlowHistory} :
    (nodeStep nodeId state).ensures (system adapters worker) (fun obj _ _ h' =>
      ∃ result, ⟨nodeId, state, result⟩ ∈ executions h' ∧ obj.val = unnoted result) s w h := by
  refine Task.ensures_then fun _ s w h => Task.ensures_then fun _ s w h => ?_
  refine Task.ensures_bind (R := fun reply _ _ h => ∀ result, reply = .ok result →
    ⟨nodeId, state, result⟩ ∈ executions h) ?_ ?_
  · refine Task.ensures_then fun flow s w h => Task.ensures_call fun _ _ _ reply _ _ _ _ => ?_
    rintro result rfl
    rw [executions_append, List.mem_append]
    exact .inr List.mem_cons_self
  · intro reply s w h answered
    cases reply with
    | error exc => exact Task.ensures_then fun _ _ _ _ => Task.ensures_raise
    | ok result =>
        refine Task.ensures_mono (Task.ensures_past (Q := fun obj _ _ _ =>
          obj.val = unnoted result) ?_) ?_
        · refine Task.ensures_bind (R := fun obj _ _ _ => obj.val = result)
            (Task.ensures_read_bind.mpr (Task.ensures_update_bind.mpr (Task.ensures_pure rfl))) ?_
          rintro obj s w h rfl
          exact Task.ensures_then fun _ s w h =>
            Task.ensures_update_bind.mpr (Task.ensures_pure rfl)
        · rintro obj _ _ _ ⟨returned, after, rfl⟩
          refine ⟨result, ?_, returned⟩
          rw [executions_append, List.mem_append]
          exact .inl (answered result rfl)

/-- A report of what an execution on record handed on. -/
theorem keeps_report {op : FlowOp} {x : Execution} (ran : x ∈ executions past)
    (push : x.nodeId = "push")
    (carries : filesOf op = some ((x.returned.diff.map Diff.files).getD [])) :
    (Task.call op : Flow (FlowRep op)).Keeps (system adapters worker)
      fun _ _ h => CallsMeet Reports h ∧ past <+: h := by
  refine Task.keeps_call ?_ ?_ ?_
  · rintro s w h ⟨met, after, rfl⟩
    refine ⟨callsMeet_append_call.mpr ⟨met, fun files same => ⟨x, ?_, push, ?_⟩⟩,
      after ++ [.call op], (List.append_assoc ..).symm⟩
    · rw [executions_append, List.mem_append]
      exact .inl ran
    · exact Option.some.inj (same.symm.trans carries)
  · rintro s w h l s' w' ⟨met, grown⟩ _
    exact ⟨(callsMeet_append_other (by simp)).mpr met, grown.trans (List.prefix_append _ _)⟩
  · rintro s w h r s' w' ⟨met, grown⟩ _
    exact ⟨(callsMeet_append_other (by simp)).mpr met, grown.trans (List.prefix_append _ _)⟩

/-- Every file a pass reports is of a diff that Push handed on. -/
theorem pass_reports {attempt : Nat} :
    (pass attempt obj).Keeps (system adapters worker) fun _ _ h => CallsMeet Reports h := by
  refine Task.keeps_bind (keeps_silent mutate_only) fun given =>
    Task.keeps_bind (keeps_silent node_step_silent) fun coder => ?_
  intro s w h met
  refine Task.wp_bind.mpr (Task.wp_mono
    ((keeps_silent node_step_silent).wp_with met node_step_returned) ?_)
  rintro (e | push) s₁ w₁ past ⟨met₁, returned⟩
  · exact met₁
  obtain ⟨result, ran, handed⟩ := returned push rfl
  have carried : push.val.diff = result.diff := by rw [handed]; rfl
  have silent : ∀ {α : Type} {t : Flow α}, t.Only (fun op => filesOf op = none) →
      t.Keeps (system adapters worker) fun _ _ h => CallsMeet Reports h ∧ past <+: h :=
    fun silent => (keeps_silent silent).and (Task.keeps_past _)
  have report : ∀ {op : FlowOp}, filesOf op = some ((push.val.diff.map Diff.files).getD []) →
      (Task.call op : Flow (FlowRep op)).Keeps (system adapters worker)
        fun _ _ h => CallsMeet Reports h ∧ past <+: h :=
    fun carries => keeps_report ran rfl (carried ▸ carries)
  suffices reported : Task.Keeps (system adapters worker)
      (fun _ _ h => CallsMeet Reports h ∧ past <+: h) _ from
    Proc.wp_mono _ _ _ (reported s₁ w₁ past ⟨met₁, List.prefix_rfl⟩) (fun _ _ _ both => both.1)
      fun _ _ _ _ both => both.1
  refine Task.keeps_bind (Task.keeps_bind (Task.keeps_update fun _ _ _ held => held) fun _ =>
    Task.keeps_bind Task.keeps_read fun _ => report rfl) fun _ =>
    Task.keeps_bind (report rfl) fun _ => silent (Task.only_bind node_step_silent fun built => ?_)
  split
  · exact Task.only_pure _
  · exact Task.only_bind (record_only fun _ => rfl) fun _ => Task.only_pure _

end Reporting

end KuWarden.Flow
