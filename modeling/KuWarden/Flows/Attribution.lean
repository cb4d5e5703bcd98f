import KuWarden.Activities.Tiers
import KuWarden.Flows.Calls
import KuWarden.Flows.Cargo
import KuWarden.Flows.Clearance
import KuWarden.Flows.Objections

/-!
Whom a run that was compensated blames for it: the verifiers its exception named, and the
ones that Compensate's record and the Reporter's comment name in turn.
-/
namespace KuWarden.Flow

open Process

variable {W Lbl : Type} {adapters : Adapters W Lbl} {worker : Worker} {params : FlowInput}

/-- The verifier falsified the change, it may block, and its objection is what ended the run. -/
def Ended (params : FlowInput) (h : FlowHistory) (name : String) : Prop :=
  Objected h name ∧ name ∈ blockingSet params ∧ AbortedBy h name

/-- Whom `judge` finds to have objected without being allowed to block. -/
def overruled (params : FlowInput) (verifications : List Verification) : List String :=
  ((verifications.filter fun v => !v.passed).filter
    fun v => !(blockingSet params).contains v.verifier).map Verification.verifier

/-- The state says of each objection what `judge` made of it. -/
structure Judged (params : FlowInput) (state : FlowState) (names : List String) : Prop where
  falsified : names = falsifiers params state.verifications
  overruled : state.advisoryObjections = overruled params state.verifications

/-- A state that Compensate is handed names the verifiers whose objection ended the run. -/
structure Sentence (params : FlowInput) (before : FlowHistory) (state : FlowState) : Prop where
  names : ∀ name, name ∈ state.rejectedBy ↔ Ended params before name
  judged : state.rejectedBy ≠ [] → Judged params state state.rejectedBy

/-! ## What Compensate and the Reporter make of such a state -/

variable {before : FlowHistory} {state : FlowState}

/-- Compensate names whom the run was ended by, unless nobody ended it and somebody falsified
the change: then it names whoever did. -/
theorem Sentence.blocking_iff (sentence : Sentence params before state) :
    (∀ name, (∃ v ∈ Compensate.blocking state, v.verifier = name) ↔ Ended params before name) ↔
      state.rejectedBy ≠ [] ∨ ∀ v ∈ state.verifications, v.passed = true := by
  by_cases nobody : state.rejectedBy = []
  · have innocent : ∀ name, ¬ Ended params before name := by
      intro name ended
      have named := (sentence.names name).mpr ended
      rw [nobody] at named
      cases named
    constructor
    · intro right
      refine .inr fun v mem => ?_
      by_contra failed
      refine innocent v.verifier ((right _).mp ⟨v, ?_, rfl⟩)
      exact Compensate.mem_blocking.mpr ⟨mem, by simpa using failed, .inl nobody⟩
    · rintro (named | passed) name
      · exact absurd nobody named
      · refine iff_of_false ?_ (innocent name)
        rintro ⟨v, blocks, -⟩
        obtain ⟨mem, failed, -⟩ := Compensate.mem_blocking.mp blocks
        rw [passed v mem] at failed
        cases failed
  · refine iff_of_true (fun name => ?_) (.inl nobody)
    rw [← sentence.names name]
    constructor
    · rintro ⟨v, blocks, rfl⟩
      obtain ⟨-, -, none | named⟩ := Compensate.mem_blocking.mp blocks
      · exact absurd none nobody
      · exact named
    · intro named
      have falsified := named
      rw [(sentence.judged nobody).falsified] at falsified
      obtain ⟨v, listed, rfl⟩ := List.mem_map.mp falsified
      obtain ⟨⟨mem, failed⟩, -⟩ := (List.mem_filter.mp listed).imp List.mem_filter.mp id
      exact ⟨v, Compensate.mem_blocking.mpr ⟨mem, by simpa using failed, .inr named⟩, rfl⟩

/-- Under that condition the Reporter names them as well. -/
theorem Sentence.names_iff (sentence : Sentence params before state)
    (either : state.rejectedBy ≠ [] ∨ ∀ v ∈ state.verifications, v.passed = true)
    {reported : FlowState} (verifications : reported.verifications = state.verifications)
    (advisory : reported.advisoryObjections = state.advisoryObjections) (name : String) :
    Reporter.Names reported name ↔ Ended params before name := by
  rw [Reporter.names_iff, verifications, advisory, ← sentence.names name]
  by_cases nobody : state.rejectedBy = []
  · have passed := either.resolve_left (not_not.mpr nobody)
    refine iff_of_false ?_ (by simp [nobody])
    rintro ⟨v, mem, failed, -, -⟩
    rw [passed v mem] at failed
    cases failed
  · have judged := sentence.judged nobody
    rw [judged.falsified, judged.overruled]
    simp only [falsifiers, overruled, List.mem_map, List.mem_filter, Bool.not_eq_true',
      List.contains_iff_mem, not_exists, not_and, and_imp]
    constructor
    · rintro ⟨v, mem, failed, permitted, rfl⟩
      refine ⟨v, ⟨⟨mem, failed⟩, ?_⟩, rfl⟩
      by_contra advisory
      exact permitted v mem failed (by simpa using advisory) rfl
    · rintro ⟨v, ⟨⟨mem, failed⟩, blocks⟩, rfl⟩
      refine ⟨v, mem, failed, fun u _ _ advisory same => ?_, rfl⟩
      rw [same] at advisory
      simp [blocks] at advisory

/-! ## How the delivery of a change ends -/

variable {s s' : DeliveryFlow} {w w' : FlowWorld W} {h : FlowHistory} {obj : Obj}

/-- Until a change is rejected, its state names nobody. -/
theorem spotless : Hereditary adapters worker fun state => state.rejectedBy = [] where
  node ran nobody := (executes_rejected_by ran).trans nobody
  brief _ := rfl
  clerical clerical nobody := (clerical.rejectedBy _).trans nobody
  reported nobody := nobody
  spent nobody := nobody
  verified nobody := nobody

/-- Where the outcome blames verifiers, the latest state is the one that was judged. -/
def Condemned {α : Type} (params : FlowInput) (r : Except FlowExc α) (s : DeliveryFlow)
    (w : FlowWorld W) (h : FlowHistory) : Prop :=
  blamed r ≠ [] → ∃ obj, Sole obj s w h ∧ Judged params obj.val (blamed r)

theorem condemned_of_raised {α : Type} {r : Except FlowExc α}
    (raised : Process.Raised Blameless r) : Condemned params r s w h :=
  fun some => absurd (blamed_of_raised raised) some

theorem condemned_of_raises {α : Type} {t : Flow α} (raises : t.raises Blameless) :
    t.wp (system adapters worker) (fun _ _ _ => True) (Condemned params) s w h :=
  Task.wp_mono (Task.raises_wp raises s w h) fun _ _ _ _ => condemned_of_raised

theorem condemned_bind {α β : Type} {t : Flow α} {f : α → Flow β}
    {R : α → Assertion DeliveryFlow (FlowWorld W) FlowOp FlowRep FlowMove}
    (ensures : t.ensures (system adapters worker) R s w h)
    (raises : t.wp (system adapters worker) (fun _ _ _ => True)
      (fun r _ _ _ => Process.Raised Blameless r) s w h)
    (rest : ∀ a s w h, R a s w h →
      (f a).wp (system adapters worker) (fun _ _ _ => True) (Condemned params) s w h) :
    (t >>= f).wp (system adapters worker) (fun _ _ _ => True) (Condemned params) s w h := by
  refine Task.wp_bind.mpr (Proc.wp_mono _ _ _ (Proc.wp_and _ _ _ ensures raises)
    (fun _ _ _ _ => trivial) ?_)
  rintro (e | a) s w h ⟨ensured, raised⟩
  · exact condemned_of_raised (raised_error (raised e rfl))
  · exact rest a s w h (ensured a rfl)

theorem opening_blameless : (opening params obj).raises Blameless :=
  Task.raises_bind node_step_blameless fun _ => Task.raises_bind node_step_blameless fun _ =>
    Task.raises_bind cycle_blameless fun _ =>
    Task.raises_bind report_isolation_blameless fun _ => settle_tier_blameless

/-- A verifier that fails blames nobody, and so does the fan-out. -/
theorem verify_blameless : (verify obj).wp (system adapters worker) (fun _ _ _ => True)
    (fun r _ _ _ => Process.Raised Blameless r) s w h := by
  refine Task.wp_bind.mpr (Task.wp_mono (Task.raises_wp emit_blameless s w h) ?_)
  rintro (e | _) s₁ w₁ h₁ raised
  · exact raised_error (raised e rfl)
  refine Task.wp_bind.mpr (Task.wp_call.mpr fun s₂ w₂ h₂ drift =>
    ⟨trivial, fun r s₃ w₃ served => ?_⟩)
  have stands : Stands (recorded "verifiers_completed" (h₂ ++ [.reply (.startVerifiers
      (verifierBrief obj.val)) r])) (recorded "aborting" (h₂ ++ [.reply (.startVerifiers
      (verifierBrief obj.val)) r])) s₃ w₃ (h₂ ++ [.reply (.startVerifiers
      (verifierBrief obj.val)) r]) := by
    refine ⟨?_, rfl, rfl⟩
    cases served
    exact Pool.raises_start (fun _ => node_step_blameless) _ _
  refine Task.wp_bind.mpr (Task.wp_mono (gather_stands stands) ?_)
  rintro _ s₄ w₄ h₄ ⟨-, gathered, rfl, raised⟩
  refine Task.wp_bind.mpr ((Task.wp_ofExcept _).mpr ?_)
  cases gathered with
  | error e => exact raised_error (raised e rfl)
  | ok objs =>
      refine Task.raises_wp (Task.raises_bind mutate_blameless fun _ =>
        Task.raises_bind collect_blameless fun _ => Task.raises_bind emit_blameless fun _ =>
        Task.raises_bind (Task.raises_update _) fun _ => Task.raises_pure _) _ _ _

theorem judge_condemned (sole : Sole obj s w h) :
    (judge params obj).wp (system adapters worker) (fun _ _ _ => True) (Condemned params)
      s w h := by
  refine mutate_sole_bind sole fun obj' s₁ is sole₁ => ?_
  have judged : Judged params obj'.val (falsifiers params obj.val.verifications) := by
    rw [is]
    exact ⟨rfl, rfl⟩
  have rejects : ∀ {s w h}, Sole obj' s w h → ((Task.raise (.rejected
      "a verifier falsified the change" (falsifiers params obj.val.verifications)) : Flow Unit) >>=
        fun _ => pure obj').wp (system adapters worker) (fun _ _ _ => True)
        (Condemned params) s w h := fun sole _ => ⟨obj', sole, judged⟩
  have passes : ∀ {s w h}, (pure obj' : Flow Obj).wp (system adapters worker)
      (fun _ _ _ => True) (Condemned params) s w h :=
    fun {_ _ _} => condemned_of_raises (Task.raises_pure _)
  dsimp only
  split
  · refine emit_latest_bind sole₁ fun s₂ w₂ h₂ sole₂ => ?_
    split
    · exact rejects sole₂
    · exact passes
  · split
    · exact rejects sole₁
    · exact passes

theorem deliver_condemned (quiet : Quiet w.pool) :
    (deliver params obj).wp (system adapters worker) (fun _ _ _ => True) (Condemned params)
      s w h := by
  have whole : deliver params obj = opening params obj >>= fun obj => verify obj >>= fun obj =>
      judge params obj >>= fun obj => gate obj >>= fun obj => nodeStep "release" obj.val >>=
      fun obj => reportEffect obj.val >>= fun _ => pure obj := by
    simp only [deliver, approach, opening, Task.bind_assoc]
  rw [whole]
  refine condemned_bind (opening_sole quiet) (Task.raises_wp opening_blameless s w h)
    fun opened s₁ w₁ h₁ sole => ?_
  refine condemned_bind (verify_sole sole.quiet) verify_blameless
    fun verified s₂ w₂ h₂ sole => ?_
  refine Task.wp_bind.mpr (Task.wp_mono (judge_condemned sole) ?_)
  rintro (e | judged) s₃ w₃ h₃ condemned
  · exact condemned
  · exact condemned_of_raises (Task.raises_bind gate_blameless fun _ =>
      Task.raises_bind node_step_blameless fun _ =>
      Task.raises_bind report_effect_blameless fun _ => Task.raises_pure _)

/-! ## The calls of Compensate and the Reporter -/

/-- The state a call hands this node. -/
def nodeCall (nodeId : String) : FlowOp → Option FlowState
  | .runNode id _ state => if id = nodeId then some state else none
  | _ => none

def Compensated (h : FlowHistory) (state : FlowState) : Prop :=
  ∃ op, .call op ∈ h ∧ nodeCall "compensate" op = some state

/-- The state holds the same against the change, and the same verifiers for advisory. -/
structure Alike (state state' : FlowState) : Prop where
  verifications : state'.verifications = state.verifications
  advisory : state'.advisoryObjections = state.advisoryObjections

/-- Compensate is handed a sentence, and the Reporter after it a state that is alike. -/
structure Fair (params : FlowInput) (before : FlowHistory) (op : FlowOp) : Prop where
  compensate : ∀ state, nodeCall "compensate" op = some state → Sentence params before state
  reporter : ∀ reported, nodeCall "reporter" op = some reported →
    ∀ state, Compensated before state → Alike state reported

def Clean (h : FlowHistory) : Prop := ∀ state, ¬ Compensated h state

/-- Calls were fair, and this is the one state that was compensated. -/
structure Fairly (params : FlowInput) (state : FlowState) (h : FlowHistory) : Prop where
  fair : CallsMeet (Fair params) h
  one : ∀ other, Compensated h other → other = state

theorem compensated_concat {l : Label FlowOp FlowRep FlowMove} :
    Compensated (h ++ [l]) state ↔
      Compensated h state ∨ ∃ op, l = .call op ∧ nodeCall "compensate" op = some state := by
  constructor
  · rintro ⟨op, mem, hands⟩
    rcases List.mem_append.mp mem with mem | mem
    · exact .inl ⟨op, mem, hands⟩
    · exact .inr ⟨op, (List.mem_singleton.mp mem).symm, hands⟩
  · rintro (⟨op, mem, hands⟩ | ⟨op, rfl, hands⟩)
    · exact ⟨op, List.mem_append_left _ mem, hands⟩
    · exact ⟨op, List.mem_append_right _ List.mem_cons_self, hands⟩

theorem Clean.concat {l : Label FlowOp FlowRep FlowMove} (clean : Clean h)
    (other : ∀ op, l = .call op → nodeCall "compensate" op = none) : Clean (h ++ [l]) := by
  intro state compensated
  rcases compensated_concat.mp compensated with before | ⟨op, same, hands⟩
  · exact clean state before
  · rw [other op same] at hands
    cases hands

/-- Before Compensate every call is fair. -/
theorem Clean.fair (clean : Clean h) : CallsMeet (Fair params) h := by
  intro before op after split
  subst split
  refine ⟨fun state hands => ?_, fun _ _ state compensated => ?_⟩
  · exact absurd ⟨op, by simp, hands⟩ (clean state)
  · obtain ⟨op', mem, hands⟩ := compensated
    exact absurd ⟨op', List.mem_append_left _ mem, hands⟩ (clean state)

theorem clean_keeps {α : Type} {t : Flow α}
    (only : t.Only fun op => nodeCall "compensate" op = none) :
    t.Keeps (system adapters worker) fun _ _ h => Clean h :=
  only.keeps (fun other clean => clean.concat fun _ same => by cases same; exact other)
    (fun clean _ => clean.concat (by simp)) fun _ clean _ => clean.concat (by simp)

theorem emit_clean {kind : String} {payload : Payload} {nodeId mode : Option String} :
    (emit kind payload nodeId mode).Keeps (system adapters worker)
      fun _ (_ : FlowWorld W) h => Clean h :=
  clean_keeps (record_only fun _ => rfl)

/-- What may be called once a state was compensated. -/
def Allowed (state : FlowState) (op : FlowOp) : Prop :=
  nodeCall "compensate" op = none ∧ ∀ reported, nodeCall "reporter" op = some reported →
    Alike state reported

theorem Fairly.idle {l : Label FlowOp FlowRep FlowMove} (fairly : Fairly params state h)
    (other : ∀ op, l ≠ .call op) : Fairly params state (h ++ [l]) := by
  refine ⟨(callsMeet_append_other other).mpr fairly.fair, fun state' compensated => ?_⟩
  rcases compensated_concat.mp compensated with before | ⟨op, same, -⟩
  · exact fairly.one state' before
  · exact absurd same (other op)

theorem fairly_keeps {α : Type} {t : Flow α} (only : t.Only (Allowed state)) :
    t.Keeps (system adapters worker) fun _ _ h => Fairly params state h := by
  refine only.keeps (fun {w h op} allowed fairly => ?_)
    (fun fairly _ => fairly.idle (by simp)) fun _ fairly _ => fairly.idle (by simp)
  refine ⟨callsMeet_append_call.mpr ⟨fairly.fair, fun state' hands => ?_, ?_⟩, ?_⟩
  · rw [allowed.1] at hands
    cases hands
  · intro reported hands state' compensated
    cases fairly.one state' compensated
    exact allowed.2 reported hands
  · intro state' compensated
    rcases compensated_concat.mp compensated with before | ⟨op', same, hands⟩
    · exact fairly.one state' before
    · cases same
      rw [allowed.1] at hands
      cases hands

/-! ## The handlers -/

theorem executes_compensate {a a' : W} {result : FlowState}
    {attempts : List (Attempt FlowState AdapterOp AdapterRep Lbl PyError Unit)}
    (ran : Executes adapters worker "compensate" state a attempts (.ok result) a') :
    ∃ cleanup, result = Compensate.record cleanup state := by
  obtain ⟨_, _, _, _, records⟩ := ran.ensured fun a => run_node_ensures rfl fun _ _ _ _ =>
    Compensate.compensate_records
  exact records

theorem sentence_of_stands {vs as : List Payload} (stands : Stands vs as s w h)
    (settled : Settled params vs as)
    (named : ∀ name, name ∈ state.rejectedBy ↔ ∃ payload ∈ as, name ∈ payload.falsifiedBy)
    (judged : state.rejectedBy ≠ [] → Judged params state state.rejectedBy) :
    Sentence params h state := by
  refine ⟨fun name => ?_, judged⟩
  rw [named name, Ended, Objected, AbortedBy, stands.verdicts, stands.abortions]
  constructor
  · intro aborted
    obtain ⟨objected, blocks⟩ := (settled name).mp aborted
    exact ⟨objected, blocks, aborted⟩
  · exact fun ended => ended.2.2

/-- Compensate is handed a sentence; what comes after it is fair if what follows is. -/
theorem compensate_step {vs as : List Payload} (stands : Stands vs as s w h) (clean : Clean h)
    (settled : Settled params vs as)
    (named : ∀ name, name ∈ state.rejectedBy ↔ ∃ payload ∈ as, name ∈ payload.falsifiedBy)
    (judged : state.rejectedBy ≠ [] → Judged params state state.rejectedBy)
    {rest : Obj → Flow FlowResult}
    (only : ∀ obj, Alike state obj.val → (rest obj).Only (Allowed state)) :
    (nodeStep "compensate" state >>= rest).wp (system adapters worker)
      (fun _ _ h => CallsMeet (Fair params) h) (fun _ _ _ h => CallsMeet (Fair params) h)
      s w h := by
  have fairly : ∀ {α : Type} {t : Flow α} {s : DeliveryFlow} {w : FlowWorld W}
      {h : FlowHistory}, t.Only (Allowed state) → Fairly params state h →
      t.wp (system adapters worker) (fun _ _ h => CallsMeet (Fair params) h)
        (fun _ _ _ h => Fairly params state h) s w h := by
    intro α t s w h only held
    exact Proc.wp_mono _ _ _ (fairly_keeps only s w h held) (fun _ _ _ held => held.fair)
      fun _ _ _ _ held => held
  have events : ∀ event, Allowed state (.recordEvent event) :=
    fun event => ⟨rfl, fun _ absurd => by cases absurd⟩
  have begins : (emit "node_started" .empty (some "compensate")).Keeps (system adapters worker)
      fun s (w : FlowWorld W) h => Stands vs as s w h ∧ Clean h :=
    (emit_stands_still (by decide) (by decide)).and emit_clean
  refine Task.wp_bind.mpr (Task.wp_bind.mpr ((Task.wp_update _).mpr (Task.wp_bind.mpr ?_)))
  refine Proc.wp_mono _ _ _ (begins _ w h ⟨⟨stands.pool, stands.verdicts, stands.abortions⟩, clean⟩)
    (fun _ _ _ held => held.2.fair) ?_
  rintro (e | _) s₁ w₁ h₁ ⟨stands₁, clean₁⟩
  · exact clean₁.fair
  have sentence := sentence_of_stands stands₁ settled named judged
  refine Task.wp_bind.mpr (Task.wp_bind.mpr (Task.wp_read.mpr (Task.wp_call.mpr
    fun s₂ w₂ h₂ drift => ?_)))
  have called : Fairly params state (h₁ ++ [.call (.runNode "compensate"
      ("compensate" ++ "#" ++ Text.ofNat s₁.seq) state)]) := by
    refine ⟨callsMeet_append_call.mpr ⟨clean₁.fair, fun state' hands => ?_, ?_⟩, ?_⟩
    · cases hands
      exact sentence
    · intro reported hands
      cases hands
    · intro state' compensated
      rcases compensated_concat.mp compensated with before | ⟨op, same, hands⟩
      · exact absurd before (clean₁ state')
      · cases same
        cases hands
        rfl
  have out : Fairly params state h₂ := Task.keeps_drift (P := fun _ _ h => Fairly params state h)
    (fun held _ => held.idle (by simp)) called drift
  refine ⟨out.fair, fun reply s₃ w₃ served => ?_⟩
  have answered := out.idle (l := .reply (.runNode "compensate"
    ("compensate" ++ "#" ++ Text.ofNat s₁.seq) state) reply) (by simp)
  cases reply with
  | error exc =>
      refine Task.wp_bind.mpr (Task.wp_mono (fairly (record_only fun _ => events _) answered) ?_)
      rintro (e | _) s w h held
      · exact held.fair
      · exact held.fair
  | ok result =>
      have alike : Alike state result := by
        cases served with
        | runNode executes =>
            obtain ⟨cleanup, rfl⟩ := executes_compensate executes
            exact ⟨rfl, rfl⟩
      refine publish_bind (Task.wp_bind.mpr (Task.wp_mono (fairly (record_only fun _ => events _) answered) ?_))
      rintro (e | _) s w h held
      · exact held.fair
      · have follows := fairly (s := seen ⟨s₃.fresh, { result with notes := none }⟩ s) (w := w)
          (only ⟨s₃.fresh, { result with notes := none }⟩ ⟨alike.verifications, alike.advisory⟩)
          held
        have fair := Task.wp_mono (R := fun _ _ _ h => CallsMeet (Fair params) h) follows
          fun _ _ _ _ held => held.fair
        exact fair

/-- What follows Compensate: its cleanup, the Reporter and the end of the run. -/
theorem reporter_only (alike : Alike state obj.val) : (nodeStep "reporter" obj.val).Only
    (Allowed state) := by
  refine step_only (fun event _ => ⟨rfl, fun _ absurd => by cases absurd⟩) fun activityId =>
    ⟨rfl, fun reported hands => ?_⟩
  cases hands
  exact alike

theorem finish_allowed : finish.Only (Allowed state) :=
  Task.only_bind Task.only_read fun _ =>
    Task.only_bind (record_only fun seq => ⟨rfl, fun _ absurd => by cases absurd⟩) fun _ =>
    Task.only_bind Task.only_read fun _ => Task.only_call ⟨rfl, fun _ absurd => by cases absurd⟩

theorem cleanup_allowed : (emitCleanup obj.val).Only (Allowed state) :=
  cleanup_only fun event _ => ⟨rfl, fun _ absurd => by cases absurd⟩

/-- However the delivery of a change ended, the calls that follow are fair. -/
theorem ending_fair {first : Obj} {outcome : Except FlowExc Obj} (held : Outcome params outcome s w h)
    (condemned : Condemned params outcome s w h)
    (left : (Hereditary.trait W fun state => state.rejectedBy = []).left id outcome s w h)
    (start : first.val.rejectedBy = []) (clean : Clean h) :
    (ending params first outcome).wp (system adapters worker)
      (fun _ _ h => CallsMeet (Fair params) h) (fun _ _ _ h => CallsMeet (Fair params) h)
      s w h := by
  obtain ⟨vs, stands, blames⟩ := held
  have tails : ∀ {state : FlowState} {status : String} {f : Obj → Flow FlowResult},
      (∀ obj, Alike state obj.val → (f obj).Only (Allowed state)) → ∀ obj, Alike state obj.val →
      (emitCleanup obj.val >>= fun _ => Task.update (fun flow => { flow with status := status })
        >>= fun _ => f obj).Only (Allowed state) :=
    fun only obj alike => Task.only_bind cleanup_allowed fun _ =>
      Task.only_bind (Task.only_update _) fun _ => only obj alike
  have nobody : ∀ name, (∃ payload ∈ ([] : List Payload), name ∈ payload.falsifiedBy) ↔
      name ∈ ([] : List String) := by simp
  rcases outcome with (⟨reason, falsifiedBy⟩ | ⟨error, message⟩) | obj
  · -- The exception names the verifiers; the latest state is the one they were named from.
    have known : (emit "aborting" (.aborting reason falsifiedBy)).wp (system adapters worker)
        (fun _ _ _ => True) (fun _ s w h => falsifiedBy ≠ [] →
          ∃ obj, Sole obj s w h ∧ Judged params obj.val falsifiedBy) s w h := by
      by_cases some : falsifiedBy = []
      · exact Task.wp_mono (Task.ensures_trivial _) fun _ _ _ _ _ filled => absurd some filled
      · obtain ⟨obj, sole, judged⟩ := condemned some
        exact Task.wp_mono (emit_latest sole) fun _ _ _ _ emitted _ => ⟨obj, emitted.2, judged⟩
    refine Task.wp_bind.mpr (Proc.wp_mono _ _ _ (Proc.wp_and _ _ _ (Proc.wp_and _ _ _
      (emit_stands stands) known) (emit_clean s w h clean)) (fun _ _ _ held => held.2.fair) ?_)
    rintro _ s₁ w₁ h₁ ⟨⟨⟨rfl, stands₁⟩, known⟩, clean₁⟩
    have stands₁ : Stands vs [.aborting reason falsifiedBy] s₁ w₁ h₁ := by simpa using stands₁
    have settled : Settled params vs [.aborting reason falsifiedBy] := by
      intro name
      rw [← blames name]
      simp [Payload.falsifiedBy, blamed, FlowExc.falsifiedBy]
    rw [Task.andThen_ok]
    refine doomed_latest_bind (mutate_bind fun s₂ => ?_)
    refine compensate_step ⟨stands₁.pool, stands₁.verdicts, stands₁.abortions⟩ clean₁ settled
      (fun name => ?_) (fun some => ?_) (tails fun obj alike => ?_)
    · simp [Payload.falsifiedBy]
    · obtain ⟨obj, sole, judged⟩ := known some
      have latest : s₁.latest.getD first = obj := by rw [sole.same]; rfl
      rw [latest]
      exact ⟨judged.falsified, judged.overruled⟩
    · exact Task.only_bind (reporter_only alike) fun _ => Task.only_bind finish_allowed fun _ =>
        Task.only_bind Task.only_read fun _ => Task.only_pure _
  · -- The exception blames nobody, and the latest state names nobody yet.
    have event : (Hereditary.trait W fun state => state.rejectedBy = []).Bears adapters worker
        first (emit "run_failed" (.failure error message)) fun _ => first :=
      spotless.bears_event
    refine Task.wp_bind.mpr (Proc.wp_mono _ _ _ (Proc.wp_and _ _ _ (Proc.wp_and _ _ _
      (emit_stands stands) (event s w h ⟨start, left⟩))
      (emit_clean s w h clean)) (fun _ _ _ held => held.2.fair) ?_)
    rintro _ s₁ w₁ h₁ ⟨⟨⟨rfl, stands₁⟩, left₁⟩, clean₁⟩
    have stands₁ : Stands vs [] s₁ w₁ h₁ := by simpa using stands₁
    have named : (s₁.latest.getD first).val.rejectedBy = [] := by
      cases latest : s₁.latest with
      | none => exact start
      | some obj => exact left₁.2.latest obj latest
    have settled : Settled params vs [] := fun name => (nobody name).trans (blames name)
    rw [Task.andThen_ok]
    refine doomed_latest_bind (compensate_step stands₁ clean₁ settled (fun name => ?_) (fun some => absurd named some)
      (tails fun obj alike => ?_))
    · rw [named]
      simp
    · exact Task.only_bind (reporter_only alike) fun _ => Task.only_bind finish_allowed fun _ =>
        Task.only_raise _
  · have keeps : (ending params first (.ok obj)).Keeps (system adapters worker)
        fun _ _ h => Clean h := by
      refine clean_keeps (Task.only_bind (Task.only_update _) fun _ => conclude_only ?_ ?_)
      · intro op plain
        cases op with
        | runNode nodeId _ _ =>
            refine if_neg ?_
            rintro rfl
            exact plain.1 (by decide)
        | _ => rfl
      · intro op ends
        cases op with
        | runNode => cases ends
        | _ => rfl
    exact Proc.wp_mono _ _ _ (keeps s w h clean) (fun _ _ _ clean => clean.fair)
      fun _ _ _ _ clean => clean.fair

/-! ## A run -/

theorem run_fair (params : FlowInput) (a : W) :
    (run params).wp (system adapters worker) (fun _ _ h => CallsMeet (Fair params) h)
      (fun _ _ _ h => CallsMeet (Fair params) h) {} ⟨a, {}, .empty⟩ [] := by
  have begins : (Task.call (FlowOp.recordRunStarted (started params)) : Flow Unit).Keeps
      (system adapters worker) fun s (w : FlowWorld W) h =>
        ((Stands [] [] s w h ∧ Clean h) ∧ Latest none s w h) ∧
          (Hereditary.trait W fun state => state.rejectedBy = []).held ⟨0, initial params⟩ s w h :=
    (((call_stands (by simp)).and (clean_keeps (Task.only_call rfl))).and
      (latest_call (by simp))).and (spotless.call_keeps (by simp))
  have delivers : ∀ (s : DeliveryFlow) (w : FlowWorld W) (h : FlowHistory), Clean h →
      (deliver params ⟨0, initial params⟩).wp (system adapters worker) (fun _ _ h => Clean h)
        (fun _ _ _ h => Clean h) s w h := by
    refine clean_keeps (deliver_only ?_ ?_ ?_ ?_ fun _ _ => rfl)
    · intro op plain
      cases op with
      | runNode nodeId _ _ =>
          refine if_neg ?_
          rintro rfl
          exact plain.1 (by decide)
      | _ => rfl
    · intro op cycles
      cases op with
      | runNode nodeId _ _ =>
          cases show nodeId = "coder" from cycles
          rfl
      | _ => rfl
    · intro op fans
      cases op with
      | runNode => cases fans
      | _ => rfl
    · intro op suspends
      cases op with
      | runNode => cases suspends
      | _ => rfl
  refine Task.wp_bind.mpr (Task.wp_read.mpr ?_)
  rw [Task.andThen_ok]
  refine Task.wp_bind.mpr ((Task.wp_update _).mpr ?_)
  rw [Task.andThen_ok]
  refine Task.wp_bind.mpr (Proc.wp_mono _ _ _ (begins _ _ _ ⟨⟨⟨stands_start a _, ?_⟩,
    quiet_empty, rfl⟩, rfl, ⟨?_, default, [], rfl, by simp, ?_⟩⟩)
    (fun _ _ _ held => held.1.1.2.fair) ?_)
  · rintro state ⟨op, mem, -⟩
    cases mem
  · intro obj absurd
    cases absurd
  · intro entry mem
    cases mem
  rintro (e | _) s₁ w₁ h₁ ⟨⟨⟨stands, clean⟩, latest⟩, held⟩
  · exact clean.fair
  refine Task.wp_bind.mpr (Task.wp_attempt.mpr (Proc.wp_mono _ _ _ (Proc.wp_and _ _ _
    (Proc.wp_and _ _ _ (deliver_outcome stands) (deliver_condemned latest.quiet))
    (Proc.wp_and _ _ _ (Cargo.bears_deliver spotless.carried _ _ _ held)
      (delivers _ _ _ clean))) (fun _ _ _ held => held.2.2.fair) ?_))
  rintro outcome s₂ w₂ h₂ ⟨⟨settles, condemned⟩, left, clean₂⟩
  exact ending_fair settles condemned left rfl clean₂

/-- What Compensate returned in a run is its record. -/
theorem compensation_recorded {a : W} {c : FlowConfig W}
    (run : Runs adapters worker params a c) {activityId : String} {result : FlowState}
    (replied : .reply (.runNode "compensate" activityId state) (.ok result) ∈ c.history) :
    ∃ cleanup, result = Compensate.record cleanup state := by
  have honest : (system adapters worker).Honest c.history :=
    System.Reaches.honest run (System.honest_launch System.honest_nil)
  have executed : (⟨"compensate", state, result⟩ : Execution) ∈ executions c.history :=
    List.mem_filterMap.mpr
      ⟨.reply (.runNode "compensate" activityId state) (.ok result), replied, rfl⟩
  obtain ⟨_, _, _, ran⟩ := executed_honest honest executed
  exact executes_compensate ran

/-- The record of Compensate and the comments of the Reporter after it name the verifiers whose
objection ended the run, and nobody else. -/
structure Attributed (params : FlowInput) (before after : FlowHistory) (result : FlowState) :
    Prop where
  record : ∀ name, Compensate.Names result.notes name ↔ Ended params before name
  comment : ∀ activityId reported, .call (.runNode "reporter" activityId reported) ∈ after →
    ∀ name, Reporter.Names reported name ↔ Ended params before name

/-- Whatever stopped a run, whatever the verdicts were and whichever verifiers may block: the
headline of Compensate names those whom its record names, and these and the names in the
Reporter's comment are right exactly if verifiers that may block rejected the change, or none
of the verdicts that Compensate is handed is against it. -/
theorem attributed_iff {a : W} {c : FlowConfig W} (run : Runs adapters worker params a c)
    {before after : FlowHistory} {activityId : String} {state result : FlowState}
    (split : c.history = before ++ .call (.runNode "compensate" activityId state) :: after)
    (replied : .reply (.runNode "compensate" activityId state) (.ok result) ∈ after) :
    (∃ names, (∀ name, name ∈ names ↔ Compensate.Names result.notes name) ∧
      (names ≠ [] → Compensate.Headed result.notes names)) ∧
    (Attributed params before after result ↔
      state.rejectedBy ≠ [] ∨ ∀ v ∈ state.verifications, v.passed = true) := by
  have fair : CallsMeet (Fair params) c.history := by
    have sound := wp_sound (run_fair params a) run
    split at sound
    · exact sound
    · exact sound
  have sentence := (fair before _ after split).compensate state rfl
  obtain ⟨cleanup, rfl⟩ := compensation_recorded run (split ▸
    List.mem_append_right _ (List.mem_cons_of_mem _ replied))
  refine ⟨⟨(Compensate.blocking state).map Verification.verifier, fun name => ?_, fun some => ?_⟩,
    ?_⟩
  · rw [Compensate.names_record, List.mem_map]
  · refine Compensate.headed_record fun none => some ?_
    rw [none]
    rfl
  constructor
  · intro attributed
    refine sentence.blocking_iff.mp fun name => ?_
    rw [← attributed.record name, Compensate.names_record]
  · intro either
    refine ⟨fun name => ?_, fun reporting reported mem name => ?_⟩
    · rw [Compensate.names_record]
      exact sentence.blocking_iff.mpr either name
    · obtain ⟨front, back, rfl⟩ := List.append_of_mem mem
      rw [← List.cons_append, ← List.append_assoc] at split
      have alike := (fair _ _ _ split).reporter reported rfl state
        ⟨.runNode "compensate" activityId state, by simp, rfl⟩
      exact sentence.names_iff either alike.verifications alike.advisory name

/-! ## A run whose release fails -/

/-- One verifier objects, and no pull request can be opened. -/
def advise : (op : AdapterOp) → AdapterRep op
  | .complete nodeId _ =>
      .ok (if nodeId = "verifier.security" then objection else ⟨none, {}, "m"⟩)
  | .openPullRequest _ _ _ _ _ _ => .error ⟨.lookupError, "not found", none⟩
  | op => oblige op

/-- The verifier that objects may not block. -/
def advisedParams : FlowInput := { shopParams with blockingVerifiers := ["correctness"] }

def advisedRun : FlowConfig Unit :=
  (answeringScript advise).run plainWorker [] advisedParams () 100

theorem advisedRun_runs : Runs (answering advise) plainWorker advisedParams () advisedRun :=
  Script.run_runs _ _ _ _ _ _

/-- What Compensate returns, if this is its answer. -/
def compensation : Label FlowOp FlowRep FlowMove → Option (String × FlowState × FlowState)
  | .reply (.runNode nodeId activityId state) reply =>
      if nodeId = "compensate" then
        match (show Except PyError FlowState from reply) with
        | .ok result => some (activityId, state, result)
        | .error _ => none
      else none
  | _ => none

theorem replied_of_findSome {activityId : String} {result : FlowState}
    (found : h.findSome? compensation = some (activityId, state, result)) :
    .reply (.runNode "compensate" activityId state) (.ok result) ∈ h := by
  obtain ⟨l, mem, answers⟩ := List.exists_of_findSome?_eq_some found
  unfold compensation at answers
  split at answers
  next nodeId activityId given reply =>
    split_ifs at answers with same
    subst same
    cases reply with
    | error e => cases answers
    | ok result => cases answers; exact mem
  next => cases answers

/-- Compensate is handed one verdict against the change, and no verifier's rejection. -/
def overruledOnly (answer : String × FlowState × FlowState) : Bool :=
  answer.2.1.rejectedBy.isEmpty &&
    answer.2.1.verifications.any fun v => v.verifier = "security" && !v.passed

/-- That run compensates a rejection that nobody is blamed for, and is aborted by no one. -/
theorem advisedRun_plays : (advisedRun.history.findSome? compensation).any overruledOnly = true ∧
    (recorded "aborting" advisedRun.history).isEmpty = true := by
  decide +kernel

/-- How Compensate was called in that run, and what it was handed. -/
theorem advisedRun_compensated : ∃ before activityId state result after,
    advisedRun.history = before ++ .call (.runNode "compensate" activityId state) :: after ∧
      .reply (.runNode "compensate" activityId state) (.ok result) ∈ after ∧
      overruledOnly (activityId, state, result) = true := by
  obtain ⟨⟨activityId, state, result⟩, found, overruled⟩ :=
    (Option.any_eq_true _ _).mp advisedRun_plays.1
  have paired := (System.Reaches.pairs advisedRun_runs (Config.pairs_launch paired_nil)).past
  obtain ⟨before, after, split, replied⟩ := paired _ _ (replied_of_findSome found)
  exact ⟨before, activityId, state, result, after, split, replied, overruled⟩

theorem attributed_iff_advised : ∃ before activityId state result after,
    advisedRun.history = before ++ .call (.runNode "compensate" activityId state) :: after ∧
      (∃ names, (∀ name, name ∈ names ↔ Compensate.Names result.notes name) ∧
        (names ≠ [] → Compensate.Headed result.notes names)) ∧
      (Attributed advisedParams before after result ↔
        state.rejectedBy ≠ [] ∨ ∀ v ∈ state.verifications, v.passed = true) := by
  obtain ⟨before, activityId, state, result, after, split, replied, -⟩ := advisedRun_compensated
  exact ⟨before, activityId, state, result, after, split,
    attributed_iff advisedRun_runs split replied⟩

/-- Compensate says of an advisory verifier that it blocked a change whose release failed. -/
theorem advisory_blamed : ∃ before activityId state result after,
    Runs (answering advise) plainWorker advisedParams () advisedRun ∧
      advisedRun.history =
        before ++ .call (.runNode "compensate" activityId state) :: after ∧
      .reply (.runNode "compensate" activityId state) (.ok result) ∈ after ∧
      "security" ∉ blockingSet advisedParams ∧ ¬ Attributed advisedParams before after result := by
  obtain ⟨before, activityId, state, result, after, split, replied, overruled⟩ :=
    advisedRun_compensated
  obtain ⟨cleanup, rfl⟩ := compensation_recorded advisedRun_runs (split ▸
    List.mem_append_right _ (List.mem_cons_of_mem _ replied))
  refine ⟨before, activityId, state, _, after, advisedRun_runs, split, replied, by decide,
    fun attributed => ?_⟩
  have named : Compensate.Names (Compensate.record cleanup state).notes "security" := by
    simp only [overruledOnly, Bool.and_eq_true, List.isEmpty_iff, List.any_eq_true,
      decide_eq_true_eq, Bool.not_eq_true'] at overruled
    obtain ⟨nobody, v, mem, name, failed⟩ := overruled
    exact Compensate.names_record.mpr
      ⟨v, Compensate.mem_blocking.mpr ⟨mem, failed, .inl nobody⟩, name⟩
  obtain ⟨-, -, payload, aborted, -⟩ := (attributed.record _).mp named
  have none : recorded "aborting" advisedRun.history = [] :=
    List.isEmpty_iff.mp advisedRun_plays.2
  rw [split, recorded, List.flatMap_append, List.append_eq_nil_iff] at none
  rw [recorded, none.1] at aborted
  cases aborted

end KuWarden.Flow
