import KuWarden.Flows.Verdicts

/-!
Whether a verdict can be derived again from the findings it is stored with.

`judge` computes the verdict, the prose and the graded findings from one list. The verdict that
reaches the state is `judge`'s own, but for `test_evidence`, which makes a new one of it.
-/
namespace KuWarden.Verifiers

open Process

/-- The verdict agrees with the graded findings, and each of them has its line in the prose. -/
structure SelfConsistent (verdict : Verification) : Prop where
  passed : verdict.passed = true ↔ ∀ finding ∈ verdict.graded, finding.severity ≠ "blocking"
  findings : (verdict.graded.map rendered).Sublist verdict.findings

/-- The same of the row that a reader of `verifiers_completed` checks. -/
structure Derivable (row : VerdictRow) : Prop where
  blocks : row.blocks = true ↔ ∃ finding ∈ row.graded, finding.severity = "blocking"
  findings : (row.graded.map rendered).Sublist row.findings

theorem derivable_iff {verdict : Verification} :
    Derivable (Flow.verdictRow verdict) ↔ SelfConsistent verdict := by
  constructor
  · rintro ⟨blocks, findings⟩
    refine ⟨?_, findings⟩
    rw [← not_iff_not] at blocks
    simpa [Flow.verdictRow] using blocks
  · rintro ⟨passed, findings⟩
    refine ⟨?_, findings⟩
    rw [← not_iff_not]
    simpa [Flow.verdictRow] using passed

def gradedOf (completion : Completion) : List Finding :=
  grade ((completion.parsed.getD []).get "findings")

/-- What `judge` makes of a completion. -/
def verdictOf (verifierId : String) (completion : Completion) : Verification where
  verifier := verifierId
  passed := !blocks (gradedOf completion)
  findings := (gradedOf completion).map rendered
  graded := gradedOf completion

/-- What `test_evidence` makes of `judge`'s verdict: the graded findings are left out. -/
def rebuilt (computed : List String) (verdict : Verification) : Verification where
  verifier := verdict.verifier
  passed := verdict.passed
  findings := computed ++ verdict.findings

theorem blocks_eq_false {graded : List Finding} :
    blocks graded = false ↔ ∀ finding ∈ graded, finding.severity ≠ "blocking" := by
  simp [blocks]

theorem verdictOf_consistent (verifierId : String) (completion : Completion) :
    SelfConsistent (verdictOf verifierId completion) where
  passed := by
    rw [← blocks_eq_false]
    simp [verdictOf]
  findings := List.Sublist.refl _

theorem rebuilt_consistent {computed : List String} {verdict : Verification} :
    SelfConsistent (rebuilt computed verdict) ↔ verdict.passed = true := by
  constructor
  · intro held
    exact held.passed.mpr (by simp [rebuilt])
  · intro passed
    exact ⟨by simpa [rebuilt] using passed, List.nil_sublist _⟩

/-! ## The verdict that reaches the state -/

section
variable {W Lbl : Type} {adapters : Adapters W Lbl} {ctx : NodeContext} {w : W}
  {h : History AdapterOp AdapterRep Lbl} {verifierId extra : String}

/-- `completion` is what the model answered, and nothing else was asked of it. -/
def Answered (completion : Completion) (h : History AdapterOp AdapterRep Lbl) : Prop :=
  answers h = [.ok completion]

theorem judge_graded {s : FlowState} (unanswered : Unanswered s s w h) :
    (judge ctx verifierId extra).ensures adapters.system (fun answer s' _ h' =>
      s'.verifications = s.verifications ∧ ∃ completion, Answered completion h' ∧
        answer.1 = verdictOf verifierId completion) s w h := by
  unfold judge
  dsimp only
  split
  next llm _ =>
    refine Task.ensures_ofExcept_bind.mpr fun settings _ => ?_
    refine Task.ensures_ofExcept_bind.mpr fun _ _ => ?_
    refine Task.ensures_bind (unanswered_neighbourhood.ensures unanswered) ?_
    rintro ⟨repository, assembly⟩ s₁ w₁ h₁ ⟨rfl, none⟩
    refine Task.ensures_read_bind.mpr ?_
    refine Task.ensures_bind (R := fun reply s' _ h' => s' = s₁ ∧ answers h' = [reply])
      (ask_model ⟨rfl, none⟩ fun answer w' h' answered => ?_) ?_
    · rintro reply ⟨rfl⟩
      exact ⟨rfl, answered⟩
    rintro reply s₂ w₂ h₂ ⟨rfl, answered⟩
    cases reply with
    | error exc =>
        dsimp only
        split <;> exact Task.ensures_raise
    | ok completion =>
        exact Task.ensures_update_bind.mpr
          (Task.ensures_pure ⟨rfl, completion, answered, rfl⟩)
  next => exact Task.ensures_raise

/-- The one verdict that a verifier adds, made of the completion by `make`. -/
def Adds (make : Completion → Verification → Prop) (before after : FlowState)
    (h : History AdapterOp AdapterRep Lbl) : Prop :=
  ∃ completion verdict, Answered completion h ∧ make completion verdict ∧
    after.verifications = before.verifications ++ [verdict]

theorem asking_adds {s : FlowState} (unanswered : Unanswered s s w h) :
    (asking verifierId ctx).ensures adapters.system (fun _ s' _ h' =>
      Adds (fun completion verdict => verdict = verdictOf verifierId completion) s s' h')
      s w h := by
  refine Task.ensures_bind (judge_graded unanswered) ?_
  rintro ⟨verdict, notes⟩ s' w' h' ⟨same, completion, answered, is⟩
  exact Task.ensures_update ⟨completion, verdict, answered, is, congrArg (· ++ [_]) same⟩

theorem test_evidence_adds {s : FlowState} (unanswered : Unanswered s s w h) :
    (testEvidence ctx).ensures adapters.system (fun _ s' _ h' =>
      Adds (fun completion verdict =>
        ∃ computed, verdict = rebuilt computed (verdictOf "test_evidence" completion)) s s' h')
      s w h := by
  refine Task.ensures_bind (unanswered_baseTree.ensures unanswered) ?_
  rintro before s₁ w₁ h₁ ⟨rfl, none⟩
  refine Task.ensures_read_bind.mpr (Task.ensures_bind (judge_graded ⟨rfl, none⟩) ?_)
  rintro ⟨verdict, judged⟩ s₂ w₂ h₂ ⟨same, completion, answered, is⟩
  refine Task.ensures_update ⟨completion,
    rebuilt (ctx.reading.evaluate before s₁.proposedEdits).findings verdict, answered,
    ⟨_, congrArg (rebuilt _) is⟩, congrArg (· ++ [_]) same⟩

/-- What is known of the verdict that a verifier adds. -/
def Decided (verifierId : String) (before after : FlowState)
    (h : History AdapterOp AdapterRep Lbl) : Prop :=
  ∃ completion verdict, Answered completion h ∧
    after.verifications = before.verifications ++ [verdict] ∧
    (SelfConsistent verdict ↔
      (verifierId = "test_evidence" → blocks (gradedOf completion) = false))

theorem asking_decides {s : FlowState} (unanswered : Unanswered s s w h)
    (other : verifierId ≠ "test_evidence") :
    (asking verifierId ctx).ensures adapters.system
      (fun _ s' _ h' => Decided verifierId s s' h') s w h := by
  refine Task.ensures_mono (asking_adds unanswered) ?_
  rintro _ s' w' h' ⟨completion, verdict, answered, rfl, added⟩
  exact ⟨completion, _, answered, added,
    fun _ same => absurd same other, fun _ => verdictOf_consistent verifierId completion⟩

theorem test_evidence_decides {s : FlowState} (unanswered : Unanswered s s w h) :
    (testEvidence ctx).ensures adapters.system
      (fun _ s' _ h' => Decided "test_evidence" s s' h') s w h := by
  refine Task.ensures_mono (test_evidence_adds unanswered) ?_
  rintro _ s' w' h' ⟨completion, verdict, answered, ⟨computed, rfl⟩, added⟩
  refine ⟨completion, _, answered, added, ?_⟩
  rw [rebuilt_consistent]
  simp [verdictOf]

/-- The verdict that a verifier puts on the state, and the row that is made of it, can be derived
again from the findings they hold, unless `test_evidence` was given a blocking one. -/
theorem verdict_consistent_iff {fn : NodeContext → Node Unit} {s s' : FlowState}
    {c : Config FlowState W AdapterOp AdapterRep Lbl (Except PyError Unit)}
    (known : (verifierId, fn) ∈ verifiers)
    (run : adapters.system.Reaches (.launch (fn ctx s) w []) c)
    (done : c.proc = .done s' (.ok ())) :
    ∃ completion verdict, Answered completion c.history ∧
      s'.verifications = s.verifications ++ [verdict] ∧
      (SelfConsistent verdict ↔
        (verifierId = "test_evidence" → blocks (gradedOf completion) = false)) ∧
      (Derivable (Flow.verdictRow verdict) ↔
        (verifierId = "test_evidence" → blocks (gradedOf completion) = false)) := by
  have start : (Unanswered s : Assertion FlowState W AdapterOp AdapterRep Lbl) s w [] :=
    ⟨rfl, rfl⟩
  have decides : (fn ctx).ensures adapters.system
      (fun _ s' _ h' => Decided verifierId s s' h') s w [] := by
    simp only [verifiers, List.mem_cons, List.not_mem_nil, or_false, Prod.mk.injEq] at known
    rcases known with ⟨rfl, rfl⟩ | ⟨rfl, rfl⟩ | ⟨rfl, rfl⟩ | ⟨rfl, rfl⟩
    · exact asking_decides start (by simp)
    · exact asking_decides start (by simp)
    · exact test_evidence_decides start
    · exact asking_decides start (by simp)
  obtain ⟨completion, verdict, answered, added, held⟩ :=
    Task.ensures_sound decides run done
  exact ⟨completion, verdict, answered, added, held, derivable_iff.trans held⟩

end

/-! ## A blocking finding -/

def blockingFinding : Completion :=
  ⟨some [(.str "findings", .list [.dict [(.str "detail", .str "the tests assert nothing"),
    (.str "severity", .str "blocking")]])], {}, "m"⟩

def block : (op : AdapterOp) → AdapterRep op
  | .complete _ _ => .ok blockingFinding
  | op => Flow.oblige op

theorem verdict_consistent_iff_blocked : ∃ c s',
    (Flow.answering block).system.Reaches (.launch (correctness shopContext default) () []) c ∧
      c.proc = .done s' (.ok ()) ∧
      ∃ completion verdict, Answered completion c.history ∧
        s'.verifications = [] ++ [verdict] ∧
        (SelfConsistent verdict ↔
          ("correctness" = "test_evidence" → blocks (gradedOf completion) = false)) ∧
        (Derivable (Flow.verdictRow verdict) ↔
          ("correctness" = "test_evidence" → blocks (gradedOf completion) = false)) := by
  have ends : (Flow.returned (Flow.played block (correctness shopContext) default)).isSome = true := by
    decide +kernel
  obtain ⟨s', ceased⟩ := Option.isSome_iff_exists.mp ends
  have run := Flow.played_reaches block (correctness shopContext) default
  have done := Flow.done_of_returned ceased
  exact ⟨_, s', run, done, verdict_consistent_iff (List.mem_cons_self ..) run done⟩

/-- The verdict says that it blocks, and holds no finding that does. -/
theorem test_evidence_underivable : ∃ c s' verdict,
    (Flow.answering block).system.Reaches (.launch (testEvidence shopContext default) () []) c ∧
      c.proc = .done s' (.ok ()) ∧ s'.verifications = [verdict] ∧
      ¬ SelfConsistent verdict ∧ ¬ Derivable (Flow.verdictRow verdict) := by
  have ends : (Flow.returned (Flow.played block (testEvidence shopContext) default)).map
      FlowState.verifications = some [rebuilt [] (verdictOf "test_evidence" blockingFinding)] := by
    decide +kernel
  obtain ⟨s', ceased, added⟩ := Option.map_eq_some_iff.mp ends
  have inconsistent : ¬ SelfConsistent (rebuilt [] (verdictOf "test_evidence" blockingFinding)) := by
    intro held
    exact absurd (rebuilt_consistent.mp held) (by decide +kernel)
  exact ⟨_, s', _, Flow.played_reaches block _ _, Flow.done_of_returned ceased, added, inconsistent,
    fun held => inconsistent (derivable_iff.mp held)⟩

end KuWarden.Verifiers
