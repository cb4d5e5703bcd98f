import KuWarden.Flows.Play

/-!
What a verifier makes of the answer to its model call, whatever that is.
-/
namespace KuWarden.Verifiers

open Process

/-- The four verifiers, by the name their verdicts carry. -/
def verifiers : List (String × (NodeContext → Node Unit)) := [
  ("correctness", correctness),
  ("security", security),
  ("test_evidence", testEvidence),
  ("regression_risk", regressionRisk)]

def answerOf {L : Type} : Label AdapterOp AdapterRep L → List (Except PyError Completion)
  | .reply (.complete _ _) answer => [answer]
  | _ => []

/-- What the model calls of a node were answered. -/
def answers {L : Type} (h : History AdapterOp AdapterRep L) : List (Except PyError Completion) :=
  h.flatMap answerOf

/-- One verdict more under the verifier's name, notes on it, and no pass without a
completion. -/
structure FailsClosed (verifierId : String) (answer : Except PyError Completion)
    (before : FlowState) (r : Except PyError Unit) (after : FlowState) : Prop where
  returned : r = .ok ()
  verdict : ∃ verdict : Verification, verdict.verifier = verifierId ∧
    after.verifications = before.verifications ++ [verdict] ∧
      ∀ e, answer = .error e → verdict.passed = false
  noted : after.notes.isSome

variable {W Lbl : Type} {adapters : Adapters W Lbl} {ctx : NodeContext} {w : W}
  {h : History AdapterOp AdapterRep Lbl} {verifierId extra : String}

theorem answers_append (h h' : History AdapterOp AdapterRep Lbl) :
    answers (h ++ h') = answers h ++ answers h' := List.flatMap_append

theorem answers_drift {s s' : FlowState} {w w' : W} {h h' : History AdapterOp AdapterRep Lbl}
    (drift : adapters.system.Drift s w h s' w' h') : answers h' = answers h := by
  induction drift with
  | refl => rfl
  | step _ _ ih =>
      rw [answers_append, ih]
      exact List.append_nil _

/-- The node stands as it began, and no model has answered. -/
def Unanswered (before : FlowState) : Assertion FlowState W AdapterOp AdapterRep Lbl :=
  fun s _ h => s = before ∧ answers h = []

theorem unanswered_ask {before : FlowState} {op : AdapterOp}
    (other : ∀ nodeId request, op ≠ .complete nodeId request) :
    (Node.ask op).Keeps adapters.system (Unanswered before) := by
  rintro s w h ⟨rfl, none⟩
  refine Node.wp_ask.mpr ?_
  intro s' w' h' drift
  cases Node.drift_state drift
  have silent : answers h' = [] := by
    rw [answers_drift drift, answers_append, none]
    rfl
  refine ⟨⟨rfl, silent⟩, ?_⟩
  rintro r s'' w'' ⟨rfl, -⟩
  refine ⟨rfl, ?_⟩
  rw [answers_append, silent]
  cases op with
  | complete nodeId request => exact absurd rfl (other nodeId request)
  | _ => rfl

theorem unanswered_neighbourhood {before : FlowState} :
    (neighbourhood ctx).Keeps adapters.system (Unanswered before) := by
  refine Task.keeps_bind Task.keeps_read fun state => ?_
  split
  · refine Task.keeps_bind (Task.keeps_attempt ?_) fun outcome => ?_
    · exact Task.keeps_bind (Task.keeps_ofExcept _) fun _ =>
        Task.keeps_bind (Task.keeps_ofExcept _) fun _ => unanswered_ask (by simp)
    · split <;> exact Task.keeps_pure _
  · exact Task.keeps_pure _

theorem unanswered_baseTree {before : FlowState} :
    (baseTree ctx).Keeps adapters.system (Unanswered before) := by
  refine Task.keeps_bind Task.keeps_read fun state => ?_
  split
  · exact Task.keeps_bind (Task.keeps_ofExcept _) fun _ =>
      Task.keeps_bind (Task.keeps_ofExcept _) fun _ =>
      Task.keeps_bind (unanswered_ask (by simp)) fun _ => Task.keeps_pure _
  · exact Task.keeps_pure _

/-- What `judge` makes of each answer. -/
inductive Judged (verifierId : String) :
    List (Except PyError Completion) → Except PyError (Verification × Notes) → Prop
  | unasked (e : PyError) : Judged verifierId [] (.error e)
  | completed {completion : Completion} {verdict : Verification} {notes : Notes} :
      verdict.verifier = verifierId → notes.isSome →
      Judged verifierId [.ok completion] (.ok (verdict, notes))
  | failed {e : PyError} : e.kind.isLLMError → Judged verifierId [.error e] (.error noCompletion)
  | raised {e : PyError} : ¬ e.kind.isLLMError → Judged verifierId [.error e] (.error e)

/-- The model call, once it is out: its answer is the only one on record. -/
theorem ask_model {s : FlowState} {nodeId : String} {request : LLMRequest}
    {Q : Except PyError (Except PyError Completion) →
      Assertion FlowState W AdapterOp AdapterRep Lbl} (unanswered : Unanswered s s w h)
    (held : ∀ answer w h, answers h = [answer] → Q (.ok answer) s w h) :
    (Node.ask (.complete nodeId request)).attempt.wp adapters.system (fun _ _ _ => True) Q
      s w h := by
  refine Task.wp_attempt.mpr (Node.wp_ask.mpr ?_)
  intro s' w' h' drift
  cases Node.drift_state drift
  refine ⟨trivial, ?_⟩
  rintro answer s'' w'' ⟨rfl, -⟩
  refine held answer w'' _ ?_
  rw [answers_append, answers_drift drift, answers_append, unanswered.2]
  rfl

theorem judge_judged (before : FlowState) (unanswered : Unanswered before before w h) :
    (judge ctx verifierId extra).wp adapters.system (fun _ _ _ => True)
      (fun r s _ h => s.verifications = before.verifications ∧
        Judged verifierId (answers h) r) before w h := by
  unfold judge
  dsimp only
  have stopped : ∀ (e : PyError) (w : W) (h : History AdapterOp AdapterRep Lbl),
      Unanswered before before w h → Judged verifierId (answers h) (.error e) := by
    rintro e w h ⟨-, none⟩
    rw [none]
    exact .unasked e
  split
  next llm _ =>
    refine Task.wp_bind.mpr ((Task.wp_ofExcept _).mpr ?_)
    cases llm.forNode ("verifier." ++ verifierId) with
    | error e => exact ⟨rfl, stopped e w h unanswered⟩
    | ok settings =>
        refine Task.wp_bind.mpr ((Task.wp_ofExcept _).mpr ?_)
        cases Node.llmAdapter llm ("verifier." ++ verifierId) with
        | error e => exact ⟨rfl, stopped e w h unanswered⟩
        | ok _ =>
            refine Task.wp_bind.mpr (Proc.wp_mono _ _ _
              (unanswered_neighbourhood before w h unanswered) (fun _ _ _ _ => trivial) ?_)
            rintro (e | ⟨repository, assembly⟩) s₁ w₁ h₁ ⟨rfl, none⟩
            · exact ⟨rfl, stopped e w₁ h₁ ⟨rfl, none⟩⟩
            · refine Task.wp_bind.mpr (Task.wp_read.mpr (Task.wp_bind.mpr
                (ask_model ⟨rfl, none⟩ fun answer w₂ h₂ answered => ?_)))
              cases answer with
              | error exc =>
                  dsimp only [Task.andThen]
                  split
                  next llm => exact ⟨rfl, answered ▸ .failed llm⟩
                  next other => exact ⟨rfl, answered ▸ .raised other⟩
              | ok completion =>
                  refine Task.wp_bind.mpr ((Task.wp_update _).mpr ⟨rfl, ?_⟩)
                  rw [answered]
                  exact .completed rfl rfl
  next => exact ⟨rfl, stopped _ w h unanswered⟩

/-- What a whole verifier makes of each answer. -/
inductive Concluded (verifierId : String) (before : FlowState) :
    List (Except PyError Completion) → Except PyError Unit → FlowState → Prop
  | unasked (e : PyError) (after : FlowState) :
      Concluded verifierId before [] (.error e) after
  | completed {completion : Completion} {after : FlowState} :
      FailsClosed verifierId (.ok completion) before (.ok ()) after →
      Concluded verifierId before [.ok completion] (.ok ()) after
  | failed {e : PyError} (after : FlowState) : e.kind.isLLMError →
      Concluded verifierId before [.error e] (.error noCompletion) after
  | raised {e : PyError} (after : FlowState) : ¬ e.kind.isLLMError →
      Concluded verifierId before [.error e] (.error e) after

/-- A verdict that was reached goes on the state; an exception passes by. -/
theorem judged_bind {before : FlowState} {f : Verification × Notes → Node Unit}
    (unanswered : Unanswered before before w h)
    (puts : ∀ verdict notes s w h, notes.isSome →
      (f (verdict, notes)).wp adapters.system (fun _ _ _ => True)
        (fun r after _ h' => r = .ok () ∧ after.notes.isSome ∧
          AddsVerdict verdict.verifier s after ∧ h' = h) s w h) :
    (judge ctx verifierId extra >>= f).wp adapters.system (fun _ _ _ => True)
      (fun r s _ h => Concluded verifierId before (answers h) r s) before w h := by
  refine Task.wp_bind.mpr (Task.wp_mono (judge_judged before unanswered) ?_)
  rintro (e | ⟨verdict, notes⟩) s' w' h' ⟨same, judged⟩
  · dsimp only [Task.andThen]
    cases answered : answers h' with
    | nil => exact .unasked e s'
    | cons answer rest =>
        rw [answered] at judged
        cases judged with
        | failed llm => exact .failed s' llm
        | raised other => exact .raised s' other
  · cases answered : answers h' with
    | nil => rw [answered] at judged; cases judged
    | cons answer rest =>
        rw [answered] at judged
        cases judged with
        | completed name noted =>
            refine Task.wp_mono (puts verdict notes s' w' h' noted) ?_
            rintro _ after w'' _ ⟨rfl, noted', ⟨added, called, listed⟩, rfl⟩
            rw [answered]
            refine .completed ⟨rfl, ⟨added, called.trans name, listed.trans (by rw [same]), ?_⟩, noted'⟩
            intro e absurd
            cases absurd

theorem asking_concluded {before : FlowState} (unanswered : Unanswered before before w h) :
    (asking verifierId ctx).wp adapters.system (fun _ _ _ => True)
      (fun r s _ h => Concluded verifierId before (answers h) r s) before w h :=
  judged_bind unanswered fun _ _ _ _ _ noted => ⟨rfl, noted, ⟨_, rfl, rfl⟩, rfl⟩

theorem test_evidence_concluded {before : FlowState} (unanswered : Unanswered before before w h) :
    (testEvidence ctx).wp adapters.system (fun _ _ _ => True)
      (fun r s _ h => Concluded "test_evidence" before (answers h) r s) before w h := by
  refine Task.wp_bind.mpr (Proc.wp_mono _ _ _ (unanswered_baseTree before w h unanswered)
    (fun _ _ _ _ => trivial) ?_)
  rintro (e | tree) s' w' h' ⟨rfl, none⟩
  · dsimp only [Task.andThen]
    rw [none]
    exact .unasked e s'
  · refine Task.wp_bind.mpr (Task.wp_read.mpr (judged_bind ⟨rfl, none⟩ ?_))
    intro verdict notes s w h _
    refine ⟨rfl, rfl, ⟨_, ?_, rfl⟩, rfl⟩
    rfl

theorem run_concluded {fn : NodeContext → Node Unit} {s s' : FlowState}
    {r : Except PyError Unit} {c : Config FlowState W AdapterOp AdapterRep Lbl (Except PyError Unit)}
    (known : (verifierId, fn) ∈ verifiers)
    (run : adapters.system.Reaches (.launch (fn ctx s) w []) c) (done : c.proc = .done s' r) :
    Concluded verifierId s (answers c.history) r s' := by
  have start : (Unanswered s : Assertion FlowState W AdapterOp AdapterRep Lbl) s w [] :=
    ⟨rfl, rfl⟩
  have concluded : (fn ctx).wp adapters.system (fun _ _ _ => True)
      (fun r s' _ h => Concluded verifierId s (answers h) r s') s w [] := by
    simp only [verifiers, List.mem_cons, List.not_mem_nil, or_false, Prod.mk.injEq] at known
    rcases known with ⟨rfl, rfl⟩ | ⟨rfl, rfl⟩ | ⟨rfl, rfl⟩ | ⟨rfl, rfl⟩
    · exact asking_concluded start
    · exact asking_concluded start
    · exact test_evidence_concluded start
    · exact asking_concluded start
  have held := wp_sound concluded run
  rw [done] at held
  exact held

/-- What is known of a verifier whose model gave this answer. -/
theorem Concluded.of_answer {before after : FlowState} {given : List (Except PyError Completion)}
    {r : Except PyError Unit} {answer : Except PyError Completion}
    (concluded : Concluded verifierId before given r after) (answered : answer ∈ given)
    (expected : ∀ e, answer = .error e → e.kind.isLLMError = true) :
    FailsClosed verifierId answer before r after ∧ (∃ completion, answer = .ok completion) ∨
      r = .error noCompletion ∧ ∃ e, answer = .error e := by
  cases concluded with
  | unasked e => cases answered
  | completed closed =>
      rw [List.mem_singleton.mp answered]
      exact .inl ⟨closed, _, rfl⟩
  | failed _ llm =>
      rw [List.mem_singleton.mp answered]
      exact .inr ⟨rfl, _, rfl⟩
  | raised _ other => exact absurd (expected _ (List.mem_singleton.mp answered)) other

/-- A verifier closes on every completion, and on nothing else: both exits without one read
the completion they do not have. -/
theorem failsClosed_iff_completed {fn : NodeContext → Node Unit} {s s' : FlowState}
    {r : Except PyError Unit} {c : Config FlowState W AdapterOp AdapterRep Lbl (Except PyError Unit)}
    {answer : Except PyError Completion} (known : (verifierId, fn) ∈ verifiers)
    (run : adapters.system.Reaches (.launch (fn ctx s) w []) c) (done : c.proc = .done s' r)
    (answered : answer ∈ answers c.history)
    (expected : ∀ e, answer = .error e → e.kind.isLLMError = true) :
    FailsClosed verifierId answer s r s' ↔ ∃ completion, answer = .ok completion := by
  rcases (run_concluded known run done).of_answer answered expected with
    ⟨closed, completed⟩ | ⟨rfl, e, rfl⟩
  · exact ⟨fun _ => completed, fun _ => closed⟩
  · constructor
    · intro closed
      cases closed.returned
    · rintro ⟨completion, absurd⟩
      cases absurd

/-! ## A review that was asked for -/

def shopContext : NodeContext := ⟨Flow.shopConfig, Flow.plainWorker.reading, "", true⟩

def refusal : PyError := ⟨.modelRefusal, "the model declined", some "cyber"⟩

def refuse : (op : AdapterOp) → AdapterRep op
  | .complete _ _ => .error refusal
  | op => Flow.oblige op

def refusing : Adapters Unit Empty where
  serve _ op r _ := r = refuse op
  env _ _ _ := False

def refusingScript : Flow.Script refusing where
  reply w op := (refuse op, w)
  served _ _ := rfl

/-- How a script takes `correctness` to its end. -/
def reviewed {adapters : Adapters Unit Empty} (script : Flow.Script adapters) :
    Config FlowState Unit AdapterOp AdapterRep Empty (Except PyError Unit) :=
  script.node.play Flow.Script.patience (.launch (correctness shopContext default) () [])

def kindOf : Except PyError Completion → Option ErrorKind
  | .ok _ => none
  | .error e => some e.kind

def endedOn (c : Config FlowState Unit AdapterOp AdapterRep Empty (Except PyError Unit)) :
    Option (List (Option ErrorKind)) :=
  match c.proc with
  | .done _ _ => some ((answers c.history).map kindOf)
  | .await _ _ _ => none

theorem reviewed_ends {adapters : Adapters Unit Empty} (script : Flow.Script adapters)
    {kind : Option ErrorKind} (one : endedOn (reviewed script) = some [kind]) :
    ∃ c s' r answer,
      adapters.system.Reaches (.launch (correctness shopContext default) () []) c ∧
        c.proc = .done s' r ∧ answer ∈ answers c.history ∧ kindOf answer = kind := by
  unfold endedOn at one
  split at one
  next s' r done =>
    have same : kind ∈ (answers (reviewed script).history).map kindOf := by
      rw [Option.some_inj.mp one]
      exact List.mem_singleton_self kind
    obtain ⟨answer, given, known⟩ := List.mem_map.mp same
    exact ⟨_, s', r, answer, Schedule.play_reaches _ _ _, done, given, known⟩
  next => cases one

theorem failsClosed_iff_completed_shop : ∃ c s' r answer,
    Flow.obliging.system.Reaches (.launch (correctness shopContext default) () []) c ∧
      c.proc = .done s' r ∧ kindOf answer = none ∧
      (FailsClosed "correctness" answer default r s' ↔
        ∃ completion, answer = .ok completion) := by
  obtain ⟨c, s', r, answer, run, done, given, kind⟩ :=
    reviewed_ends Flow.obligingScript (by decide +kernel : _ = some [none])
  have expected : ∀ e, answer = .error e → e.kind.isLLMError = true := by
    rintro e rfl
    cases kind
  exact ⟨c, s', r, answer, run, done, kind,
    failsClosed_iff_completed (List.mem_cons_self ..) run done given expected⟩

/-- A refused review is no verdict: it raises what it was to report. -/
theorem refused_review_escapes : ∃ c s' r answer,
    refusing.system.Reaches (.launch (correctness shopContext default) () []) c ∧
      c.proc = .done s' r ∧ answer ∈ answers c.history ∧
      kindOf answer = some .modelRefusal ∧
      ¬ FailsClosed "correctness" answer default r s' := by
  obtain ⟨c, s', r, answer, run, done, given, kind⟩ :=
    reviewed_ends refusingScript (by decide +kernel : _ = some [some .modelRefusal])
  refine ⟨c, s', r, answer, run, done, given, kind, fun closed => ?_⟩
  have expected : ∀ e, answer = .error e → e.kind.isLLMError = true := by
    rintro e rfl
    rw [Option.some_inj.mp kind]
    rfl
  have concluded : Concluded "correctness" default (answers c.history) r s' :=
    run_concluded (List.mem_cons_self ..) run done
  rcases concluded.of_answer given expected with ⟨-, completion, rfl⟩ | ⟨rfl, -⟩
  · cases kind
  · cases closed.returned

end KuWarden.Verifiers
