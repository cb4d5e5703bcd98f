import KuWarden.Adapters.Ci
import Mathlib.Data.Rat.Floor

/-!
How long a wait for a pipeline lasts, and what was seen when it ends without a verdict.

A poll is made only if every earlier one found the wait still going on, and each of these was
made before `wait_s` had passed; so `wait_s` and `poll_s` bound the polls whatever they answer.
-/
namespace KuWarden.Ci

/-- Some run counts, and every run that counts has finished. -/
def Finished (settings : CiConfig) (commit : String) (answer : List CiRun) : Prop :=
  counted settings commit answer ≠ [] ∧
    ∀ run ∈ counted settings commit answer, run.passed ≠ none

instance (settings : CiConfig) (commit : String) (answer : List CiRun) :
    Decidable (Finished settings commit answer) := inferInstanceAs (Decidable (_ ∧ _))

/-- `ceil(max(wait_s, 0) / poll_s) + 1`. -/
def mostPolls (settings : CiConfig) : Int :=
  ⌈((max settings.waitS 0 : Int) : ℚ) / (settings.pollS : ℚ)⌉ + 1

section
variable {answers : Nat → Except PyError (List CiRun)} {ref : RepoRef} {commit : String}
  {settings : CiConfig}

theorem Waits.not_finished {elapsed : Int} {answer : List CiRun}
    (waits : Waits settings commit elapsed answer) : ¬ Finished settings commit answer := by
  rintro ⟨some_counted, finished⟩
  have pending := waits.2
  rw [if_neg some_counted] at pending
  obtain ⟨run, listed, unfinished⟩ := pending
  exact finished run listed unfinished

theorem conclude_finished {elapsed : Int} {answer : List CiRun} {outcome : CiOutcome}
    (concluded : conclude settings commit elapsed answer = some outcome)
    (finished : Finished settings commit answer) : outcome.passed ≠ none := by
  obtain ⟨some_counted, ended⟩ := finished
  have none_pending :
      (counted settings commit answer).filter (fun run => run.passed = none) = [] := by
    simpa [List.filter_eq_nil_iff] using ended
  simp only [conclude, ne_eq, some_counted, not_false_eq_true, if_true, none_pending] at concluded
  cases concluded
  simp only [decide_]
  split_ifs <;> simp

/-! ## The bound -/

theorem WaitsUntil.lt_mostPolls {n : Nat} (waited : WaitsUntil answers commit settings n) :
    (n : Int) < mostPolls settings := by
  have poll_pos : (0 : ℚ) < settings.pollS := by
    exact_mod_cast Int.lt_of_lt_of_le Int.zero_lt_one settings.poll_pos
  unfold mostPolls
  cases n with
  | zero =>
      have nonneg : (0 : ℚ) ≤ ((max settings.waitS 0 : Int) : ℚ) / settings.pollS :=
        div_nonneg (by exact_mod_cast le_max_right _ _) poll_pos.le
      have := Int.ceil_nonneg nonneg
      rw [Nat.cast_zero]
      omega
  | succ n =>
      obtain ⟨answer, -, waits⟩ := waited n n.lt_succ_self
      have early : ((n * settings.pollS : Int) : ℚ) < ((max settings.waitS 0 : Int) : ℚ) := by
        exact_mod_cast lt_max_of_lt_left waits.1
      have below : ((n : Int) : ℚ) < ((max settings.waitS 0 : Int) : ℚ) / settings.pollS := by
        rw [lt_div_iff₀ poll_pos]
        exact_mod_cast early
      have := Int.lt_ceil.mpr below
      rw [Nat.cast_succ]
      omega

/-! ## Every run of the loop returns -/

theorem awaitFrom_returns (answers : Nat → List CiRun) (ref : RepoRef) (commit : String)
    (settings : CiConfig) (n : Nat) (s : FlowState)
    (h : Process.History AdapterOp AdapterRep Empty) :
    ∃ outcome m h', (Polled fun i => .ok (answers i)).Reaches
      (.launch (awaitFrom ref commit settings (n * settings.pollS) s) n h)
      ⟨.done s (.ok outcome), m, h'⟩ := by
  generalize measured : (settings.waitS - n * settings.pollS).toNat = left
  induction left using Nat.strong_induction_on generalizing n h with
  | _ left ih =>
    cases concluded : conclude settings commit (n * settings.pollS) (answers n) with
    | some outcome =>
        obtain ⟨⟨_, m, h'⟩, run, rfl, -⟩ := @reaches_conclusion (fun i => .ok (answers i))
          ref commit settings n _ _ _ rfl concluded s h
        exact ⟨outcome, m, h', run⟩
    | none =>
        have waits := conclude_none.mp concluded
        obtain ⟨h₁, next_poll⟩ := @reaches_next_poll (fun i => .ok (answers i))
          ref commit settings n _ _ rfl waits s h
        rw [← add_one_mul, ← Nat.cast_succ] at next_poll
        have shorter : (settings.waitS - ((n + 1 : Nat) : Int) * settings.pollS).toNat <
            left := by
          have := settings.poll_pos
          have := waits.1
          rw [Nat.cast_succ, add_one_mul]
          omega
        obtain ⟨outcome, m, h', run⟩ := ih _ shorter (n + 1) h₁ rfl
        exact ⟨outcome, m, h', next_poll.trans run⟩

theorem Polled.serve_unique {s s₁ s₂ : FlowState} {n n₁ n₂ : Nat} {op : AdapterOp}
    {r₁ r₂ : AdapterRep op} (served₁ : (Polled answers).serve s n op r₁ s₁ n₁)
    (served₂ : (Polled answers).serve s n op r₂ s₂ n₂) : r₁ = r₂ ∧ s₁ = s₂ ∧ n₁ = n₂ := by
  obtain ⟨rfl, answered₁⟩ := served₁
  obtain ⟨rfl, answered₂⟩ := served₂
  cases op with
  | runsFor ref commit =>
      obtain ⟨rfl, rfl⟩ := answered₁
      obtain ⟨rfl, rfl⟩ := answered₂
      exact ⟨rfl, rfl, rfl⟩
  | sleep seconds =>
      obtain ⟨rfl, rfl⟩ := answered₁
      obtain ⟨rfl, rfl⟩ := answered₂
      exact ⟨rfl, rfl, rfl⟩
  | _ => exact answered₁.elim

variable {α : Type} {c c₁ c₂ : Process.Config FlowState Nat AdapterOp AdapterRep Empty α}

theorem Polled.step_unique (step₁ : (Polled answers).Step c c₁)
    (step₂ : (Polled answers).Step c c₂) : c₁ = c₂ := by
  cases step₁ with
  | env _ _ _ moved => exact moved.elim
  | reply op k h r served =>
      cases step₂ with
      | env _ _ _ moved => exact moved.elim
      | reply _ _ _ r' served' =>
          obtain ⟨rfl, rfl, rfl⟩ := Polled.serve_unique served served'
          rfl

theorem Polled.world_le (run : (Polled answers).Reaches c c₁) : c.world ≤ c₁.world := by
  induction run with
  | refl => exact le_rfl
  | tail _ step ih =>
      refine ih.trans ?_
      cases step with
      | env _ _ _ moved => exact moved.elim
      | reply op k h r served =>
          rw [Process.Config.launch_world]
          obtain ⟨-, answered⟩ := served
          cases op with
          | runsFor ref commit => exact answered.2.symm ▸ Nat.le_succ _
          | sleep seconds => exact answered.2.ge
          | _ => exact answered.elim

/-- What has returned takes no further step. -/
theorem Polled.done_stays {s : FlowState} {a : α} {n : Nat}
    {h : Process.History AdapterOp AdapterRep Empty}
    (run : (Polled answers).Reaches ⟨.done s a, n, h⟩ c) : c = ⟨.done s a, n, h⟩ := by
  rcases Relation.ReflTransGen.cases_head run with same | ⟨c', step, -⟩
  · exact same.symm
  · cases step

/-- Wherever a run of the loop has come to, it goes on to return. -/
theorem await_verdict_finishes {answers : Nat → List CiRun} {s : FlowState}
    {c : Process.Config FlowState Nat AdapterOp AdapterRep Empty (Except PyError CiOutcome)}
    (run : (Polled fun i => .ok (answers i)).Reaches
      (.launch (awaitVerdict ref commit settings s) 0 []) c) :
    ∃ outcome m h, (Polled fun i => .ok (answers i)).Reaches c ⟨.done s (.ok outcome), m, h⟩ ∧
      Returns (fun i => .ok (answers i)) ref commit settings outcome m := by
  obtain ⟨outcome, m, h, whole⟩ := awaitFrom_returns answers ref commit settings 0 s []
  rw [Nat.cast_zero, zero_mul] at whole
  refine ⟨outcome, m, h, ?_, s, s, _, whole, rfl, rfl⟩
  have unique : @Relator.RightUnique
      (Process.Config FlowState Nat AdapterOp AdapterRep Empty (Except PyError CiOutcome)) _
      (Polled fun i => .ok (answers i)).Step :=
    fun _ _ _ => Polled.step_unique
  rcases Relation.ReflTransGen.total_of_right_unique unique run whole with rest | back
  · exact rest
  · rw [Polled.done_stays back]
    exact .refl

end

end KuWarden.Ci
