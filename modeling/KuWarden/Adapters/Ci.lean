import KuWarden.Nodes.Base

/-!
The project's own pipeline, read back as a verdict.

A verdict is read for one commit only, every run that counts must pass, and a
pipeline that is missing or unfinished when the wait runs out gives no verdict.
-/
namespace KuWarden

structure CiOutcome where
  passed : Option Bool
  detail : String
  url : Option String := none
  runs : List CiRun := []
  deriving DecidableEq

namespace Ci

def forCommit (runs : List CiRun) (commit : String) : List CiRun :=
  runs.filter fun run => run.headSha = commit

/-- A name matches the display name or the definition path, both exactly. -/
def required (runs : List CiRun) (names : List String) : List CiRun :=
  if names = [] then runs
  else runs.filter fun run => names.contains run.name || names.contains run.workflow

def byName (runs : List CiRun) : List CiRun :=
  runs.insertionSort fun a b => a.name ≤ b.name

/-- Every run must pass; called with at least one run. -/
def decide_ (runs : List CiRun) : CiOutcome :=
  let failed := runs.filter fun run => run.passed ≠ some true
  if failed ≠ [] then
    { passed := some false
      detail := "failed: " ++ Text.join ", " ((byName failed).map fun run =>
        run.name ++ " (" ++ run.rawConclusion ++ ")")
      url := failed.head?.map CiRun.url
      runs := runs }
  else
    { passed := some true
      detail := "passed: " ++ Text.join ", " ((byName runs).map CiRun.name)
      url := runs.head?.map CiRun.url
      runs := runs }

def counted (settings : CiConfig) (commit : String) (answer : List CiRun) : List CiRun :=
  required (forCommit answer commit) settings.requiredWorkflows

/-- What one poll concludes, `elapsed` seconds into the wait. -/
def conclude (settings : CiConfig) (commit : String) (elapsed : Int) (answer : List CiRun) :
    Option CiOutcome :=
  let runs := counted settings commit answer
  if runs ≠ [] then
    let pending := runs.filter fun run => run.passed = none
    if pending = [] then some (decide_ runs)
    else if elapsed ≥ settings.waitS then
      some {
        passed := none
        detail := "still running after " ++ Text.ofInt settings.waitS ++ "s: " ++
          Text.join ", " ((pending.map CiRun.name).insertionSort (· ≤ ·))
        runs := runs }
    else none
  else if elapsed ≥ settings.graceS then
    some {
      passed := none
      detail := "no pipeline run appeared for " ++ Text.take 8 commit ++ " within " ++
        Text.ofInt settings.graceS ++ "s" }
  else if elapsed ≥ settings.waitS then
    some { passed := none, detail := "no pipeline run appeared for " ++ Text.take 8 commit }
  else none

theorem elapsed_of_undecided {settings : CiConfig} {commit : String} {elapsed : Int}
    {answer : List CiRun} (h : conclude settings commit elapsed answer = none) :
    elapsed < settings.waitS := by
  simp only [conclude] at h
  by_contra late
  have late : elapsed ≥ settings.waitS := not_lt.mp late
  split_ifs at h

/-- `await_verdict` from the poll made `elapsed` seconds into the wait. -/
@[semireducible]
def awaitFrom (ref : RepoRef) (commit : String) (settings : CiConfig) (elapsed : Int) :
    Node CiOutcome := do
  let answer ← Node.ask (.runsFor ref commit)
  match _undecided : conclude settings commit elapsed answer with
  | some outcome => return outcome
  | none =>
      let _ ← Node.ask (.sleep settings.pollS)
      awaitFrom ref commit settings (elapsed + settings.pollS)
termination_by (settings.waitS - elapsed).toNat
decreasing_by
  have := elapsed_of_undecided _undecided
  have := settings.poll_pos
  omega

theorem awaitFrom_eq (ref : RepoRef) (commit : String) (settings : CiConfig)
    (elapsed : Int) :
    awaitFrom ref commit settings elapsed =
      Node.ask (.runsFor ref commit) >>= fun answer =>
        match conclude settings commit elapsed answer with
        | some outcome => pure outcome
        | none => Node.ask (.sleep settings.pollS) >>= fun _ =>
            awaitFrom ref commit settings (elapsed + settings.pollS) := by
  rw [awaitFrom]
  refine congrArg _ (funext fun answer => ?_)
  split
  next outcome concluded => simp only [concluded]
  next undecided => simp only [undecided]

def awaitVerdict (ref : RepoRef) (commit : String) (settings : CiConfig) : Node CiOutcome :=
  awaitFrom ref commit settings 0

/-! ## What one poll can conclude -/

/-- Every name the application requires shows up among the runs of the commit. -/
def Shown (settings : CiConfig) (commit : String) (answer : List CiRun) : Prop :=
  ∀ name ∈ settings.requiredWorkflows, ∃ run ∈ answer, run.headSha = commit ∧
    (run.name = name ∨ run.workflow = name)

instance (settings : CiConfig) (commit : String) (answer : List CiRun) :
    Decidable (Shown settings commit answer) := by
  unfold Shown; infer_instance

def AllPassed (settings : CiConfig) (commit : String) (answer : List CiRun) : Prop :=
  counted settings commit answer ≠ [] ∧
    ∀ run ∈ counted settings commit answer, run.passed = some true

theorem mem_counted {settings : CiConfig} {commit : String} {answer : List CiRun}
    {run : CiRun} :
    run ∈ counted settings commit answer ↔ run ∈ answer ∧ run.headSha = commit ∧
      (settings.requiredWorkflows = [] ∨ run.name ∈ settings.requiredWorkflows ∨
        run.workflow ∈ settings.requiredWorkflows) := by
  unfold counted required forCommit
  split
  next all => simp [all]
  next named =>
    simp only [List.mem_filter, decide_eq_true_eq, Bool.or_eq_true, List.contains_iff_mem,
      named, false_or]
    tauto

theorem decide_passed {runs : List CiRun} :
    (decide_ runs).passed = some true ↔ ∀ run ∈ runs, run.passed = some true := by
  simp only [decide_]
  split_ifs with failed
  · simp only [ne_eq, List.filter_eq_nil_iff, decide_eq_true_eq, not_forall, not_not]
      at failed
    obtain ⟨run, listed, not_passed⟩ := failed
    simp only [Option.some.injEq, Bool.false_eq_true, false_iff, not_forall]
    exact ⟨run, listed, not_passed⟩
  · simpa using failed

theorem conclude_passed {settings : CiConfig} {commit : String} {answer : List CiRun}
    (elapsed : Int) :
    (∃ outcome, conclude settings commit elapsed answer = some outcome ∧
      outcome.passed = some true) ↔ AllPassed settings commit answer := by
  unfold conclude AllPassed
  by_cases none_counted : counted settings commit answer = []
  · simp only [none_counted, ne_eq, not_true_eq_false, if_false, false_and, iff_false,
      not_exists, not_and]
    intro outcome concluded
    split_ifs at concluded <;> cases concluded <;> simp
  · simp only [ne_eq, none_counted, not_false_eq_true, if_true, true_and]
    split_ifs with finished late
    · simp [decide_passed]
    all_goals
      simp only [List.filter_eq_nil_iff, decide_eq_true_eq, not_forall, not_not] at finished
      obtain ⟨run, listed, pending⟩ := finished
      constructor
      · rintro ⟨outcome, concluded, passed⟩
        cases concluded <;> cases passed
      · intro all_passed
        simp [all_passed run listed] at pending

/-- A poll that ends the wait neither with a verdict nor by running out of time. -/
def Waits (settings : CiConfig) (commit : String) (elapsed : Int) (answer : List CiRun) :
    Prop :=
  elapsed < settings.waitS ∧
    if counted settings commit answer = [] then elapsed < settings.graceS
    else ∃ run ∈ counted settings commit answer, run.passed = none

theorem conclude_none {settings : CiConfig} {commit : String} {elapsed : Int}
    {answer : List CiRun} :
    conclude settings commit elapsed answer = none ↔ Waits settings commit elapsed answer := by
  unfold conclude Waits
  by_cases none_counted : counted settings commit answer = []
  · simp only [none_counted, ne_eq, not_true_eq_false, if_false, if_true]
    split_ifs <;> simp <;> omega
  · simp only [ne_eq, none_counted, not_false_eq_true, if_true, if_false]
    split_ifs with finished late
    · simp only [false_iff, not_and, not_exists]
      intro _ run listed
      simpa using List.filter_eq_nil_iff.mp finished run listed
    · simp only [false_iff, not_and]
      omega
    · simp only [List.filter_eq_nil_iff, decide_eq_true_eq, not_forall, not_not] at finished
      obtain ⟨run, listed, pending⟩ := finished
      simp only [true_iff]
      exact ⟨not_le.mp late, run, listed, pending⟩

/-- What some answer on record about the runs of this commit amounts to. -/
def Concludes {Lbl : Type} (ref : RepoRef) (settings : CiConfig) (commit : String)
    (outcome : CiOutcome) (h : Process.History AdapterOp AdapterRep Lbl) : Prop :=
  ∃ answer elapsed, .reply (.runsFor ref commit) (.ok answer) ∈ h ∧
    conclude settings commit elapsed answer = some outcome

/-- The last that is on record is an answer about the runs of this commit, and what it amounts
to. -/
def Concluded {Lbl : Type} (ref : RepoRef) (settings : CiConfig) (commit : String)
    (answer : List CiRun) (outcome : CiOutcome) (h : Process.History AdapterOp AdapterRep Lbl) :
    Prop :=
  ∃ before elapsed, h = before ++ [.reply (.runsFor ref commit) (.ok answer)] ∧
    conclude settings commit elapsed answer = some outcome

/-- Within this past `await_verdict` was called with these arguments, and returned `outcome` on
the answer to its last poll. -/
def Awaited {W Lbl : Type} (adapters : Adapters W Lbl) (ref : RepoRef) (settings : CiConfig)
    (commit : String) (answer : List CiRun) (outcome : CiOutcome)
    (h : Process.History AdapterOp AdapterRep Lbl) : Prop :=
  ∃ s w start s' w' ended, adapters.system.Reaches
      (.launch (awaitVerdict ref commit settings s) w start) ⟨.done s' (.ok outcome), w', ended⟩ ∧
    Concluded ref settings commit answer outcome ended ∧ ended <+: h

section
variable {W Lbl : Type} {adapters : Adapters W Lbl} {ref : RepoRef} {settings : CiConfig}
  {commit : String} {answer : List CiRun} {outcome : CiOutcome}
  {h h' : Process.History AdapterOp AdapterRep Lbl}

theorem Awaited.concludes (awaited : Awaited adapters ref settings commit answer outcome h) :
    Concludes ref settings commit outcome h := by
  obtain ⟨_, _, _, _, _, _, -, ⟨before, elapsed, rfl, concluded⟩, within⟩ := awaited
  exact ⟨answer, elapsed, within.subset (by simp), concluded⟩

/-- A pass is returned on an answer in which every run that counts had passed. -/
theorem Awaited.allPassed (awaited : Awaited adapters ref settings commit answer outcome h)
    (passed : outcome.passed = some true) : AllPassed settings commit answer := by
  obtain ⟨_, _, _, _, _, _, -, ⟨_, elapsed, -, concluded⟩, -⟩ := awaited
  exact (conclude_passed elapsed).mp ⟨outcome, concluded, passed⟩

theorem awaitFrom_ensures (elapsed : Int) (s : FlowState) (w : W)
    (h : Process.History AdapterOp AdapterRep Lbl) :
    (awaitFrom ref commit settings elapsed).ensures adapters.system (fun outcome s' _ h' =>
      s' = s ∧ ∃ answer, Concluded ref settings commit answer outcome h') s w h := by
  generalize measured : (settings.waitS - elapsed).toNat = left
  induction left using Nat.strong_induction_on generalizing elapsed w h with
  | _ left ih =>
    rw [awaitFrom_eq]
    refine Process.Task.ensures_bind (R := fun answer s' _ h' => s' = s ∧
      ∃ before, h' = before ++ [.reply (.runsFor ref commit) (.ok answer)])
      (Node.ensures_ask fun v w' moves => ⟨rfl, _, rfl⟩) ?_
    rintro answer s' w' _ ⟨rfl, before, rfl⟩
    split
    next outcome concluded =>
      exact Process.Task.ensures_pure ⟨rfl, answer, before, elapsed, rfl, concluded⟩
    next undecided =>
      refine Process.Task.ensures_bind (R := fun _ s₁ _ _ => s₁ = s')
        (Node.ensures_ask fun _ _ _ => rfl) ?_
      rintro _ _ w₁ h₁ rfl
      have earlier := elapsed_of_undecided undecided
      have := settings.poll_pos
      exact ih _ (by omega) _ w₁ h₁ rfl

theorem await_verdict_ensures (s : FlowState) (w : W)
    (h : Process.History AdapterOp AdapterRep Lbl) :
    (awaitVerdict ref commit settings).ensures adapters.system (fun outcome s' _ h' =>
      s' = s ∧ ∃ answer, Awaited adapters ref settings commit answer outcome h') s w h := by
  refine Process.Task.ensures_mono
    (Process.Task.ensures_reaches (awaitFrom_ensures 0 s w h)) ?_
  rintro outcome s' w' h' ⟨⟨rfl, answer, concluded⟩, returned⟩
  exact ⟨rfl, answer, s', w, h, s', w', h', returned, concluded, List.prefix_rfl⟩

end

theorem keeps_awaitFrom {W Lbl : Type} {adapters : Adapters W Lbl} {ref : RepoRef}
    {commit : String} {settings : CiConfig}
    {P : Process.Assertion FlowState W AdapterOp AdapterRep Lbl}
    (poll : (Node.ask (.runsFor ref commit)).Keeps adapters.system P)
    (pause : (Node.ask (.sleep settings.pollS)).Keeps adapters.system P) (elapsed : Int) :
    (awaitFrom ref commit settings elapsed).Keeps adapters.system P := by
  generalize measured : (settings.waitS - elapsed).toNat = left
  induction left using Nat.strong_induction_on generalizing elapsed with
  | _ left ih =>
    rw [awaitFrom_eq]
    refine Process.Task.keeps_bind poll fun answer => ?_
    split
    next => exact Process.Task.keeps_pure _
    next undecided =>
      have before := elapsed_of_undecided undecided
      have := settings.poll_pos
      exact Process.Task.keeps_bind pause fun _ => ih _ (by omega) _ rfl

/-! ## Successive polls -/

/-- A pipeline as it shows itself over time: poll `n` is answered by `answers n`. -/
def Polled (answers : Nat → Except PyError (List CiRun)) :
    Process.System FlowState Nat AdapterOp AdapterRep Empty where
  serve s n op reply s' n' :=
    s' = s ∧ match op, reply with
      | .runsFor _ _, reply => reply = answers n ∧ n' = n + 1
      | .sleep _, reply => reply = .ok () ∧ n' = n
      | _, _ => False
  env _ _ _ _ _ := False

/-- `await_verdict` can return `outcome`, having polled `n` times. -/
def Returns (answers : Nat → Except PyError (List CiRun)) (ref : RepoRef) (commit : String)
    (settings : CiConfig) (outcome : CiOutcome) (n : Nat) : Prop :=
  ∃ s s' c, (Polled answers).Reaches (.launch (awaitVerdict ref commit settings s) 0 []) c ∧
    c.proc = .done s' (.ok outcome) ∧ c.world = n

/-- The first `n` polls end with the wait still going on. -/
def WaitsUntil (answers : Nat → Except PyError (List CiRun)) (commit : String)
    (settings : CiConfig) (n : Nat) : Prop :=
  ∀ i < n, ∃ answer, answers i = .ok answer ∧
    Waits settings commit (i * settings.pollS) answer

section
variable {answers : Nat → Except PyError (List CiRun)} {ref : RepoRef} {commit : String}
  {settings : CiConfig}

theorem Polled.drift_eq {s s' : FlowState} {n n' : Nat}
    {h h' : Process.History AdapterOp AdapterRep Empty}
    (drift : (Polled answers).Drift s n h s' n' h') : s' = s ∧ n' = n ∧ h' = h := by
  cases drift with
  | refl => exact ⟨rfl, rfl, rfl⟩
  | step _ moved => exact moved.elim

theorem WaitsUntil.snoc {n : Nat} {answer : List CiRun}
    (waited : WaitsUntil answers commit settings n) (polled : answers n = .ok answer)
    (waits : Waits settings commit (n * settings.pollS) answer) :
    WaitsUntil answers commit settings (n + 1) := by
  intro i before
  rcases Nat.lt_succ_iff_lt_or_eq.mp before with earlier | rfl
  · exact waited i earlier
  · exact ⟨answer, polled, waits⟩

/-- What a run of the loop from poll `n` establishes about the poll it ends with. -/
theorem awaitFrom_wp (ref : RepoRef) (n : Nat) (s : FlowState)
    (h : Process.History AdapterOp AdapterRep Empty)
    (waited : WaitsUntil answers commit settings n) :
    (awaitFrom ref commit settings (n * settings.pollS)).wp (Polled answers)
      (fun _ _ _ => True)
      (fun r _ m _ => ∀ outcome, r = .ok outcome → ∃ i answer, m = i + 1 ∧
        answers i = .ok answer ∧ WaitsUntil answers commit settings i ∧
        conclude settings commit (i * settings.pollS) answer = some outcome) s n h := by
  generalize measured : (settings.waitS - n * settings.pollS).toNat = left
  induction left using Nat.strong_induction_on generalizing n s h with
  | _ left ih =>
    rw [awaitFrom_eq]
    simp only [Process.Task.wp_bind, Node.wp_ask]
    intro s' n' h' drift
    obtain ⟨rfl, rfl, rfl⟩ := Polled.drift_eq drift
    refine ⟨trivial, ?_⟩
    rintro reply s'' n'' ⟨rfl, polled, rfl⟩
    cases reply with
    | error e =>
        intro outcome raised
        cases raised
    | ok answer =>
        simp only [Process.Task.andThen_ok]
        split
        next outcome concluded =>
          intro outcome' returned
          cases returned
          exact ⟨n', answer, rfl, polled.symm, waited, concluded⟩
        next undecided =>
          simp only [Process.Task.wp_bind, Node.wp_ask]
          intro s₁ n₁ h₁ drift₁
          obtain ⟨rfl, rfl, rfl⟩ := Polled.drift_eq drift₁
          refine ⟨trivial, ?_⟩
          rintro reply' s₂ n₂ ⟨rfl, rfl, rfl⟩
          have waits := conclude_none.mp undecided
          have next_poll : (n' : Int) * settings.pollS + settings.pollS =
              ((n' + 1 : Nat) : Int) * settings.pollS := by push_cast; ring
          have shorter : (settings.waitS - ((n' + 1 : Nat) : Int) * settings.pollS).toNat <
              left := by
            have := settings.poll_pos
            have := waits.1
            omega
          simp only [next_poll]
          exact ih _ shorter (n' + 1) s₂ _ (waited.snoc polled.symm waits) rfl

theorem reaches_conclusion {n : Nat} {elapsed : Int} {answer : List CiRun}
    {outcome : CiOutcome} (polled : answers n = .ok answer)
    (concluded : conclude settings commit elapsed answer = some outcome) (s : FlowState)
    (h : Process.History AdapterOp AdapterRep Empty) :
    ∃ c, (Polled answers).Reaches (.launch (awaitFrom ref commit settings elapsed s) n h) c ∧
      c.proc = .done s (.ok outcome) ∧ c.world = n + 1 := by
  rw [awaitFrom_eq]
  refine ⟨_, Node.reaches_ask (.runsFor ref commit) answer ⟨rfl, polled.symm, rfl⟩, ?_⟩
  simp only [concluded]
  exact ⟨rfl, rfl⟩

theorem reaches_next_poll {n : Nat} {elapsed : Int} {answer : List CiRun}
    (polled : answers n = .ok answer) (waits : Waits settings commit elapsed answer)
    (s : FlowState) (h : Process.History AdapterOp AdapterRep Empty) :
    ∃ h', (Polled answers).Reaches (.launch (awaitFrom ref commit settings elapsed s) n h)
      (.launch (awaitFrom ref commit settings (elapsed + settings.pollS) s) (n + 1) h') := by
  rw [awaitFrom_eq]
  have answered : (Polled answers).serve s n (.runsFor ref commit) (.ok answer) s (n + 1) :=
    ⟨rfl, polled.symm, rfl⟩
  have slept : (Polled answers).serve s (n + 1) (.sleep settings.pollS) (.ok ()) s (n + 1) :=
    ⟨rfl, rfl, rfl⟩
  apply Exists.intro
  refine (Node.reaches_ask _ _ answered).trans ?_
  simp only [conclude_none.mpr waits]
  exact Node.reaches_ask _ _ slept

theorem returns_of_concludes (ref : RepoRef) {i : Nat} {answer : List CiRun}
    {outcome : CiOutcome}
    (waited : WaitsUntil answers commit settings i) (polled : answers i = .ok answer)
    (concluded : conclude settings commit (i * settings.pollS) answer = some outcome)
    (s : FlowState) : Returns answers ref commit settings outcome (i + 1) := by
  have arrives : ∀ n, n ≤ i → ∃ h, (Polled answers).Reaches
      (.launch (awaitVerdict ref commit settings s) 0 [])
      (.launch (awaitFrom ref commit settings (n * settings.pollS) s) n h) := by
    intro n
    induction n with
    | zero =>
        intro _
        rw [awaitVerdict, Nat.cast_zero, zero_mul]
        exact ⟨[], .refl⟩
    | succ n ih =>
        intro within
        obtain ⟨h, arrived⟩ := ih (Nat.le_of_succ_le within)
        obtain ⟨answer, polled, waits⟩ := waited n within
        obtain ⟨h', next_poll⟩ := reaches_next_poll polled waits s h
        rw [← add_one_mul, ← Nat.cast_succ] at next_poll
        exact ⟨h', arrived.trans next_poll⟩
  obtain ⟨h, arrived⟩ := arrives i le_rfl
  obtain ⟨c, last, final, count⟩ := reaches_conclusion polled concluded s h
  exact ⟨s, s, c, arrived.trans last, final, count⟩

/-- Whenever a pass is returned, the poll it was decided in showed every workflow the
application requires, and every run that counts had passed there. -/
def GatesOnRequired (answers : Nat → Except PyError (List CiRun)) (ref : RepoRef)
    (commit : String) (settings : CiConfig) : Prop :=
  ∀ outcome n, Returns answers ref commit settings outcome n → outcome.passed = some true →
    ∃ i answer, n = i + 1 ∧ answers i = .ok answer ∧ Shown settings commit answer ∧
      AllPassed settings commit answer

/-- The first poll in which every run that counts has finished either has a failed one
or is missing no required workflow. -/
def NoneMissing (answers : Nat → Except PyError (List CiRun)) (commit : String)
    (settings : CiConfig) : Prop :=
  ∀ i answer, WaitsUntil answers commit settings i → answers i = .ok answer →
    counted settings commit answer ≠ [] →
    (∀ run ∈ counted settings commit answer, run.passed ≠ none) →
    (∃ run ∈ counted settings commit answer, run.passed = some false) ∨
      Shown settings commit answer

theorem Returns.concluded {outcome : CiOutcome} {n : Nat}
    (returned : Returns answers ref commit settings outcome n) :
    ∃ i answer, n = i + 1 ∧ answers i = .ok answer ∧ WaitsUntil answers commit settings i ∧
      conclude settings commit (i * settings.pollS) answer = some outcome := by
  obtain ⟨s, s', c, run, final, rfl⟩ := returned
  have start : WaitsUntil answers commit settings 0 := fun i before => absurd before i.not_lt_zero
  have sound := Process.wp_sound (awaitFrom_wp ref 0 s [] start)
    (by rw [Nat.cast_zero, zero_mul]; exact run)
  rw [final] at sound
  exact sound outcome rfl

theorem gatesOnRequired_iff_noneMissing :
    GatesOnRequired answers ref commit settings ↔ NoneMissing answers commit settings := by
  constructor
  · intro gates i answer waited polled some_counted finished
    by_cases some_failed : ∃ run ∈ counted settings commit answer, run.passed = some false
    · exact .inl some_failed
    · have all_passed : AllPassed settings commit answer := by
        refine ⟨some_counted, fun run listed => ?_⟩
        rcases outcome : run.passed with _ | passed
        · exact absurd outcome (finished run listed)
        · cases passed
          · exact absurd ⟨run, listed, outcome⟩ some_failed
          · rfl
      obtain ⟨outcome, concluded, passed⟩ :=
        (conclude_passed (i * settings.pollS)).mpr all_passed
      have returned := returns_of_concludes ref waited polled concluded default
      obtain ⟨i', answer', same, polled', shown, -⟩ := gates outcome _ returned passed
      cases Nat.succ.inj same
      cases polled.symm.trans polled'
      exact .inr shown
  · intro none_missing outcome n returned passed
    obtain ⟨i, answer, rfl, polled, waited, concluded⟩ := returned.concluded
    have all_passed := (conclude_passed _).mp ⟨outcome, concluded, passed⟩
    refine ⟨i, answer, rfl, polled, ?_, all_passed⟩
    rcases none_missing i answer waited polled all_passed.1
      (fun run listed => by simp [all_passed.2 run listed]) with ⟨run, listed, failed⟩ | shown
    · simp [all_passed.2 run listed] at failed
    · exact shown

end

theorem default_poll_pos : (1 : Int) ≤ 15 := by decide

/-- Two workflows are required, and one of them shows up first and passes. -/
def twoRequired : CiConfig where
  provider := "github_actions"
  requiredWorkflows := ["ci", "e2e"]
  poll_pos := default_poll_pos

def onlyCi : List CiRun :=
  [⟨"1", "ci", ".github/workflows/ci.yml", "https://ci/1", "c0ffee", some true, "success"⟩]

theorem missing_workflow_passes :
    ¬ GatesOnRequired (fun _ => .ok onlyCi) ⟨"github.com", "acme", "shop", none⟩ "c0ffee"
      twoRequired := by
  intro gates
  have waited : WaitsUntil (fun _ => .ok onlyCi) "c0ffee" twoRequired 0 :=
    fun i before => absurd before i.not_lt_zero
  have concluded : conclude twoRequired "c0ffee" ((0 : Nat) * twoRequired.pollS) onlyCi =
      some (decide_ onlyCi) := by rfl
  have returned := returns_of_concludes ⟨"github.com", "acme", "shop", none⟩ waited rfl
    concluded default
  obtain ⟨i, answer, -, polled, shown, -⟩ := gates _ _ returned (by rfl)
  cases polled
  exact absurd shown (by decide)

end Ci
end KuWarden
