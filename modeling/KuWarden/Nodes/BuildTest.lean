import KuWarden.Adapters.Ci
import KuWarden.Nodes.Notes
import KuWarden.Policy.ProtectedPaths

/-!
Build & Test: the objective verdict. The sandbox grades first; a sandbox pass is then
anchored against the project's own pipeline for the pushed commit.
-/
namespace KuWarden.BuildTest

open Process Notes

/-- `files[path] = content`, which keeps the place of a path that is there. -/
def put (files : List (String × Bytes)) (path : String) (content : Bytes) :
    List (String × Bytes) :=
  if (files.lookup path).isSome then
    files.map fun entry => if entry.1 = path then (path, content) else entry
  else files ++ [(path, content)]

def encode (s : String) : Bytes := s.toList.flatMap String.utf8EncodeChar

/-- The edits laid over the tree, in order. -/
def overlay : List (String × Bytes) → List ProposedEdit → List (String × Bytes)
  | files, [] => files
  | files, edit :: rest =>
      if edit.deleted then overlay (files.filter fun entry => entry.1 ≠ edit.path) rest
      else overlay (put files edit.path (encode edit.content)) rest

/-- Replace the sandbox verdict with the project's own pipeline, if it produced one. -/
def anchorToCi (ctx : NodeContext) : Node Unit := do
  let some ci := ctx.config.ci | return ()
  let state ← Task.read
  match nonEmpty state.headCommit with
  | none =>
      Task.update fun state => { state with
        ciDetail :=
          some "nothing was pushed, so there is no commit for a pipeline to run on" }
  | some head =>
      Task.ofExcept (Node.ciAdapter ci)
      let repo ← Task.ofExcept ctx.config.primary
      let outcome ← Ci.awaitVerdict repo.ref head ci
      Task.update fun state => { state with ciDetail := some outcome.detail }
      match outcome.passed with
      | none => return ()
      | some passed =>
          Task.update fun state => { state with
            ciResult := some {
              exitCode := if passed then 0 else 1
              source := .ci
              url := outcome.url } }

def anchored (state : FlowState) : Bool :=
  match state.ciResult with
  | some result => result.isExternalAnchor
  | none => false

def nothingToBuild (ctx : NodeContext) (state : FlowState) : FlowState :=
  let verdict : CIResult := { exitCode := 0, source := .sandbox }
  { state with
    sandboxResult := some verdict
    ciResult := some verdict
    notes := compose "Nothing was executed — there was nothing executable"
      [fields "Why no verdict was produced" [
        ("Proposed edits", number state.proposedEdits.length),
        ("Sandbox", .str (if ctx.sandbox then "configured" else "none configured")),
        ("Recorded as", .str "exit 0, source sandbox"),
        ("Meaning",
          .str "no tests ran; this is not evidence that any test passed")]] }

def graded (result : ExecResult) (state : FlowState) : FlowState :=
  let verdict : CIResult := {
    exitCode := result.exitCode
    durationMs := result.durationMs
    source := .sandbox }
  { state with
    sandboxIsolation := match result.enforced with
      | some enforced => some (if enforced.fullyEnforced then .enforced else .degraded)
      | none => state.sandboxIsolation
    sandboxGaps := match result.enforced with
      | some enforced => enforced.gaps
      | none => state.sandboxGaps
    sandboxResult := some verdict
    ciResult := some verdict }

def notes (ctx : NodeContext) (files : Nat) (result : ExecResult) (state : FlowState) :
    Notes :=
  let settings := ctx.config.sandbox
  let tests := "Tests exited " ++ Text.ofInt result.exitCode ++ " in the sandbox — "
  compose
    (tests ++ (if anchored state then "anchored against the project's own pipeline"
      else "not anchored against an external pipeline"))
    [fields "Sandbox run — ours, and therefore not an independent witness" [
      ("Command", .str (Text.join " " settings.testCommand)),
      ("Image", .str settings.toolchainImage),
      ("Exit code", .int result.exitCode),
      ("Duration", .str (Text.ofInt result.durationMs ++ " ms")),
      ("Limits hit", orStrings result.limitsHit "none"),
      ("Files materialised", number files),
      ("Isolation", orText (state.sandboxIsolation.map Isolation.text) "not probed"),
      ("Isolation gaps", orStrings state.sandboxGaps "none")],
    fields "Invariant 3 — was the verdict read from an external system of record?" [
      ("CI section declared", .str (if ctx.config.ci.isSome then "yes" else "no")),
      ("Authoritative verdict", .str (match state.ciResult with
        | some verdict => verdict.source.text
        | none => "none")),
      ("Independent anchor", .str (if anchored state then "yes"
        else "no — the sandbox verdict stands, and it is labelled as such")),
      ("Pipeline URL", optional (state.ciResult.bind CIResult.url)),
      ("Detail", optional state.ciDetail)],
    if result.stdout = "" then none
    else text "Test output — stdout" result.stdout false true,
    if result.stderr = "" then none
    else text "Test output — stderr" result.stderr false true]

def buildTest (ctx : NodeContext) : Node Unit := do
  let state ← Task.read
  Task.ofExcept (assertNotProtected ((state.diff.map Diff.paths).getD []))
  if state.proposedEdits.isEmpty || !ctx.sandbox then
    Task.update (nothingToBuild ctx)
  else
    let settings := ctx.config.sandbox
    let some commit := nonEmpty state.baseCommit
      | Node.fail .sandboxInfrastructureError
          ("build_test reached without a pinned base commit; the Coder sets it and every " ++
            "grading run must execute against the tree the change was written for")
    let repo ← Task.ofExcept ctx.config.primary
    let scm ← Task.ofExcept (Node.scmAdapter repo)
    let tree ← Node.ask (.readTree scm repo.ref commit)
    let files := overlay tree.files state.proposedEdits
    let result ← Node.withWorkspace files fun workspace =>
      Node.ask (.exec workspace settings.toolchainImage settings.testCommand
        settings.limits)
    Task.update (graded result)
    if result.exitCode = 0 then anchorToCi ctx
    Task.update fun state => { state with notes := notes ctx files.length result state }

/-- A pass that the state ascribes to the pipeline is one that the wait for the verdict on its
head commit returned, under the application's own settings and for its own repository. -/
def Anchored {W Lbl : Type} (adapters : Adapters W Lbl) (config : AppConfig) (state : FlowState)
    (h : History AdapterOp AdapterRep Lbl) : Prop :=
  ∀ verdict, state.ciResult = some verdict → verdict.source = .ci → verdict.exitCode = 0 →
    ∃ settings repo commit answer outcome, config.ci = some settings ∧
      config.primary = .ok repo ∧ state.headCommit = some commit ∧
      Ci.Awaited adapters repo.ref settings commit answer outcome h ∧
      outcome.passed = some true ∧ verdict.url = outcome.url

section
variable {W Lbl : Type} {adapters : Adapters W Lbl} {ctx : NodeContext} {w : W}
  {h : History AdapterOp AdapterRep Lbl}

theorem anchored_of_sandbox {config : AppConfig} {state : FlowState} {result : CIResult}
    (graded : state.ciResult = some result) (sandbox : result.source = .sandbox) :
    Anchored adapters config state h := by
  intro verdict found ci
  cases graded.symm.trans found
  cases sandbox.symm.trans ci

theorem anchor_to_ci_ensures {s : FlowState} {result : CIResult}
    (graded : s.ciResult = some result) (sandbox : result.source = .sandbox) :
    (anchorToCi ctx).ensures adapters.system (fun _ s' _ h' =>
      s'.headCommit = s.headCommit ∧ Anchored adapters ctx.config s' h') s w h := by
  unfold anchorToCi
  split
  next ci declared =>
    refine Task.ensures_read_bind.mpr ?_
    split
    next => exact Task.ensures_update ⟨rfl, anchored_of_sandbox graded sandbox⟩
    next head pushed =>
      refine Task.ensures_ofExcept_bind.mpr fun _ _ => ?_
      refine Task.ensures_ofExcept_bind.mpr fun repo primary => ?_
      refine Task.ensures_bind (Ci.await_verdict_ensures s w h) ?_
      rintro outcome s' w' h' ⟨rfl, answer, awaited⟩
      refine Task.ensures_update_bind.mpr ?_
      split
      next undecided =>
        exact Task.ensures_pure ⟨rfl, anchored_of_sandbox graded sandbox⟩
      next passed found =>
        refine Task.ensures_update ⟨rfl, ?_⟩
        intro verdict same _ zero
        cases same
        have passes : passed = true := by
          cases passed with
          | true => rfl
          | false => simp at zero
        obtain ⟨known, -⟩ := nonEmpty_eq_some.mp pushed
        exact ⟨ci, repo, head, answer, outcome, declared, primary, known, awaited,
          passes ▸ found, rfl⟩
  next => exact Task.ensures_pure ⟨rfl, anchored_of_sandbox graded sandbox⟩

/-- What survives a poll, a pause and what is written of the pipeline survives asking it. -/
theorem keeps_anchor_to_ci {P : Assertion FlowState W AdapterOp AdapterRep Lbl}
    (poll : ∀ {ref commit}, (Node.ask (.runsFor ref commit)).Keeps adapters.system P)
    (pause : ∀ {seconds}, (Node.ask (.sleep seconds)).Keeps adapters.system P)
    (detailed : ∀ {detail}, (Task.update fun state => { state with ciDetail := detail } :
      Node Unit).Keeps adapters.system P)
    (decided : ∀ {verdict}, (Task.update fun state => { state with ciResult := verdict } :
      Node Unit).Keeps adapters.system P) :
    (anchorToCi ctx).Keeps adapters.system P := by
  unfold anchorToCi
  split
  next ci _ =>
    refine Task.keeps_bind Task.keeps_read fun state => ?_
    split
    next => exact detailed
    next =>
      refine Task.keeps_bind (Task.keeps_ofExcept _) fun _ =>
        Task.keeps_bind (Task.keeps_ofExcept _) fun _ =>
        Task.keeps_bind (Ci.keeps_awaitFrom poll pause 0) fun outcome =>
        Task.keeps_bind detailed fun _ => ?_
      split
      next => exact Task.keeps_pure _
      next => exact decided
  next => exact Task.keeps_pure _

/-- Build & Test grades the commit it was given, whatever verdict came before. -/
theorem build_test_ensures (s : FlowState) :
    (buildTest ctx).ensures adapters.system (fun _ s' _ h' =>
      s'.headCommit = s.headCommit ∧ Anchored adapters ctx.config s' h') s w h := by
  refine Task.ensures_read_bind.mpr (Task.ensures_ofExcept_bind.mpr fun _ _ => ?_)
  split
  next => exact Task.ensures_update ⟨rfl, anchored_of_sandbox rfl rfl⟩
  next =>
    dsimp only
    split
    next commit _ =>
      refine Task.ensures_ofExcept_bind.mpr fun repo _ => ?_
      refine Task.ensures_ofExcept_bind.mpr fun scm _ => ?_
      refine Task.ensures_bind (Node.leaves_ask.still s w h) ?_
      rintro tree s₁ w₁ h₁ rfl
      have graded : Node.Leaves adapters id (Node.withWorkspace
          (overlay tree.files s₁.proposedEdits) fun workspace => Node.ask (.exec workspace
            ctx.config.sandbox.toolchainImage ctx.config.sandbox.testCommand
            ctx.config.sandbox.limits)) :=
        Node.leaves_withWorkspace fun _ => Node.leaves_ask
      refine Task.ensures_bind (graded.still s₁ w₁ h₁) ?_
      rintro result s₂ w₂ h₂ rfl
      refine Task.ensures_update_bind.mpr ?_
      split
      · refine Task.ensures_bind (anchor_to_ci_ensures rfl rfl) ?_
        rintro _ s₃ w₃ h₃ ⟨same, anchored⟩
        exact Task.ensures_update ⟨same, anchored⟩
      · exact Task.ensures_update ⟨rfl, anchored_of_sandbox rfl rfl⟩
    next => exact Task.ensures_raise

end

/-! ## What a verdict says of its commit -/

/-- A detail and a url that, where they are there, were said of this commit. -/
inductive Describes {Lbl : Type} (commit : Option String) (h : History AdapterOp AdapterRep Lbl) :
    Option String → Option String → Prop
  | absent : Describes commit h none none
  | unpushed : nonEmpty commit = none → Describes commit h
      (some "nothing was pushed, so there is no commit for a pipeline to run on") none
  | read {config : AppConfig} {settings : CiConfig} {repo : RepoConfig} {head : String}
      {outcome : CiOutcome} {url : Option String} :
      .reply .resolveConfig (.ok config) ∈ h → config.ci = some settings →
      config.primary = .ok repo → nonEmpty commit = some head →
      Ci.Concludes repo.ref settings head outcome h → url = none ∨ url = outcome.url →
      Describes commit h (some outcome.detail) url

/-- The sandbox ran the tests, and reported this. -/
def Tested {Lbl : Type} (h : History AdapterOp AdapterRep Lbl) (result : ExecResult) : Prop :=
  ∃ workspace image command limits,
    .reply (.exec workspace image command limits) (.ok result) ∈ h

/-- What keeps earlier passes out of this one, read off what it was given and what it was
answered: it holds no detail unless the pipeline is asked for one, and its tests fail only
where no pass is left. -/
structure Unmixed {Lbl : Type} (retries : Int) (given : FlowState)
    (h : History AdapterOp AdapterRep Lbl) : Prop where
  fresh : given.ciDetail = none ∨ given.proposedEdits ≠ [] ∧
    (∀ config, .reply .resolveConfig (.ok config) ∈ h → config.ci ≠ none) ∧
    ∀ result, Tested h result → result.exitCode = 0
  last : ∀ result, Tested h result → result.exitCode ≠ 0 → given.pushAttempt = retries

/-- What an unmixed pass leaves: a verdict, a detail and a url of its own commit, and a
failure only from the pipeline while another pass is to come. -/
structure Graded {Lbl : Type} (retries : Int) (given returned : FlowState)
    (h : History AdapterOp AdapterRep Lbl) : Prop where
  describes : Describes given.headCommit h returned.ciDetail
    (returned.ciResult.bind CIResult.url)
  source : ∀ verdict, returned.ciResult = some verdict → verdict.exitCode ≠ 0 →
    given.pushAttempt ≠ retries → verdict.source = .ci

theorem graded_of_sandbox {Lbl : Type} {retries : Int} {given returned : FlowState}
    {h : History AdapterOp AdapterRep Lbl} {verdict : CIResult} (unmixed : Unmixed retries given h)
    (same : returned.ciDetail = given.ciDetail) (found : returned.ciResult = some verdict)
    (url : verdict.url = none)
    (asked : ¬ (given.proposedEdits ≠ [] ∧
      (∀ config, .reply .resolveConfig (.ok config) ∈ h → config.ci ≠ none) ∧
      ∀ result, Tested h result → result.exitCode = 0))
    (passes : verdict.exitCode ≠ 0 → given.pushAttempt = retries) :
    Graded retries given returned h := by
  constructor
  · rw [same, unmixed.fresh.resolve_right asked, found, Option.bind_some, url]
    exact .absent
  · intro verdict' found' fails more
    cases found.symm.trans found'
    exact absurd (passes fails) more

section
variable {W Lbl : Type} {adapters : Adapters W Lbl} {ctx : NodeContext} {w : W}
  {h : History AdapterOp AdapterRep Lbl}

/-- The pipeline is asked for this commit, or there is nothing to ask of it. -/
theorem anchor_to_ci_describes {s : FlowState} {verdict : CIResult} {ci : CiConfig}
    (declared : ctx.config.ci = some ci) (resolved : .reply .resolveConfig (.ok ctx.config) ∈ h)
    (found : s.ciResult = some verdict) (url : verdict.url = none)
    (zero : verdict.exitCode = 0) :
    (anchorToCi ctx).ensures adapters.system (fun _ s' _ h' =>
      Describes s.headCommit h' s'.ciDetail (s'.ciResult.bind CIResult.url) ∧
        ∀ verdict', s'.ciResult = some verdict' → verdict'.exitCode ≠ 0 →
          verdict'.source = .ci) s w h := by
  have still : ∀ verdict', s.ciResult = some verdict' → verdict'.exitCode ≠ 0 →
      verdict'.source = .ci := by
    intro verdict' found' fails
    cases found.symm.trans found'
    exact absurd zero fails
  have unnamed : s.ciResult.bind CIResult.url = none := by rw [found, Option.bind_some, url]
  unfold anchorToCi
  rw [declared]
  refine Task.ensures_read_bind.mpr ?_
  split
  next empty =>
    refine Task.ensures_update ⟨?_, still⟩
    rw [show ({ s with ciDetail := _ } : FlowState).ciResult.bind CIResult.url = none from unnamed]
    exact .unpushed empty
  next head pushed =>
    refine Task.ensures_ofExcept_bind.mpr fun _ _ => ?_
    refine Task.ensures_ofExcept_bind.mpr fun repo primary => ?_
    refine Task.ensures_bind (Task.ensures_past (Ci.await_verdict_ensures s w h)) ?_
    rintro outcome s' w' h' ⟨⟨rfl, answer, awaited⟩, past⟩
    have reads : ∀ url, url = none ∨ url = outcome.url →
        Describes s'.headCommit h' (some outcome.detail) url := fun url known =>
      .read (past.subset resolved) declared primary pushed awaited.concludes known
    refine Task.ensures_update_bind.mpr ?_
    split
    next undecided => exact Task.ensures_pure ⟨reads _ (.inl unnamed), still⟩
    next passed decided =>
      refine Task.ensures_update ⟨reads _ (.inr rfl), ?_⟩
      intro verdict' same _
      cases same
      rfl

/-- What the sandbox reports is on record once its workspace is gone. -/
theorem exec_tested {s : FlowState} {files : List (String × Bytes)} {image : String}
    {command : List String} {limits : ResourceLimits} :
    (Node.withWorkspace files fun workspace => Node.ask (.exec workspace image command limits) :
      Node ExecResult).ensures adapters.system
        (fun result s' _ h' => s' = s ∧ Tested h' result ∧ h <+: h') s w h := by
  refine Task.ensures_bind (Task.ensures_past (Node.leaves_ask.still s w h)) ?_
  rintro workspace s₁ w₁ h₁ ⟨rfl, past₁⟩
  refine Task.ensures_bind (R := fun outcome s' _ h' => s' = s₁ ∧ h₁ <+: h' ∧
    ∀ result, outcome = .ok result → Tested h' result) (Task.ensures_attempt ?_) ?_
  · refine Node.wp_ask.mpr fun s' w' h' drift => ⟨trivial, ?_⟩
    rintro reply s'' w'' ⟨rfl, -⟩
    obtain ⟨moves, rfl⟩ := drift.extends
    refine ⟨Node.drift_state drift, ?_, ?_⟩
    · simp only [List.append_assoc]
      exact List.prefix_append _ _
    · rintro result rfl
      exact ⟨workspace, image, command, limits, List.mem_concat_self⟩
  · rintro outcome s₂ w₂ h₂ ⟨rfl, past₂, tested⟩
    refine Task.ensures_bind (Task.ensures_past (Node.leaves_ask.still s₂ w₂ h₂)) ?_
    rintro _ s₃ w₃ h₃ ⟨rfl, past₃⟩
    cases outcome with
    | error e => exact Task.ensures_raise
    | ok result =>
        obtain ⟨workspace, image, command, limits, mem⟩ := tested result rfl
        exact Task.ensures_pure ⟨rfl, ⟨workspace, image, command, limits, past₃.subset mem⟩,
          past₁.trans (past₂.trans past₃)⟩

theorem Tested.past {h' : History AdapterOp AdapterRep Lbl} {result : ExecResult}
    (tested : Tested h result) (past : h <+: h') : Tested h' result := by
  obtain ⟨workspace, image, command, limits, mem⟩ := tested
  exact ⟨workspace, image, command, limits, past.subset mem⟩

/-- Build & Test describes the commit it was given, unless something of an earlier pass is
left standing. -/
theorem build_test_describes (retries : Int) (s : FlowState) (bound : ctx.sandbox = true)
    (resolved : .reply .resolveConfig (.ok ctx.config) ∈ h) :
    (buildTest ctx).ensures adapters.system (fun _ s' _ h' =>
      Unmixed retries s h' → Graded retries s s' h') s w h := by
  refine Task.ensures_read_bind.mpr (Task.ensures_ofExcept_bind.mpr fun _ _ => ?_)
  split
  next nothing =>
    have empty : s.proposedEdits = [] := by simpa [bound] using nothing
    exact Task.ensures_update fun unmixed => graded_of_sandbox unmixed rfl rfl rfl
      (fun asked => asked.1 empty) (absurd rfl)
  next something =>
    have edits : s.proposedEdits ≠ [] := by simpa [bound] using something
    dsimp only
    split
    next commit _ =>
      refine Task.ensures_ofExcept_bind.mpr fun repo _ => ?_
      refine Task.ensures_ofExcept_bind.mpr fun scm _ => ?_
      refine Task.ensures_bind (Task.ensures_past (Node.leaves_ask.still s w h)) ?_
      rintro tree s₁ w₁ h₁ ⟨rfl, past₁⟩
      refine Task.ensures_bind exec_tested ?_
      rintro result s₂ w₂ h₂ ⟨rfl, tested, past₂⟩
      refine Task.ensures_update_bind.mpr ?_
      have resolved₂ := past₂.subset (past₁.subset resolved)
      have sandboxed : ∀ {returned : FlowState} {h' : History AdapterOp AdapterRep Lbl},
          h₂ <+: h' → result.exitCode ≠ 0 ∨ ctx.config.ci = none →
          returned.ciDetail = s₂.ciDetail →
          returned.ciResult = (graded result s₂).ciResult → Unmixed retries s₂ h' →
          Graded retries s₂ returned h' := by
        intro returned h' past unasked same found unmixed
        refine graded_of_sandbox unmixed same found rfl ?_ (unmixed.last _ (tested.past past))
        rintro ⟨-, declared, zero⟩
        rcases unasked with fails | undeclared
        · exact fails (zero _ (tested.past past))
        · exact declared _ (past.subset resolved₂) undeclared
      split
      next zero =>
        cases declared : ctx.config.ci with
        | none =>
            unfold anchorToCi
            rw [declared]
            exact Task.ensures_update (sandboxed List.prefix_rfl (.inr declared) rfl rfl)
        | some ci =>
            refine Task.ensures_bind (anchor_to_ci_describes declared resolved₂ rfl rfl zero) ?_
            rintro _ s₃ w₃ h₃ ⟨describes, source⟩
            exact Task.ensures_update fun _ =>
              ⟨describes, fun verdict found fails _ => source verdict found fails⟩
      next fails =>
        exact Task.ensures_update (sandboxed List.prefix_rfl (.inl fails) rfl rfl)
    next => exact Task.ensures_raise

end

end KuWarden.BuildTest
