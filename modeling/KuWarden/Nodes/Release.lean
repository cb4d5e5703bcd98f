import KuWarden.Nodes.Notes

/-!
Release: the control point. It opens the pull request and, where the application
declared that it may, merges it.
-/
namespace KuWarden.Release

open Process Notes

/-- Whether auto-merge applies, and the sentence explaining it either way. -/
structure MergeVerdict where
  allowed : Bool
  detail : String
  deriving DecidableEq

def changedFiles (state : FlowState) : Nat := (state.diff.map fun d => d.files.length).getD 0

def anchored (state : FlowState) : Bool :=
  match state.ciResult with
  | some result => result.isExternalAnchor
  | none => false

def above (count : Nat) : Option Int → Bool
  | some limit => (count : Int) > limit
  | none => false

def mayMerge (config : AppConfig) (state : FlowState) : MergeVerdict :=
  let policy := config.autoMerge
  let changed := changedFiles state
  if ¬ policy.enabled then ⟨false, "not enabled for this application"⟩
  else if config.integrationModel ≠ .gatedMerge then
    ⟨false, "integration_model is " ++ config.integrationModel.value ++
      ", not gated_merge"⟩
  else if state.riskTier.order > policy.maxRiskTier.order then
    ⟨false, "risk tier " ++ state.riskTier.text ++ " is above the " ++
      policy.maxRiskTier.text ++ " ceiling"⟩
  else if state.approvals.any fun approval => !approval.approved then
    ⟨false, "a human rejected this change"⟩
  else if above changed policy.maxFilesChanged then
    ⟨false, Text.ofNat changed ++ " files changed, above the " ++
      Text.ofInt (policy.maxFilesChanged.getD 0) ++ " allowed"⟩
  else if policy.requireExternalAnchor ∧ ¬ anchored state then
    ⟨false, "no external anchor: " ++ (if filled state.ciDetail
      then state.ciDetail.getD "" else "the verdict came from KuWarden's own sandbox")⟩
  else
    ⟨true, "tier " ++ state.riskTier.text ++ " at or below " ++
      policy.maxRiskTier.text ++ ", " ++ Text.ofNat changed ++ " file(s) changed" ++
      (if anchored state then ", anchored against the project's own pipeline" else "") ++
      " — merged under the declared policy"⟩

theorem anchored_iff {state : FlowState} :
    anchored state = true ↔ ∃ result, state.ciResult = some result ∧ result.source = .ci := by
  unfold anchored
  split
  next result found => simp [found, CIResult.isExternalAnchor]
  next absent => simp [absent]

theorem not_above {count : Nat} {limit : Option Int} :
    above count limit = false ↔ ∀ n, limit = some n → (count : Int) ≤ n := by
  cases limit <;> simp [above]

structure MayMerge (config : AppConfig) (state : FlowState) : Prop where
  enabled : config.autoMerge.enabled = true
  gated : config.integrationModel = .gatedMerge
  tier : state.riskTier.order ≤ config.autoMerge.maxRiskTier.order
  unrejected : ∀ approval ∈ state.approvals, approval.approved = true
  files : ∀ limit, config.autoMerge.maxFilesChanged = some limit →
    (changedFiles state : Int) ≤ limit
  anchor : config.autoMerge.requireExternalAnchor = true →
    ∃ result, state.ciResult = some result ∧ result.source = .ci

theorem mayMerge_of_allowed {config : AppConfig} {state : FlowState}
    (allowed : (mayMerge config state).allowed = true) : MayMerge config state := by
  simp only [mayMerge, apply_ite MergeVerdict.allowed] at allowed
  split_ifs at allowed with enabled gated tier rejected files anchor
  exact {
    enabled := by simpa using enabled
    gated := by simpa using gated
    tier := not_lt.mp tier
    unrejected := by simpa using rejected
    files := not_above.mp (by simpa using files)
    anchor := fun required => anchored_iff.mp (by simpa [required] using anchor) }

def named (approved : Bool) : String := if approved then "approved" else "rejected"

def orElse (s other : String) : String := if s = "" then other else s

def description (state : FlowState) : String :=
  let verdicts := orElse (Text.join "\n" (state.verifications.map fun v =>
    "- " ++ v.verifier ++ ": " ++ (if v.passed then "passed" else "FAILED")))
    "- none recorded"
  let approvals := orElse (Text.join "\n" (state.approvals.map fun a =>
    "- " ++ a.principal ++ ": " ++ named a.approved ++ " (evidence " ++
      a.evidenceDigest ++ ")"))
    "- none required at this risk tier"
  Text.join "\n" [
    "Raised by KuWarden for " ++ state.ticket.system ++ " " ++ state.ticket.id ++ ".",
    "",
    "**Risk tier:** " ++ state.riskTier.text,
    "**Run:** `" ++ state.runId.text ++ "`",
    "**Head:** `" ++ state.headCommit.getD "None" ++ "`",
    "**Policy commit:** `" ++ state.policyCommit ++ "`",
    "",
    "### Verification",
    verdicts,
    "",
    "### Approvals",
    approvals]

/-- The branch, its head and its target, when Push established all of them. -/
def pushed (state : FlowState) : Option (String × String × String) := do
  let branch ← nonEmpty state.branch
  let head ← nonEmpty state.headCommit
  let base ← nonEmpty state.baseBranch
  return (branch, head, base)

/-- The notes of a release that opened `pull` and merged it as `merged`, if it did. -/
def notes (config : AppConfig) (state : FlowState) (pull : PullRequest)
    (branch head base : String) (verdict : MergeVerdict) (merged : Option String) : Notes :=
  let did := filled merged
  let commit := merged.getD ""
  let title := Text.take 200 (state.ticket.id ++ ": " ++ state.ticket.title)
  compose
    ("Opened " ++ pull.url ++
      (if did then " and merged it as " ++ Text.take 12 commit else ""))
    [fields "The pull request" [
      ("URL", .str pull.url),
      ("Source branch", .str branch),
      ("Target branch", .str base),
      ("Head commit", .str head),
      ("Title", .str title)],
    fields "What had to be true before this node ran" [
      ("Verifiers", .str (Text.ofNat state.verifications.length ++ " ran, all passed")),
      ("Risk tier, final", .str state.riskTier.text),
      ("Approvals", orStrings (state.approvals.map fun a =>
        a.principal ++ " (" ++ named a.approved ++ ")") "none required at this tier")],
    fields "Control point" [
      ("Integration model", .str config.integrationModel.value),
      ("control_mode recorded", .str (if did then "authorized — KuWarden merged this itself"
        else "none — this node opened a request, and performed no effect")),
      ("Auto-merge", .str verdict.detail),
      ("This node did", .str (if did then "merge, as " ++ commit
        else "open a request addressed to a human"))],
    text "Pull request description, as posted" (description state)]

def release (ctx : NodeContext) : Node Unit := do
  let state ← Task.read
  let some (branch, head, base) := pushed state
    | Node.fail .adapterError "release reached with no pushed branch"
  let repo ← Task.ofExcept ctx.config.primary
  let scm ← Task.ofExcept (Node.scmAdapter repo)
  let title := Text.take 200 (state.ticket.id ++ ": " ++ state.ticket.title)
  let pull ← Node.ask (.openPullRequest scm repo.ref branch base title (description state))
  Task.update fun state => { state with
    artifacts := state.artifacts ++ [⟨"pull_request", pull.url, pull.id⟩] }
  let verdict := mayMerge ctx.config state
  if verdict.allowed then
    let commit ← Node.ask (.mergePullRequest scm repo.ref pull.id head)
    Task.update fun state => { state with
      artifacts := state.artifacts ++ [⟨"merge", pull.url, commit⟩]
      mergedCommit := some commit
      notes := notes ctx.config state pull branch head base verdict (some commit) }
  else
    Task.update fun state => { state with
      notes := notes ctx.config state pull branch head base verdict none }

/-! ## What a merge was allowed under -/

/-- What a past must hold for Release to make this call from `state`. -/
def MayAsk {Lbl : Type} (state : FlowState) (h : History AdapterOp AdapterRep Lbl)
    (op : AdapterOp) : Prop :=
  ∀ scm ref number commit, op = .mergePullRequest scm ref number commit →
    ∃ config, .reply .resolveConfig (.ok config) ∈ h ∧ MayMerge config state ∧
      state.headCommit = some commit

theorem pushed_head {state : FlowState} {branch head base : String}
    (found : pushed state = some (branch, head, base)) : state.headCommit = some head := by
  simp only [pushed, Option.bind_eq_bind, Option.pure_def, Option.bind_eq_some_iff,
    Option.some.injEq, Prod.mk.injEq] at found
  obtain ⟨_, _, _, known, _, _, _, rfl, _⟩ := found
  exact (nonEmpty_eq_some.mp known).1

section
variable {W Lbl : Type} {adapters : Adapters W Lbl} {ctx : NodeContext} {s : FlowState}
  {w : W} {h : History AdapterOp AdapterRep Lbl}

theorem release_asks (resolved : .reply .resolveConfig (.ok ctx.config) ∈ h)
    (met : CallsMeet (MayAsk s) h) :
    (release ctx).wp adapters.system (fun _ _ h => CallsMeet (MayAsk s) h)
      (fun _ _ _ h => CallsMeet (MayAsk s) h) s w h := by
  unfold release
  refine Task.wp_bind.mpr (Task.wp_read.mpr ?_)
  rw [Task.andThen_ok]
  split
  next branch head base found =>
    refine Task.wp_bind.mpr (Task.wp_ofExcept _ |>.mpr ?_)
    cases ctx.config.primary with
    | error e => exact met
    | ok repo =>
      refine Task.wp_bind.mpr (Task.wp_ofExcept _ |>.mpr ?_)
      cases Node.scmAdapter repo with
      | error e => exact met
      | ok scm =>
        have opens : (Node.ask (.openPullRequest scm repo.ref branch base
            (Text.take 200 (s.ticket.id ++ ": " ++ s.ticket.title)) (description s))).Keeps
            adapters.system fun _ _ h => CallsMeet (MayAsk s) h :=
          Node.keeps_ask_callsMeet fun _ => by simp [MayAsk]
        refine Task.wp_bind.mpr (Task.wp_mono (opens.wp_with met
          (Task.ensures_past (Node.leaves_ask.still s w h))) ?_)
        rintro (e | pull) s₁ w₁ h₁ ⟨met₁, opened⟩
        · exact met₁
        · obtain ⟨rfl, past⟩ := opened _ rfl
          refine Task.wp_bind.mpr ((Task.wp_update _).mpr ?_)
          rw [Task.andThen_ok]
          dsimp only
          split
          next allowed =>
            have may : MayAsk s₁ h₁ (.mergePullRequest scm repo.ref pull.id head) := by
              rintro _ _ _ commit same
              cases same
              exact ⟨ctx.config, past.subset resolved, mayMerge_of_allowed allowed,
                pushed_head found⟩
            refine Task.wp_bind.mpr (Task.wp_mono (Node.wp_ask_callsMeet met₁ may) ?_)
            rintro (e | commit) s₃ w₃ h₃ met₃ <;> exact met₃
          next => exact met₁
  next => exact met

end

end KuWarden.Release
