import KuWarden.Nodes.Notes
import KuWarden.Policy.ProtectedPaths

/-!
Push: the branch exists before anything grades it.
-/
namespace KuWarden.Push

open Process Notes

def commitMessage (state : FlowState) : String :=
  Text.join "\n" [
    Text.take 72 (state.ticket.id ++ ": " ++ state.ticket.title),
    "",
    "kuwarden-run-id: " ++ state.runId.text,
    "kuwarden-root-run-id: " ++ state.rootRunId.text,
    "kuwarden-policy-commit: " ++ state.policyCommit,
    "kuwarden-risk-tier-at-push: " ++ state.riskTier.text,
    "kuwarden-attempt: " ++ Text.ofInt state.pushAttempt]

theorem commit_message_ends (state : FlowState) : ∃ before,
    (commitMessage state).toList =
      before ++ '\n' :: ("kuwarden-attempt: ".toList ++ (Text.ofInt state.pushAttempt).toList) := by
  refine ⟨(Text.join "\n" [
    Text.take 72 (state.ticket.id ++ ": " ++ state.ticket.title),
    "",
    "kuwarden-run-id: " ++ state.runId.text,
    "kuwarden-root-run-id: " ++ state.rootRunId.text,
    "kuwarden-policy-commit: " ++ state.policyCommit,
    "kuwarden-risk-tier-at-push: " ++ state.riskTier.text]).toList, ?_⟩
  have newline : "\n".toList = ['\n'] := rfl
  simp only [commitMessage, Text.join, String.toList_append, List.append_assoc,
    newline, List.cons_append, List.nil_append]

theorem no_newline (n : Int) :
    '\n' ∉ "kuwarden-attempt: ".toList ++ (Text.ofInt n).toList := by
  intro mem
  rcases List.mem_append.mp mem with mem | mem
  · revert mem
    decide
  · rcases Text.mem_ofInt mem with is | digit
    · cases is
    · exact absurd digit (by decide)

/-- The message tells the attempts of a run apart. -/
theorem commit_message_attempt {s s' : FlowState}
    (same : commitMessage s = commitMessage s') :
    s.pushAttempt = s'.pushAttempt := by
  obtain ⟨before, ends⟩ := commit_message_ends s
  obtain ⟨before', ends'⟩ := commit_message_ends s'
  rw [same, ends'] at ends
  obtain ⟨-, last⟩ := Text.append_cons_inj (no_newline _) (no_newline _) ends
  exact (Text.ofInt_inj (List.append_cancel_left last)).symm

def pinned (state : FlowState) : Option (String × BranchRef) := do
  let branch ← nonEmpty state.branch
  let base ← nonEmpty state.baseBranch
  let commit ← nonEmpty state.baseCommit
  return (branch, ⟨base, commit⟩)

/-- What a push sends, checked before anything is sent: the changed paths, the branch and
the base it builds on. -/
def ready (state : FlowState) : Except PyError (List String × String × BranchRef) := do
  let paths := (state.diff.map Diff.paths).getD []
  if paths = [] then
    throw ⟨.adapterError, "the Coder produced no change — the sandbox tree is identical to " ++
      "the base commit. Read the Coder's notes for what it was shown and what it decided; a " ++
      "run reaches here having proposed nothing when the model could not find what the " ++
      "ticket names.", none⟩
  let some (branch, base) := pinned state
    | throw ⟨.adapterError,
        "push reached before the Coder pinned a branch and a base commit", none⟩
  assertNotProtected paths
  return (paths, branch, base)

def push (ctx : NodeContext) : Node Unit := do
  let state ← Task.read
  let (paths, branch, base) ← Task.ofExcept (ready state)
  let repo ← Task.ofExcept ctx.config.primary
  let scm ← Task.ofExcept (Node.scmAdapter repo)
  let ref := repo.ref
  let parent := state.headCommit
  let message := commitMessage state
  let pushed ← Node.ask (.pushChange scm ref base branch message
    (state.proposedEdits.map fun edit => ⟨edit.path, edit.content, edit.deleted⟩) parent)
  Task.update fun state => { state with
    headCommit := some pushed.commit
    artifacts := state.artifacts ++
      [⟨"commit", ref.org ++ "/" ++ ref.repo ++ "@" ++ pushed.commit, pushed.commit⟩]
    notes := compose
      ("Pushed " ++ Text.ofNat state.proposedEdits.length ++ " file(s) to " ++ branch ++
        " as " ++ Text.take 12 pushed.commit)
      [fields "Where it went" [
        ("Repository", .str (ref.org ++ "/" ++ ref.repo)),
        ("Branch", .str branch),
        ("Base commit, pinned by the Coder", .str base.commit),
        ("Parent", orText parent "none — first attempt, so this commit sits on the base"),
        ("New commit", .str pushed.commit),
        ("Pass of the Coder/Build cycle", .int state.pushAttempt),
        ("Retries inside the Coder", .int state.retryCount)],
      checks "Checked before anything reached origin" [
        ("Protected paths",
          .str "no CI definition, deploy manifest, IaC or KuWarden config",
          strings paths, true)],
      fields "What this node may do" [
        ("Credential held", .str "scm.write_branch, and nothing else"),
        ("Merge", .str "not on the adapter interface"),
        ("Pull request", .str "not here — Release opens it, after the gate"),
        ("Control point moved", .str "no — pushing a branch is not one of the three")],
      text "Commit message, with the trailers that make the run resolvable" message,
      fields "Files written" (state.proposedEdits.map fun edit =>
        (edit.path, .str (if edit.deleted then "deleted"
          else Text.ofNat (Text.lineCount edit.content) ++ " lines")))] }

end KuWarden.Push
