import KuWarden.Nodes.Notes

/-!
Reporter: the outcome and its evidence, back on the ticket.
-/
namespace KuWarden.Reporter

open Process Notes

def named (approved : Bool) : String := if approved then "approved" else "rejected"

def tierText (state : FlowState) : String :=
  let tier := "risk tier **" ++ state.riskTier.text ++ "**"
  match state.provisionalRiskTier with
  | some provisional =>
      if provisional ≠ state.riskTier ∧ state.riskTierReason ≠ "" then
        tier ++ ", raised from " ++ provisional.text ++ " because " ++ state.riskTierReason
      else if state.riskTierReason = "" then tier
      else tier ++ " — " ++ state.riskTierReason
  | none =>
      if state.riskTierReason = "" then tier else tier ++ " — " ++ state.riskTierReason

def verdictLine (advisory : List String) (v : Verification) : String :=
  if v.passed then "- " ++ v.verifier ++ ": passed"
  else if advisory.contains v.verifier then
    "- " ++ v.verifier ++ ": objected, but is configured as advisory and could not block"
  else "- " ++ v.verifier ++ ": FAILED — this stopped the change"

/-- The `lines` of the comment. -/
def lines (state : FlowState) : List String :=
  let pulls := (state.artifacts.filter fun a => a.kind = "pull_request").map Artifact.uri
  ["KuWarden run `" ++ state.runId.text ++ "` — " ++ tierText state ++ ".", ""] ++
    (if pulls = [] then [] else ["Pull request: " ++ Text.join ", " pulls, ""]) ++
    (if state.verifications = [] then []
      else ["Verification:"] ++
        state.verifications.map (verdictLine state.advisoryObjections) ++ [""]) ++
    (if state.approvals = [] then []
      else ["Approvals:"] ++
        state.approvals.map (fun a => "- " ++ a.principal ++ ": " ++ named a.approved) ++
        [""]) ++
    ["Policy commit `" ++ state.policyCommit ++ "`."]

def body (state : FlowState) : String := Text.join "\n" (lines state)

def reporter (ctx : NodeContext) : Node Unit := do
  let state ← Task.read
  match ctx.config.triggers with
  | [] =>
      Task.update fun state => { state with
        notes := compose
          "Nothing was posted — the application declares no trigger to post back to"
          [fields "Why" [
            ("Triggers declared", .int 0),
            ("Outcome", .str "the ticket was not told what became of this run")]] }
  | first :: _ =>
      let trigger := (ctx.config.triggers.find? fun t =>
        t.provider = state.ticket.system).getD first
      let provider ← Task.ofExcept (Node.ticketAdapter trigger)
      let posted := body state
      Node.ask (.comment provider (trigger.ref state.ticket.id) posted)
      Task.update fun state => { state with
        notes := compose
          ("Posted the outcome to " ++ trigger.provider ++ " " ++ state.ticket.id)
          [fields "Where it was posted" [
            ("Provider", .str trigger.provider),
            ("Project", .str trigger.project),
            ("Ticket", .str state.ticket.id),
            ("Runs on", .str "every path — success and compensation alike")],
          text "Comment, as posted" posted] }

/-! ## Whom the comment names -/

def blameLine (name : String) : String := "- " ++ name ++ ": FAILED — this stopped the change"

/-- A line of the comment says that this verifier stopped the change. -/
def Names (state : FlowState) (name : String) : Prop := blameLine name ∈ lines state

theorem ne_blameLine {name front s : String} {c : Char} (last : s.toList.getLast? = some c)
    (differ : c ≠ 'e') : blameLine name ≠ front ++ s := by
  refine Text.ne_of_getLast? ?_
  rw [Text.getLast?_append last, blameLine, Text.getLast?_append
    (show ": FAILED — this stopped the change".toList.getLast? = some 'e' by decide)]
  simpa using differ.symm

/-- Only a line on a verifier can name one. -/
theorem mem_lines {state : FlowState} {name : String} : blameLine name ∈ lines state ↔
    blameLine name ∈ state.verifications.map (verdictLine state.advisoryObjections) := by
  have head : (blameLine name).toList.head? = some '-' := by simp [blameLine]
  have headed : ∀ {line : String}, line.toList.head? ≠ some '-' → blameLine name ≠ line := by
    rintro line differ rfl
    exact differ head
  constructor
  · intro mem
    simp only [lines, List.mem_append] at mem
    rcases mem with (((first | pull) | verdict) | approval) | policy
    · refine absurd first ?_
      simp [headed, String.toList_append]
    · split at pull
      · cases pull
      · refine absurd pull ?_
        simp [headed, String.toList_append]
    · split at verdict
      · cases verdict
      · rcases List.mem_append.mp verdict with above | below
        · exact (List.mem_cons.mp above).resolve_left (headed (by decide))
        · exact absurd (List.mem_singleton.mp below) (headed (by decide))
    · split at approval
      · cases approval
      · rcases List.mem_append.mp approval with above | below
        · obtain ⟨a, -, same⟩ :=
            List.mem_map.mp ((List.mem_cons.mp above).resolve_left (headed (by decide)))
          unfold named at same
          split at same
          · exact absurd same.symm (ne_blameLine (c := 'd') (by decide) (by decide))
          · exact absurd same.symm (ne_blameLine (c := 'd') (by decide) (by decide))
        · exact absurd (List.mem_singleton.mp below) (headed (by decide))
    · refine absurd (List.mem_singleton.mp policy) (headed ?_)
      simp [String.toList_append]
  · intro mem
    have some : state.verifications ≠ [] := by
      intro none
      rw [none] at mem
      cases mem
    simp only [lines, List.mem_append, if_neg some]
    exact .inl (.inl (.inr (.inl (.inr mem))))

theorem names_iff {state : FlowState} {name : String} : Names state name ↔
    ∃ v ∈ state.verifications, v.passed = false ∧ v.verifier ∉ state.advisoryObjections ∧
      v.verifier = name := by
  rw [Names, mem_lines]
  constructor
  · intro mem
    obtain ⟨v, listed, line⟩ := List.mem_map.mp mem
    unfold verdictLine at line
    split at line
    next => exact absurd line.symm (ne_blameLine (c := 'd') (by decide) (by decide))
    next failed =>
      split at line
      next => exact absurd line.symm (ne_blameLine (c := 'k') (by decide) (by decide))
      next unlisted =>
        refine ⟨v, listed, by simpa using failed, by simpa using unlisted, ?_⟩
        exact (String.append_right_inj _).mp ((String.append_left_inj _).mp line)
  · rintro ⟨v, listed, failed, unlisted, rfl⟩
    refine List.mem_map.mpr ⟨v, listed, ?_⟩
    rw [verdictLine, failed, if_neg (by simp), if_neg (by simpa using unlisted)]
    rfl

end KuWarden.Reporter
