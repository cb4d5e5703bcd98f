import KuWarden.Nodes.Notes

/-!
Abort / Rollback / Cleanup: the record of why a run stopped, and the branch it leaves.

Nothing here raises: a cleanup that fails is written down.
-/
namespace KuWarden.Compensate

open Process Notes

def findingRow (outcome : String) (v : Verification) : String × Value :=
  (v.verifier, .str (Text.ofNat v.findings.length ++ " finding(s) — " ++ outcome))

def findingTexts (v : Verification) : Nat → List String → List (Option Section)
  | _, [] => []
  | i, finding :: rest =>
      text (v.verifier ++ " — finding " ++ Text.ofNat i) finding true ::
        findingTexts v (i + 1) rest

/-- The reason this run is being compensated, as far as the state can say. -/
def why (state : FlowState) : String × List (Option Section) :=
  let rejected := state.verifications.filter fun v => !v.passed
  if rejected = [] then ("Run aborted — see the preceding events for the cause", [])
  else
    let blocking := rejected.filter fun v =>
      state.rejectedBy.isEmpty || state.rejectedBy.contains v.verifier
    let advisory := rejected.filter fun v => !blocking.contains v
    let listed := Text.join ", " (blocking.map Verification.verifier)
    let named := if listed = "" then "an earlier step" else listed
    ("Rejected by " ++ named,
      fields "Which verifiers falsified the change"
        (blocking.map (findingRow "blocked the change") ++
          advisory.map (findingRow "advisory, could not block") ++
          (state.verifications.filter Verification.passed).map fun v =>
            (v.verifier, .str "passed")) ::
        rejected.flatMap fun v => findingTexts v 1 v.findings)

/-- The one exit point: the reason and what was done about the branch. -/
def record (cleanup : Option String) (state : FlowState) : FlowState :=
  let (summary, sections) := why state
  let cleanup := if cleanup.isSome then cleanup else state.cleanup
  { state with
    cleanup := cleanup
    notes := compose
      (summary ++ (if filled cleanup then " — " ++ cleanup.getD "" else ""))
      (sections ++ [fields "Cleanup" [
        ("Branch", orText state.branch "none pushed"),
        ("Head commit", orText state.headCommit "—"),
        ("Action", orText cleanup "nothing to tidy")]]) }

def pushed (state : FlowState) : Option (String × String) := do
  let branch ← nonEmpty state.branch
  let head ← nonEmpty state.headCommit
  return (branch, head)

def openedPullRequest (state : FlowState) : Bool :=
  state.artifacts.any fun artifact => artifact.kind = "pull_request"

def compensate (ctx : NodeContext) : Node Unit := do
  let state ← Task.read
  match pushed state with
  | none => Task.update (record none)
  | some (branch, head) =>
      if openedPullRequest state then
        Task.update (record (some "branch kept: a pull request was opened against it"))
      else
        let repo ← Task.ofExcept ctx.config.primary
        let outcome ← Task.attempt (do
          let scm ← Task.ofExcept (Node.scmAdapter repo)
          Node.ask (.deleteBranch scm repo.ref branch))
        match outcome with
        | .error exc => Task.update (record (some
            ("branch " ++ branch ++ " could not be deleted: " ++ exc.message)))
        | .ok true => Task.update (record (some
            ("branch " ++ branch ++ " deleted at " ++ Text.take 8 head)))
        | .ok false => Task.update (record (some
            ("branch " ++ branch ++ " was already gone")))

/-! ## Whom the record names -/

/-- The verifiers a state holds against the change. -/
def blocking (state : FlowState) : List Verification :=
  (state.verifications.filter fun v => !v.passed).filter fun v =>
    state.rejectedBy.isEmpty || state.rejectedBy.contains v.verifier

/-- A row of the record says that this verifier blocked the change. -/
def Names (notes : Notes) (name : String) : Prop :=
  ∃ written rows count, notes = some written ∧
    .fields "Which verifiers falsified the change" rows ∈ written.sections ∧
    (name, count ++ " finding(s) — " ++ "blocked the change") ∈ rows

/-- The headline of the record rejects the change in the name of these. -/
def Headed (notes : Notes) (names : List String) : Prop :=
  ∃ written rest, notes = some written ∧ written.summary = "Rejected by " ++
    (if Text.join ", " names = "" then "an earlier step" else Text.join ", " names) ++ rest

variable {state : FlowState} {cleanup : Option String} {name : String}

theorem mem_blocking {v : Verification} : v ∈ blocking state ↔ v ∈ state.verifications ∧
    v.passed = false ∧ (state.rejectedBy = [] ∨ v.verifier ∈ state.rejectedBy) := by
  unfold blocking
  simp only [List.mem_filter, Bool.not_eq_true', Bool.or_eq_true, List.isEmpty_iff,
    List.contains_iff_mem, and_assoc]

theorem fields_not_mem_findingTexts {v : Verification} {i : Nat} {findings : List String}
    {title : String} {rows : List (String × String)} :
    some (.fields title rows) ∉ findingTexts v i findings := by
  induction findings generalizing i with
  | nil => exact List.not_mem_nil
  | cons finding rest ih =>
      intro mem
      rcases List.mem_cons.mp mem with same | mem
      · cases same
      · exact ih mem

theorem why_of_none (none : (state.verifications.filter fun v => !v.passed) = []) :
    why state = ("Run aborted — see the preceding events for the cause", []) :=
  if_pos none

def verdictRows (state : FlowState) : List (String × Value) :=
  (blocking state).map (findingRow "blocked the change") ++
    ((state.verifications.filter fun v => !v.passed).filter fun v =>
      !(blocking state).contains v).map (findingRow "advisory, could not block") ++
    (state.verifications.filter Verification.passed).map fun v => (v.verifier, .str "passed")

theorem why_of_some (some : (state.verifications.filter fun v => !v.passed) ≠ []) :
    why state = ("Rejected by " ++
      (if Text.join ", " ((blocking state).map Verification.verifier) = "" then
        "an earlier step" else Text.join ", " ((blocking state).map Verification.verifier)),
      fields "Which verifiers falsified the change" (verdictRows state) ::
        (state.verifications.filter fun v => !v.passed).flatMap fun v =>
          findingTexts v 1 v.findings) :=
  if_neg some

/-- Only the rows of those that it holds against the change say so. -/
theorem blocked_mem_verdictRows {count : String} :
    (name, count ++ " finding(s) — " ++ "blocked the change") ∈
        (verdictRows state).map (fun row => (row.1, scalar row.2)) ↔
      ∃ v ∈ blocking state, v.verifier = name ∧ Text.ofNat v.findings.length = count := by
  have other : ∀ {s : String} {c : Char}, s.toList.getLast? = some c → c ≠ 'e' →
      s ≠ count ++ " finding(s) — " ++ "blocked the change" := by
    intro s c last differ
    refine Text.ne_of_getLast? ?_
    rw [last, Text.getLast?_append (show "blocked the change".toList.getLast? = some 'e' by decide)]
    simpa using differ
  simp only [verdictRows, List.map_append, List.map_map, List.mem_append, List.mem_map,
    Function.comp_apply, findingRow, scalar, Value.text, Prod.mk.injEq]
  constructor
  · rintro ((⟨v, mem, same, text⟩ | ⟨v, -, -, text⟩) | ⟨v, -, -, text⟩)
    · refine ⟨v, mem, same, ?_⟩
      rw [String.append_assoc, String.append_assoc] at text
      exact (String.append_left_inj _).mp text
    · refine absurd text (other (c := 'k') (Text.getLast?_append ?_) (by decide))
      decide
    · exact absurd text (other (c := 'd') (by decide) (by decide))
  · rintro ⟨v, mem, same, rfl⟩
    exact .inl (.inl ⟨v, mem, same, rfl⟩)

theorem record_notes : (record cleanup state).notes = compose
    ((why state).1 ++ (if filled (record cleanup state).cleanup then
      " — " ++ (record cleanup state).cleanup.getD "" else ""))
    ((why state).2 ++ [fields "Cleanup" [
      ("Branch", orText state.branch "none pushed"),
      ("Head commit", orText state.headCommit "—"),
      ("Action", orText (record cleanup state).cleanup "nothing to tidy")]]) := rfl

theorem names_record : Names (record cleanup state).notes name ↔
    ∃ v ∈ blocking state, v.verifier = name := by
  unfold Names
  rw [record_notes]
  have cleaned : ∀ {rows rows'}, (Section.fields "Which verifiers falsified the change" rows) ≠
      .fields "Cleanup" rows' := by
    intro rows rows' same
    have titles := (Section.fields.inj same).1
    revert titles
    decide
  constructor
  · rintro ⟨written, rows, count, same, mem, row⟩
    cases same
    obtain ⟨_, listed, rfl⟩ := List.mem_filterMap.mp mem
    rcases List.mem_append.mp listed with listed | listed
    · by_cases rejected : (state.verifications.filter fun v => !v.passed) = []
      · rw [why_of_none rejected] at listed
        cases listed
      · rw [why_of_some rejected] at listed
        rcases List.mem_cons.mp listed with same | listed
        · cases same
          obtain ⟨v, blocks, same, -⟩ := blocked_mem_verdictRows.mp row
          exact ⟨v, blocks, same⟩
        · obtain ⟨v, -, finding⟩ := List.mem_flatMap.mp listed
          exact absurd finding fields_not_mem_findingTexts
    · exact absurd (Option.some.inj (List.mem_singleton.mp listed)) cleaned
  · rintro ⟨v, blocks, rfl⟩
    have rejected : (state.verifications.filter fun v => !v.passed) ≠ [] :=
      List.ne_nil_of_mem (List.mem_of_mem_filter blocks)
    refine ⟨_, _, _, rfl, ?_, blocked_mem_verdictRows.mpr ⟨v, blocks, rfl, rfl⟩⟩
    rw [why_of_some rejected]
    exact List.mem_filterMap.mpr ⟨_, List.mem_cons_self, rfl⟩

theorem headed_record (some : blocking state ≠ []) :
    Headed (record cleanup state).notes ((blocking state).map Verification.verifier) := by
  have rejected : (state.verifications.filter fun v => !v.passed) ≠ [] := by
    intro none
    exact some (by rw [blocking, none]; rfl)
  refine ⟨_, (if filled (record cleanup state).cleanup then
    " — " ++ (record cleanup state).cleanup.getD "" else ""), record_notes, ?_⟩
  rw [why_of_some rejected]

/-- Compensation writes its record, and nothing but it and the cleanup. -/
theorem compensate_records {W Lbl : Type} {adapters : Adapters W Lbl} {ctx : NodeContext}
    {w : W} {h : History AdapterOp AdapterRep Lbl} :
    (compensate ctx).ensures adapters.system (fun _ s' _ _ => ∃ cleanup, s' = record cleanup state)
      state w h := by
  have recorded : ∀ cleanup w h, (Task.update (record cleanup) : Node Unit).ensures
      adapters.system (fun _ s' _ _ => ∃ cleanup, s' = record cleanup state) state w h :=
    fun cleanup _ _ => Task.ensures_update ⟨cleanup, rfl⟩
  refine Task.ensures_read_bind.mpr ?_
  split
  next => exact recorded _ _ _
  next branch head pushes =>
    split
    · exact recorded _ _ _
    · refine Task.ensures_ofExcept_bind.mpr fun repo _ => ?_
      have removes : Node.Leaves adapters id (Task.attempt (do
          let scm ← Task.ofExcept (Node.scmAdapter repo)
          Node.ask (.deleteBranch scm repo.ref branch))) :=
        Node.leaves_attempt (Node.leaves_bind Node.leaves_ofExcept fun _ => Node.leaves_ask)
      refine Task.ensures_bind (removes.still state w h) fun outcome s' w' h' same => ?_
      subst same
      split
      all_goals exact recorded _ _ _

end KuWarden.Compensate
