import KuWarden.Activities.Audit
import KuWarden.Python.Json
import KuWarden.Python.Utf8

/-!
What an approver is shown: the document assembled from a run's row and its trail, with
everything about it that is weaker than it looks.
-/
namespace KuWarden.Evidence

def evidenceSchema : Nat := 3

/-- A row of the trail as it is read, and when it was written. -/
structure Row where
  event : EventRecorded
  occurredAt : String

/-- The run's row as it is read, and when it was written. -/
structure Run where
  row : RunRow
  createdAt : String

structure Document where
  schema : Nat
  runId : UUID
  application : Option String
  ticketSystem : String
  ticketId : String
  riskTier : RiskTier
  provisionalRiskTier : RiskTier
  riskTierReason : String
  status : String
  policyCommit : String
  policyBundle : Dict
  startedAt : String
  tests : Payload
  sandboxIsolation : Payload
  verifications : List VerdictRow
  previewUrl : String
  caveats : List String
  events : List Row

/-- The most recent payload for an event kind, or an empty one. -/
def payloadOf (rows : List Row) (kind : String) : Payload :=
  (((rows.filter fun row => row.event.kind = kind).map fun row => row.event.payload).getLast?).getD
    .empty

/-- What a verifier wrote down, as it is counted. -/
def findingsOf (row : VerdictRow) : Nat :=
  if row.graded = [] then row.findings.length else row.graded.length

def advisoryOf : Payload → List String
  | .verifierOverridden advisory _ => advisory
  | _ => []

def anchorCaveat : Payload → List String
  | .buildTestVerdict _ .ci _ _ _ _ _ => []
  | .buildTestVerdict _ .sandbox _ _ _ _ ciDetail => [
      "The tests were run in KuWarden's own sandbox, not by the project's CI. " ++
        "The same system produced this change and graded it, so this verdict is not an " ++
        "independent check (invariant 3)." ++
        (match nonEmpty ciDetail with
          | some reason => " No verdict came from the project's pipeline: " ++ reason ++ "."
          | none => "")]
  | _ => ["No test verdict was recorded for this run."]

def isolationCaveat : Payload → List String
  | .sandboxIsolation .degraded gaps => [
      "The sandbox ran under weakened isolation (" ++
        (if gaps = [] then "unspecified" else Text.join ", " gaps) ++
        "). Resource limits the configuration asked for were not applied by the host."]
  | _ => []

/-- Everything about this evidence that is weaker than it looks. -/
def caveats (policyCommit : String) (verdict isolation : Payload)
    (verifications : List VerdictRow) (overridden : Payload) (preview : String) : List String :=
  let quiet := ((verifications.filter fun v => !v.blocks).map findingsOf).sum
  (advisoryOf overridden).map (fun name =>
    name ++ " falsified this change and was not permitted to block it, because this " ++
      "application declares it advisory. Its findings are on this page and were not " ++
      "acted on by the gate.") ++
  (if quiet = 0 then [] else [
    Text.ofNat quiet ++ " finding(s) were recorded by verifiers that did not stop this change " ++
      "— each judged, by the verifier that wrote it, not serious enough to block. A " ++
      "passing verdict is not an empty one, that judgement is theirs, and this page is " ++
      "where it can be overruled."]) ++
  anchorCaveat verdict ++
  isolationCaveat isolation ++
  (if preview ≠ "" then [] else [
    "No running deployment of this commit was found, so nothing on this page shows " ++
      "the change working. Every check above verifies form — lint, types, the build, and " ++
      "four models reading a diff — and none of them can tell whether the change does " ++
      "what the ticket asked."]) ++
  (if Text.startsWith "unpinned:" policyCommit then [
    "No policy bundle was pinned for this run, so there is no recorded statement of " ++
      "which rules authorised it."] else [])

def verificationsOf : Payload → List VerdictRow
  | .verifiersCompleted _ _ _ verifications => verifications
  | _ => []

def previewOf : Payload → String
  | .previewPublished url _ => url
  | _ => ""

/-- The tier the trail settled on, and the one the ticket's labels suggested. The column
only ever holds the latter. -/
def tiersOf (column : RiskTier) : Payload → RiskTier × RiskTier × String
  | .riskTierFinal tier provisional reason _ =>
      (tier, provisional, if reason = "" then "final tiering did not run" else reason)
  | _ => (column, column, "final tiering did not run")

/-- What `assemble` makes of what it has read. -/
def document (runId : UUID) (run : Run) (rows : List Row) (appName : Option String) :
    Document :=
  let started := run.row.started
  let verdict := payloadOf rows "build_test_verdict"
  let isolation := payloadOf rows "sandbox_isolation"
  let verifications := verificationsOf (payloadOf rows "verifiers_completed")
  let preview := previewOf (payloadOf rows "preview_published")
  let (tier, provisional, reason) := tiersOf started.riskTier (payloadOf rows "risk_tier_final")
  { schema := evidenceSchema
    runId := runId
    application := appName
    ticketSystem := started.ticketSystem
    ticketId := started.ticketId
    riskTier := tier
    provisionalRiskTier := provisional
    riskTierReason := reason
    status := run.row.status
    policyCommit := started.policyCommit
    policyBundle := started.policyBundle
    startedAt := run.createdAt
    tests := verdict
    sandboxIsolation := isolation
    verifications := verifications
    previewUrl := preview
    caveats := caveats started.policyCommit verdict isolation verifications
      (payloadOf rows "verifier_overridden") preview
    events := rows }

/-! ## The digest -/

/-- The form in which a document is hashed. -/
def canonical (document : Json) : List UInt8 :=
  Utf8.encode (String.ofList (document.dumps true))

def digestOf (sha256 : List UInt8 → String) (document : Json) : String :=
  sha256 (canonical document)

/-- A digest tells two documents apart, short of a collision, unless they are the same but for
the order of their keys. -/
theorem digest_binds {sha256 : List UInt8 → String} {shown current : Json} (keyed : shown.Keyed)
    (keyed' : current.Keyed) : digestOf sha256 shown = digestOf sha256 current ↔
      shown.Same current ∨ canonical shown ≠ canonical current ∧
        sha256 (canonical shown) = sha256 (canonical current) := by
  have alike : canonical shown = canonical current ↔ shown.Same current := by
    rw [← Json.dumps_sorted_eq_iff keyed keyed']
    constructor
    · intro same
      exact String.ofList_inj.mp (Utf8.encode_inj same)
    · exact congrArg fun text => Utf8.encode (String.ofList text)
  rw [← alike, digestOf, digestOf]
  constructor
  · intro same
    by_cases texts : canonical shown = canonical current
    · exact .inl texts
    · exact .inr ⟨texts, same⟩
  · rintro (same | ⟨-, same⟩)
    · rw [same]
    · exact same

/-- One document, listed in two orders. -/
theorem digest_binds_reordered :
    let shown := Json.dict [("status", .str "suspended"), ("seq", .int 3)]
    let current := Json.dict [("seq", .int 3), ("status", .str "suspended")]
    digestOf (fun bytes => toString bytes.length) shown =
        digestOf (fun bytes => toString bytes.length) current ↔
      shown.Same current ∨ canonical shown ≠ canonical current ∧
        toString (canonical shown).length = toString (canonical current).length :=
  digest_binds
    (.dict (by decide) (List.forall_mem_cons.mpr ⟨.str _, List.forall_mem_singleton.mpr (.int _)⟩))
    (.dict (by decide) (List.forall_mem_cons.mpr ⟨.int _, List.forall_mem_singleton.mpr (.str _)⟩))

end KuWarden.Evidence
