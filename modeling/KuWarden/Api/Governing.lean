import KuWarden.Config
import KuWarden.Flows.State

/-!
What the API pins when it launches a run: the tiering rules and the blocking verifiers,
read once and carried into the workflow as data.
-/
namespace KuWarden.Api

/-- The rules as the API reads them. Nothing has checked that a threshold is a number. -/
structure DeclaredRules where
  highPaths : List String := []
  mediumPaths : List String := []
  mediumChangedFiles : Value := .null
  highChangedFiles : Value := .null

/-- `_governing`, on what resolving the configuration gave. A configuration that cannot be
resolved yields no tiering rules and every verifier blocking. -/
def governing : Except PyError AppConfig → Except PyError (DeclaredRules × List String)
  | .error exc =>
      if exc.kind.isKuWardenError ∨ exc.kind.isOSError then .ok ({}, allVerifiers)
      else .error exc
  | .ok config =>
      let rules : DeclaredRules := {
        highPaths := config.risk.highPaths
        mediumPaths := config.risk.mediumPaths
        mediumChangedFiles := config.risk.mediumChangedFiles
        highChangedFiles := config.risk.highChangedFiles }
      .ok (rules, config.verification.blocking.insertionSort (· ≤ ·))

def policyCommit : String := "unpinned:no-policy-loader"

/-- What the caller of `_launch` names, with the run's new id. -/
structure Request where
  runId : UUID
  appId : UUID
  ticketId : String
  provider : String
  appName : String := ""

/-- The input the workflow decodes. `converter` is what the payload converter makes of a
threshold it decodes as `int | None`. -/
def launch (converter : Value → Except PyError (Option Int))
    (resolved : Except PyError AppConfig) (request : Request) : Except PyError FlowInput := do
  let (rules, blockingVerifiers) ← governing resolved
  let mediumChangedFiles ← converter rules.mediumChangedFiles
  let highChangedFiles ← converter rules.highChangedFiles
  return {
    runId := request.runId
    appId := request.appId
    ticket := { id := request.ticketId, system := request.provider, title := "", body := "" }
    policyCommit := policyCommit
    policyBundle := [(.str "source", .str "not-loaded")]
    provisionalRiskTier := .low
    appName := request.appName
    riskRules := {
      highPaths := rules.highPaths
      mediumPaths := rules.mediumPaths
      mediumChangedFiles, highChangedFiles }
    blockingVerifiers }

theorem launch_blocking {converter : Value → Except PyError (Option Int)}
    {config : AppConfig} {request : Request} {params : FlowInput}
    (launched : launch converter (.ok config) request = .ok params) :
    params.blockingVerifiers = config.verification.blocking.insertionSort (· ≤ ·) := by
  obtain ⟨⟨rules, blocking⟩, governs, launched⟩ := Config.of_bind_ok launched
  obtain ⟨medium, -, launched⟩ := Config.of_bind_ok launched
  obtain ⟨high, -, launched⟩ := Config.of_bind_ok launched
  cases governs
  cases launched
  rfl

end KuWarden.Api
