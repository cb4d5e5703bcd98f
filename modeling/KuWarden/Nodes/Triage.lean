import KuWarden.Nodes.Notes
import KuWarden.Policy.Application
import KuWarden.Policy.Tiering

/-!
Triage & Risk Router: admission control, and the first of the two tiering stages.
-/
namespace KuWarden.Triage

open Process Notes

/-- How `n` compares with a limit, which is whatever the configuration holds. Nothing
compares with NaN. -/
def order (n : Int) (limit : Value) : Except PyError (Option Ordering) :=
  match limit with
  | .int m => .ok (some (compare n m))
  | .bool b => .ok (some (compare n (if b then 1 else 0)))
  | .float (.finite q) _ => .ok (some (compare (n : ℚ) q))
  | .float (.inf negative) _ => .ok (some (if negative then .gt else .lt))
  | .float .nan _ => .ok none
  | v => .error (Value.typeError ("'<=' not supported between instances of 'int' and '" ++
      v.typeName ++ "'"))

/-- The trigger that applies, and why this one. -/
def select (triggers : List TriggerConfig) (fallback : TriggerConfig) (system : String) :
    TriggerConfig × String :=
  match triggers.find? fun t => t.provider = system with
  | some trigger => (trigger, "matched on provider " ++ Text.repr system)
  | none => (fallback, "no trigger declares provider " ++ Text.repr system ++
      "; fell back to the first")

/-- `value or ""`, folded for comparison. -/
def folded (s : Option String) : String := Text.casefold (s.getD "")

/-- `f"at most {limit}" if limit is not None else "no ceiling"`. -/
def ceiling (limit : Value) : Except PyError String :=
  match limit with
  | .null => .ok "no ceiling"
  | limit => limit.printed.map ("at most " ++ ·)

/-- Admission control: the checks, in the order they are made. -/
def admits (config : AppConfig) (trigger : TriggerConfig) (ticket : Ticket) :
    Except PyError (List (String × Value × Value × Bool)) := do
  let label := trigger.label.getD ""
  let labelled := !filled trigger.label || ticket.labels.contains label
  let byLabel := ("Required label", orText trigger.label "none required",
    orStrings ticket.labels "no labels", labelled)
  if ¬ labelled then
    throw ⟨.policyDenied, ticket.id ++ " does not carry the " ++ Text.repr label ++
      " label that " ++ config.name ++ " requires", none⟩
  let ready := !filled trigger.readyState ||
    folded ticket.state = folded trigger.readyState
  let byState := ("Ready state", orText trigger.readyState "any state admitted",
    orText ticket.state "unknown", ready)
  if ¬ ready then
    throw ⟨.policyDenied, ticket.id ++ " is in state " ++
      Text.repr (if filled ticket.state then ticket.state.getD "" else "unknown") ++ "; " ++
      config.name ++ " admits tickets in " ++ Text.repr (trigger.readyState.getD ""), none⟩
  let limit := trigger.maxStoryPoints
  let ceiling ← ceiling limit
  let compared ← match limit, ticket.storyPoints with
    | .null, _ => pure (some .eq)
    | _, none => pure (some .eq)
    | limit, some points => order points limit
  let byPoints := ("Story points",
    Value.str ceiling,
    (match ticket.storyPoints with
      | some points => Value.int points
      | none => Value.str "not estimated"),
    compared = some .lt || compared = some .eq)
  if compared = some .gt then
    throw ⟨.policyDenied, ticket.id ++ " is " ++ Text.ofInt (ticket.storyPoints.getD 0) ++
      " points; " ++ config.name ++ " auto-handles at most " ++ limit.text, none⟩
  return [byLabel, byState, byPoints]

def enumerate (sep : String) : Nat → List String → List String
  | _, [] => []
  | i, s :: rest => (Text.ofNat i ++ sep ++ s) :: enumerate sep (i + 1) rest

/-- Tell the ticket it was picked up, once; a failure to do so is not one of the run. -/
def acknowledge (ctx : NodeContext) (provider : TicketProvider) (trigger : TriggerConfig) :
    Node Unit := do
  let state ← Task.read
  let marker := "kuwarden-run: " ++ state.runId.text
  let ref := trigger.ref state.ticket.id
  Task.handle (do
    let bodies ← Node.ask (.comments provider ref)
    if bodies.any (Text.occurs marker) then return ()
    Node.ask (.comment provider ref
      ("KuWarden picked this up and started a run.\n\nProvisional risk tier: " ++
        state.riskTier.text ++ " (the authoritative tier is decided after the change " ++
        "exists).\nFollow it here: " ++ ctx.baseUrl ++ "/runs/" ++ state.runId.text ++
        "\n\n" ++ marker)))
    fun _ => return ()

def triage (ctx : NodeContext) : Node Unit := do
  let config := ctx.config
  let before ← Task.read
  Task.ofExcept (assertConfiguredFor config.name before.appName)
  let fallback :: _ := config.triggers
    | Node.fail .policyDenied (config.name ++ " declares no triggers")
  let (trigger, selection) := select config.triggers fallback before.ticket.system
  let provider ← Task.ofExcept (Node.ticketAdapter trigger)
  let ticket ← Node.ask (.fetch provider (trigger.ref before.ticket.id))
  Task.update fun state => { state with ticket := ticket }
  let admission ← Task.ofExcept (admits config trigger ticket)
  let escalating := ticket.labels.filter fun label => config.risk.highLabels.contains label
  let tier :=
    if escalating.isEmpty then config.defaultRiskTier
    else config.defaultRiskTier.raiseTo .high
  Task.update fun state =>
    let riskTier := state.riskTier.raiseTo tier
    { state with
      riskTier := riskTier
      provisionalRiskTier := some riskTier
      budgetCentsAllowed :=
        if state.budgetCentsAllowed = 0 then config.budgetCentsPerRun
        else state.budgetCentsAllowed }
  let criteria := Text.join "\n" (enumerate ". " 1 ticket.acceptanceCriteria)
  Task.update fun state => { state with
    notes := compose
      ("Admitted " ++ ticket.id ++ " — provisional risk tier " ++ state.riskTier.text)
      [fields "Trigger applied" [
        ("Selection", .str selection),
        ("Provider", .str trigger.provider),
        ("Project", .str trigger.project),
        ("Organisation", optional trigger.organisation),
        ("Site", optional trigger.site),
        ("Triggers declared", number config.triggers.length)],
      fields "Ticket as read from the tracker" [
        ("Id", .str ticket.id),
        ("Title", .str ticket.title),
        ("State", optional ticket.state),
        ("Labels", strings ticket.labels),
        ("Story points", match ticket.storyPoints with
          | some points => .int points
          | none => .null),
        ("Acceptance criteria", .str (Text.ofNat ticket.acceptanceCriteria.length ++
          " stated")),
        ("Body", .str (Text.ofNat ticket.body.length ++ " characters"))],
      checks "Admission control" admission,
      if ticket.body = "" then none
      else text "Ticket body — untrusted input" ticket.body true,
      if criteria = "" then none
      else text "Acceptance criteria — untrusted input" criteria true,
      fields "Risk tiering — stage one of two" [
        ("Application default", .str config.defaultRiskTier.text),
        ("Labels that escalate", orStrings config.risk.highLabels "none configured"),
        ("Escalating labels found", orStrings escalating "none"),
        ("Provisional tier", .str state.riskTier.text),
        ("Authoritative", .str "no — final tiering runs after the Coder loop"),
        ("Budget allocated", .str (Text.ofInt state.budgetCentsAllowed ++ " cents"))]] }
  acknowledge ctx provider trigger

end KuWarden.Triage
