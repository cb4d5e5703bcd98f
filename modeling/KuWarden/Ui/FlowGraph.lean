import KuWarden.Flows.State
import KuWarden.Python.OrderedDict

/-!
The run's diagram: the trail folded into one view per node.

A row of the trail is read with the time at which it was written, in milliseconds.
-/
namespace KuWarden.Ui

open Python

inductive NodeState
  | pending | running | ok | advisory | failed | interrupted
  deriving DecidableEq, Repr

structure RunEvent where
  event : EventRecorded
  occurredAt : Int

structure NodeView where
  state : NodeState := .pending
  attempts : Nat := 0
  ms : Option Int := none
  detail : Option String := none
  events : List RunEvent := []

abbrev Views := OrderedDict String NodeView

/-- What `derive` has made of the rows so far. -/
structure Derived where
  views : Views := .empty
  startedAt : OrderedDict String Int := .empty

/-! ## What a row's payload says -/

def falsifiedOf : Payload → Option (List String)
  | .verifiersCompleted _ _ falsifiedBy _ | .aborting _ falsifiedBy => some falsifiedBy
  | _ => none

def advisoryOf : Payload → Option (List String)
  | .verifierOverridden advisory _ => some advisory
  | _ => none

def tieringOf : Payload → String × String × String
  | .riskTierFinal tier provisional reason _ => (tier.text, provisional.text, reason)
  | _ => ("", "", "")

def failureOf : Payload → String × String
  | .failure error message => (error, message)
  | _ => ("error", "")

def verdictOf : Payload → Int × Bool × String
  | .buildTestVerdict exitCode _ _ _ independentAnchor _ ciDetail =>
      (exitCode, independentAnchor, ciDetail.getD "")
  | _ => (0, false, "")

/-! ## One row -/

/-- `a || b`. -/
def orText (a b : String) : String := if a ≠ "" then a else b

def NodeView.push (view : NodeView) (row : RunEvent) : NodeView :=
  { view with events := view.events ++ [row] }

def fan (view : NodeView) (row : RunEvent) : NodeView :=
  if row.event.kind = "verifiers_started" then { view with state := .running }
  else if row.event.kind = "verifier_overridden" then
    { view with
      state := .advisory
      detail := some (match advisoryOf row.event.payload with
        | some advisory =>
            Text.join ", " advisory ++ " objected — advisory, so it could not block"
        | none => "an advisory verifier objected") }
  else
    match falsifiedOf row.event.payload with
    | some (first :: rest) =>
        { view with
          state := .failed
          detail := some ("falsified by " ++ Text.join ", " (first :: rest)) }
    | _ =>
        if view.state ≠ .failed ∧ view.state ≠ .advisory then { view with state := .ok }
        else view

/-- The gate, once the final tier is known. -/
def tiered (view : NodeView) (row : RunEvent) : NodeView :=
  let (tier, provisional, reason) := tieringOf row.event.payload
  { view with detail := some (
      if tier ≠ "" ∧ provisional ≠ "" ∧ tier ≠ provisional then
        provisional ++ " → " ++ tier ++ ": " ++ reason
      else tier ++ ": " ++ reason) }

def gated (view : NodeView) (row : RunEvent) : NodeView :=
  if row.event.kind = "gate_reached" then { view with state := .running }
  else if row.event.kind = "gate_rejected" then
    { view with state := .failed, detail := some "rejected by an approver" }
  else { view with state := .ok }

/-- A node, after a row that names it; `began` is when it last started. -/
def stepped (began : Option Int) (view : NodeView) (row : RunEvent) : NodeView :=
  let elapsed := match began with
    | some began => some (row.occurredAt - began)
    | none => view.ms
  if row.event.kind = "node_started" then
    { view with attempts := view.attempts + 1, state := .running }
  else if row.event.kind = "node_completed" then
    { view with state := .ok, detail := none, ms := elapsed }
  else if row.event.kind = "node_failed" then
    let (error, message) := failureOf row.event.payload
    { view with
      state := .failed
      detail := some (if message ≠ "" then error ++ " — " ++ message else error)
      ms := elapsed }
  else if row.event.kind = "build_test_verdict" then
    let (exit, anchored, detail) := verdictOf row.event.payload
    if exit ≠ 0 then
      { view with state := .failed, detail := some (orText detail ("tests exited " ++ Text.ofInt exit)) }
    else if ¬ anchored then
      -- Passed, but only the sandbox says so.
      { view with
        state := .advisory
        detail := some (orText detail "sandbox only — no independent anchor") }
    else { view with detail := if detail ≠ "" then some detail else none }
  else view

namespace Derived

/-- Change the view of `id`, which is made if there is none. -/
def paint (derived : Derived) (id : String) (f : NodeView → NodeView) : Derived :=
  { derived with views := derived.views.insert id (f ((derived.views.get? id).getD {})) }

def add (derived : Derived) (row : RunEvent) : Derived :=
  if Text.startsWith "verifier" row.event.kind then
    derived.paint "__verifiers" fun view => fan (view.push row) row
  else if row.event.kind = "risk_tier_final" then
    derived.paint "__gate" fun view => tiered (view.push row) row
  else if Text.startsWith "gate_" row.event.kind then
    derived.paint "__gate" fun view => gated (view.push row) row
  else if row.event.kind = "sandbox_isolation" then
    derived.paint "build_test" fun view => view.push row
  else
    match nonEmpty row.event.nodeId with
    | none => derived
    | some nodeId =>
        let began := derived.startedAt.get? nodeId
        let derived := derived.paint nodeId fun view => stepped began (view.push row) row
        if row.event.kind = "node_started" then
          { derived with startedAt := derived.startedAt.insert nodeId row.occurredAt }
        else derived

end Derived

/-! ## The whole trail -/

/-- A node that was running when the run ended. -/
def interrupt (view : NodeView) : NodeView :=
  if view.state = .running then
    { view with
      state := .interrupted
      detail := some (view.detail.getD
        "started, and the run ended without recording an outcome") }
  else view

/-- The events that begin and end the diagram. -/
def bracket (views : Views) : Views :=
  let views := if views.length > 0 then views.insert "__start" { state := .ok } else views
  if (views.get? "release").map NodeView.state = some .ok then
    views.insert "__end" { state := .ok }
  else views

def derive (events : List RunEvent) (runFinished : Bool) : Views :=
  let views := (events.foldl Derived.add {}).views
  bracket (if runFinished then views.mapValues interrupt else views)

/-! ## The box of the verifiers -/

/-- The state in which `derive` leaves the verifiers; a view it has none of is pending. -/
def verifiersBox (events : List RunEvent) (runFinished : Bool) : NodeState :=
  (((derive events runFinished).get? "__verifiers").getD {}).state

/-- What the fan-out makes of the state of its view. -/
def repaint (state : NodeState) (event : EventRecorded) : NodeState :=
  if Text.startsWith "verifier" event.kind then
    if event.kind = "verifiers_started" then .running
    else if event.kind = "verifier_overridden" then .advisory
    else
      match falsifiedOf event.payload with
      | some (_ :: _) => .failed
      | _ => if state ≠ .failed ∧ state ≠ .advisory then .ok else state
  else state

/-- The state of the verifiers' view, as far as the rows go. -/
def board (events : List EventRecorded) : NodeState := events.foldl repaint .pending

theorem fan_state (view : NodeView) (row : RunEvent)
    (verifying : Text.startsWith "verifier" row.event.kind = true) :
    (fan (view.push row) row).state = repaint view.state row.event := by
  rw [fan, repaint, if_pos verifying]
  split
  · rfl
  · split
    · rfl
    · split
      · rfl
      · exact apply_ite NodeView.state _ _ _

/-- A row of another node leaves the verifiers as they are. -/
theorem paint_other {derived : Derived} {id : String} {f : NodeView → NodeView}
    (other : id ≠ "__verifiers") :
    (derived.paint id f).views.get? "__verifiers" = derived.views.get? "__verifiers" :=
  OrderedDict.get?_insert_of_ne _ _ (Ne.symm other)

theorem add_state {derived : Derived} {row : RunEvent}
    (apart : row.event.nodeId ≠ some "__verifiers") :
    (((derived.add row).views.get? "__verifiers").getD {}).state =
      repaint ((derived.views.get? "__verifiers").getD {}).state row.event := by
  rw [Derived.add]
  by_cases verifying : Text.startsWith "verifier" row.event.kind = true
  · rw [if_pos verifying, Derived.paint, OrderedDict.get?_insert_self]
    exact fan_state _ row verifying
  · rw [if_neg verifying, repaint, if_neg verifying]
    split
    · rw [paint_other (by decide)]
    · split
      · rw [paint_other (by decide)]
      · split
        · rw [paint_other (by decide)]
        · split
          · rfl
          next nodeId found =>
            have other : nodeId ≠ "__verifiers" := by
              rintro rfl
              exact apart (nonEmpty_eq_some.mp found).1
            dsimp only
            split <;> simp only [paint_other other]

theorem foldl_state {rows : List RunEvent} (derived : Derived)
    (apart : ∀ row ∈ rows, row.event.nodeId ≠ some "__verifiers") :
    (((rows.foldl Derived.add derived).views.get? "__verifiers").getD {}).state =
      (rows.map RunEvent.event).foldl repaint
        ((derived.views.get? "__verifiers").getD {}).state := by
  induction rows generalizing derived with
  | nil => rfl
  | cons row rest ih =>
      rw [List.foldl_cons, List.map_cons, List.foldl_cons,
        ih _ fun other mem => apart other (List.mem_cons_of_mem row mem),
        add_state (apart row List.mem_cons_self)]

def settled (runFinished : Bool) (state : NodeState) : NodeState :=
  if runFinished ∧ state = .running then .interrupted else state

theorem interrupt_state (view : NodeView) : (interrupt view).state = settled true view.state := by
  rw [interrupt, settled]
  split <;> simp_all

theorem bracket_get? (views : Views) :
    (bracket views).get? "__verifiers" = views.get? "__verifiers" := by
  have apart : ∀ (views : Views) (id : String), id ≠ "__verifiers" →
      (views.insert id { state := .ok }).get? "__verifiers" = views.get? "__verifiers" :=
    fun views id other => OrderedDict.get?_insert_of_ne _ _ (Ne.symm other)
  have started : (if views.length > 0 then views.insert "__start" { state := .ok }
      else views).get? "__verifiers" = views.get? "__verifiers" := by
    split
    · exact apart _ _ (by decide)
    · rfl
  rw [bracket, ← started]
  generalize (if views.length > 0 then views.insert "__start" { state := .ok } else views) = views
  split
  · exact apart _ _ (by decide)
  · rfl

theorem verifiersBox_eq {rows : List RunEvent} (runFinished : Bool)
    (apart : ∀ row ∈ rows, row.event.nodeId ≠ some "__verifiers") :
    verifiersBox rows runFinished = settled runFinished (board (rows.map RunEvent.event)) := by
  have folded := foldl_state {} apart
  rw [verifiersBox, derive, bracket_get?]
  cases runFinished with
  | false => exact folded
  | true =>
      rw [if_pos rfl, OrderedDict.get?_mapValues]
      cases found : (rows.foldl Derived.add {}).views.get? "__verifiers" with
      | none =>
          rw [found] at folded
          have nothing : board (rows.map RunEvent.event) = .pending := folded.symm
          rw [nothing]
          rfl
      | some view =>
          rw [found] at folded
          have there : board (rows.map RunEvent.event) = view.state := folded.symm
          rw [there]
          exact interrupt_state view

end KuWarden.Ui
