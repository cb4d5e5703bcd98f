import KuWarden.Flows.System
import KuWarden.Process.Histories
import KuWarden.Process.Triples

/-!
What the main line of a flow leaves in its history: the nodes that ran, and the events
that decide whether the change may be released.
-/
namespace KuWarden.Flow

open Process

/-- A node that ran, the state it was given and the state it returned. -/
structure Execution where
  nodeId : String
  given : FlowState
  returned : FlowState

def executionOf {L : Type} : Label FlowOp FlowRep L → Option Execution
  | .reply (.runNode nodeId _ state) reply =>
      match (show Except PyError FlowState from reply) with
      | .ok result => some ⟨nodeId, state, result⟩
      | .error _ => none
  | _ => none

/-- An execution of the main line, or of a verifier beside it. -/
def executed : Label FlowOp FlowRep FlowMove → Option Execution
  | .env (.verifier _ l) => executionOf l
  | l => executionOf l

def executions (h : FlowHistory) : List Execution := h.filterMap executed

def milestoneKinds : List String :=
  ["build_test_verdict", "risk_tier_final", "gate_reached", "gate_passed", "gate_rejected"]

def milestoneOf (kind : String) (payload : Payload) : List (String × Payload) :=
  if milestoneKinds.contains kind then [(kind, payload)] else []

def milestone : Label FlowOp FlowRep FlowMove → List (String × Payload)
  | .reply (.recordEvent event) _ => milestoneOf event.kind event.payload
  | _ => []

/-- The milestones the main line recorded. -/
def milestones (h : FlowHistory) : List (String × Payload) := h.flatMap milestone

def recordOf (kind : String) : Label FlowOp FlowRep FlowMove → List Payload
  | .reply (.recordEvent event) _ => if event.kind = kind then [event.payload] else []
  | _ => []

/-- What the main line recorded as events of this kind. -/
def recorded (kind : String) (h : FlowHistory) : List Payload := h.flatMap (recordOf kind)

theorem recorded_concat {kind : String} {h : FlowHistory}
    {l : Label FlowOp FlowRep FlowMove} :
    recorded kind (h ++ [l]) = recorded kind h ++ recordOf kind l := by
  simp [recorded]

@[simp] theorem executions_append (h h' : FlowHistory) :
    executions (h ++ h') = executions h ++ executions h' := List.filterMap_append

@[simp] theorem milestones_append (h h' : FlowHistory) :
    milestones (h ++ h') = milestones h ++ milestones h' := List.flatMap_append

theorem executions_singleton (l : Label FlowOp FlowRep FlowMove) :
    executions [l] = (executed l).toList := by
  unfold executions
  cases found : executed l with
  | none => exact List.filterMap_cons_none found
  | some x => exact List.filterMap_cons_some found

theorem milestones_singleton (l : Label FlowOp FlowRep FlowMove) :
    milestones [l] = milestone l := List.flatMap_singleton ..

def Quiet (pool : VerifierPool) : Prop := ∀ entry ∈ pool.slots, ∃ r, entry.2 = .finished r

theorem quiet_empty : Quiet (.empty : VerifierPool) := by
  intro entry mem
  cases mem

variable {W Lbl : Type} {adapters : Adapters W Lbl} {worker : Worker}

/-- Only signals arrive while no verifier runs. -/
theorem moves_of_quiet {s s' : DeliveryFlow} {w w' : FlowWorld W} {l : FlowMove}
    (quiet : Quiet w.pool) (moved : (system adapters worker).env s w l s' w') :
    ∃ a, l = .signal a ∧ s' = { s with approvals := s.approvals ++ [a] } ∧ w' = w := by
  cases moved with
  | signal a => exact ⟨a, rfl, rfl, rfl⟩
  | verifier moved =>
      cases moved with
      | answer found _ =>
          obtain ⟨r, finished⟩ := quiet _ (List.mem_of_getElem? found)
          cases finished

theorem drift_of_quiet {s s' : DeliveryFlow} {w w' : FlowWorld W} {h h' : FlowHistory}
    (quiet : Quiet w.pool) (drift : (system adapters worker).Drift s w h s' w' h') :
    ∃ signals, s' = { s with approvals := s.approvals ++ signals } ∧ w' = w ∧
      h' = h ++ signals.map fun a => .env (.signal a) := by
  induction drift with
  | refl => exact ⟨[], by simp⟩
  | step _ last ih =>
      obtain ⟨signals, rfl, rfl, rfl⟩ := ih
      obtain ⟨a, rfl, rfl, rfl⟩ := moves_of_quiet quiet last
      exact ⟨signals ++ [a], by simp⟩

theorem executions_signals (signals : List ApprovalSignal) :
    executions (signals.map fun a => .env (.signal a)) = [] := by
  induction signals with
  | nil => rfl
  | cons a rest ih => exact ih

theorem milestones_signals (signals : List ApprovalSignal) :
    milestones (signals.map fun a => .env (.signal a)) = [] := by
  induction signals with
  | nil => rfl
  | cons a rest ih => exact ih

/-- An answer to the main line leaves the flow as it is and the verifiers alone, unless
it starts them. -/
theorem serves_calm {s s' : DeliveryFlow} {w w' : FlowWorld W} {op : FlowOp}
    {r : FlowRep op} (served : (system adapters worker).serve s w op r s' w')
    (other : ∀ brief, op ≠ .startVerifiers brief) : s' = s ∧ w'.pool = w.pool := by
  cases served with
  | startVerifiers => exact absurd rfl (other _)
  | _ => exact ⟨rfl, rfl⟩

/-! ## What a stretch of the main line leaves -/

/-- From here to there the main line recorded `ms` and saw the executions `ran`. -/
structure Advance (s : DeliveryFlow) (h : FlowHistory) (ms : List (String × Payload))
    (ran : List Execution) (s' : DeliveryFlow) (w' : FlowWorld W) (h' : FlowHistory) :
    Prop where
  quiet : Quiet w'.pool
  signals : s.approvals <+: s'.approvals
  milestones : milestones h' = milestones h ++ ms
  executions : executions h' = executions h ++ ran

theorem Advance.trans {s s' s'' : DeliveryFlow} {w' w'' : FlowWorld W}
    {h h' h'' : FlowHistory} {ms ms' : List (String × Payload)} {ran ran' : List Execution}
    (first : Advance s h ms ran s' w' h') (rest : Advance s' h' ms' ran' s'' w'' h'') :
    Advance s h (ms ++ ms') (ran ++ ran') s'' w'' h'' where
  quiet := rest.quiet
  signals := first.signals.trans rest.signals
  milestones := by rw [rest.milestones, first.milestones, List.append_assoc]
  executions := by rw [rest.executions, first.executions, List.append_assoc]

variable (adapters worker) in
/-- While no verifier runs, a return of `t` leaves milestones and executions that satisfy
`Q`. -/
def Onward {α : Type} (t : Flow α)
    (Q : α → List (String × Payload) → List Execution → Prop) : Prop :=
  ∀ s w h, Quiet w.pool →
    t.ensures (system adapters worker)
      (fun a s' w' h' => ∃ ms ran, Q a ms ran ∧ Advance s h ms ran s' w' h') s w h

namespace Onward

variable {α β : Type} {t : Flow α} {f : α → Flow β}
  {P Q : α → List (String × Payload) → List Execution → Prop}
  {R : β → List (String × Payload) → List Execution → Prop}

theorem mono (ht : Onward adapters worker t P) (hQ : ∀ a ms ran, P a ms ran → Q a ms ran) :
    Onward adapters worker t Q := by
  intro s w h quiet
  refine Task.ensures_mono (ht s w h quiet) ?_
  rintro a s' w' h' ⟨ms, ran, held, advance⟩
  exact ⟨ms, ran, hQ a ms ran held, advance⟩

theorem pure {a : α} (held : Q a [] []) :
    Onward adapters worker (Pure.pure a : Flow α) Q := by
  intro s w h quiet
  exact Task.ensures_pure ⟨[], [], held, quiet, List.prefix_rfl, by simp, by simp⟩

theorem raise {e : FlowExc} : Onward adapters worker (Task.raise e : Flow α) Q :=
  fun _ _ _ _ => Task.ensures_raise

theorem bind (ht : Onward adapters worker t P)
    (hf : ∀ a ms ran, P a ms ran →
      Onward adapters worker (f a) fun b ms' ran' => R b (ms ++ ms') (ran ++ ran')) :
    Onward adapters worker (t >>= f) R := by
  intro s w h quiet
  refine Task.ensures_bind (ht s w h quiet) ?_
  rintro a s' w' h' ⟨ms, ran, held, advance⟩
  refine Task.ensures_mono (hf a ms ran held s' w' h' advance.quiet) ?_
  rintro b s'' w'' h'' ⟨ms', ran', held', advance'⟩
  exact ⟨ms ++ ms', ran ++ ran', held', advance.trans advance'⟩

theorem raise_bind {e : FlowExc} :
    Onward adapters worker (Task.raise e >>= f) R := raise

theorem read {f : DeliveryFlow → Flow β} (hf : ∀ flow, Onward adapters worker (f flow) R) :
    Onward adapters worker (Task.read >>= f) R :=
  fun s w h quiet => Task.ensures_read_bind.mpr (hf s s w h quiet)

theorem update {f : DeliveryFlow → DeliveryFlow} {t : Unit → Flow β}
    (same : ∀ s, (f s).approvals = s.approvals) (ht : Onward adapters worker (t ()) R) :
    Onward adapters worker (Task.update f >>= t) R := by
  intro s w h quiet
  refine Task.ensures_update_bind.mpr (Task.ensures_mono (ht (f s) w h quiet) ?_)
  rintro b s' w' h' ⟨ms, ran, held, advance⟩
  exact ⟨ms, ran, held, advance.quiet, same s ▸ advance.signals, advance.milestones,
    advance.executions⟩

/-- What an answer leaves, whatever it is. -/
theorem call {op : FlowOp} {Q : FlowRep op → List (String × Payload) → List Execution → Prop}
    (other : ∀ brief, op ≠ .startVerifiers brief)
    (held : ∀ r, Q r (milestone (.reply op r)) (executed (.reply op r)).toList) :
    Onward adapters worker (Task.call op : Flow (FlowRep op)) Q := by
  intro s w h quiet
  refine Task.ensures_call ?_
  intro s' w' h' r s'' w'' drift served
  obtain ⟨signals, rfl, rfl, rfl⟩ := drift_of_quiet quiet drift
  obtain ⟨rfl, pool⟩ := serves_calm served other
  refine ⟨_, _, held r, pool ▸ quiet, List.prefix_append _ _, ?_, ?_⟩
  · have called : milestone (.call op) = [] := rfl
    simp only [milestones_append, milestones_signals, milestones_singleton, called,
      List.append_nil]
  · have called : executed (.call op) = none := rfl
    simp only [executions_append, executions_signals, executions_singleton, called,
      Option.toList_none, List.append_nil]

end Onward

end KuWarden.Flow
