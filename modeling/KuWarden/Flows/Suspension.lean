import KuWarden.Flows.Counting
import KuWarden.Flows.Numbering
import KuWarden.Process.Positions

/-!
What the row of a run gives away. A row that says `suspended` was written by a run that has
its gate on record; a signal that finds the run still suspended is counted.
-/
namespace KuWarden.Flow

open Process RowWrite

variable {W Lbl : Type} {adapters : Adapters W Lbl} {worker : Worker} {params : FlowInput}
  {a : W} {c : FlowConfig W}

/-- Where a row's status comes from: its beginning, a call of the flow, or its end. -/
def Sourced (w : FlowWorld W) (h : FlowHistory) : Prop :=
  ∀ row, w.store.row = some row → row.status = "running" ∨
    .call (.recordRunStatus row.status) ∈ h ∨ row.status ∈ endings h

theorem Sourced.grows {w w' : FlowWorld W} {h : FlowHistory}
    {l : Label FlowOp FlowRep FlowMove} (sourced : Sourced w h)
    (same : w'.store.row = w.store.row) : Sourced w' (h ++ [l]) := by
  intro row found
  rcases sourced row (same ▸ found) with begun | called | ended
  · exact .inl begun
  · exact .inr (.inl (List.mem_append_left _ called))
  · refine .inr (.inr ?_)
    rw [endings_append]
    exact List.mem_append_left _ ended

theorem Sourced.launched {p : Proc DeliveryFlow FlowOp FlowRep (Except FlowExc FlowResult)}
    {w : FlowWorld W} {h : FlowHistory} (sourced : Sourced w h) :
    Sourced (Config.launch p w h).world (Config.launch p w h).history := by
  cases p with
  | done s r => exact sourced
  | await s op k => exact sourced.grows rfl

/-- What an answer does to the row, the flow has called for. -/
theorem Sourced.served {s s' : DeliveryFlow} {w w' : FlowWorld W} {h : FlowHistory}
    {op : FlowOp} {r : FlowRep op} (sourced : Sourced w h) (called : .call op ∈ h)
    (served : (system adapters worker).serve s w op r s' w') :
    Sourced w' (h ++ [.reply op r]) := by
  cases served with
  | recordEvent => exact sourced.grows record_event_row
  | recordRunStarted =>
      cases found : w.store.row with
      | some row => exact sourced.grows (by simp [AuditStore.recordRunStarted, found])
      | none =>
          intro row begun
          simp only [AuditStore.recordRunStarted, found, Option.some.injEq] at begun
          subst begun
          exact .inl rfl
  | recordRunStatus =>
      intro row changed
      simp only [AuditStore.recordRunStatus, Option.map_eq_some_iff] at changed
      obtain ⟨old, found, rfl⟩ := changed
      split
      · exact .inr (.inl (List.mem_append_left _ called))
      · exact sourced.grows rfl old found
  | recordRunEnded now =>
      intro row ended
      simp only [AuditStore.recordRunEnded, Option.map_eq_some_iff] at ended
      obtain ⟨old, found, rfl⟩ := ended
      refine .inr (.inr ?_)
      rw [endings_append]
      exact List.mem_append_right _ List.mem_cons_self
  | _ => exact sourced.grows rfl

theorem sourced_of_runs (run : Runs adapters worker params a c) : Sourced c.world c.history := by
  have start : Sourced (⟨a, {}, .empty⟩ : FlowWorld W) [] := fun row absurd => by cases absurd
  induction run with
  | refl => exact start.launched
  | @tail c₁ c₂ first step ih =>
      cases step with
      | env op k h move =>
          have ledger := ledger_of_runs first
          have same := ledger.staffed.moves move
          cases same with
          | noted => exact ih.grows record_event_row
          | _ => exact ih.grows rfl
      | reply op k h r served =>
          obtain ⟨more, grown, called⟩ := System.Reaches.called first ⟨_, k, rfl⟩
          have asked : .call op ∈ h := by
            rw [show h = [] ++ more from grown]
            exact called
          exact (ih.served asked served).launched

theorem endsRun_of_ending {h : FlowHistory} {status : String} (mem : status ∈ endings h) :
    ∃ r, .reply (.recordRunEnded status) r ∈ h := by
  obtain ⟨l, listed, found⟩ := List.mem_filterMap.mp mem
  unfold endOf at found
  split at found
  next status' r => cases found; exact ⟨r, listed⟩
  next => cases found

theorem unended_of_awaits {op : FlowOp} (run : Runs adapters worker params a c)
    (awaits : c.Awaits op) : endings c.history = [] := by
  obtain ⟨s, k, at_⟩ := awaits
  have none := wp_sound ((run_ends params).wp (S := system adapters worker) (s := {})
    (w := ⟨a, {}, .empty⟩) (h := []) fun _ _ mem => absurd mem List.not_mem_nil) run
  rw [at_] at none
  refine List.eq_nil_iff_forall_not_mem.mpr fun status mem => ?_
  obtain ⟨r, listed⟩ := endsRun_of_ending mem
  exact none _ r listed trivial

theorem terminal_of_ending (run : Runs adapters worker params a c) {status : String}
    (mem : status ∈ endings c.history) : status ∈ terminalStatuses := by
  cases at_ : c.proc with
  | await s op k =>
      rw [unended_of_awaits run ⟨s, k, at_⟩] at mem
      cases mem
  | done s r =>
      rcases run_decided run at_ with ⟨closed, -⟩ | ⟨none, -⟩
      · obtain ⟨known, terminal, only⟩ := closed.status
        rw [only] at mem
        rw [List.mem_singleton.mp mem]
        exact terminal
      · rw [none] at mem
        cases mem

/-- A row that says `suspended` was written by the run. -/
theorem suspended_of_row (run : Runs adapters worker params a c) {row : RunRow}
    (found : c.world.store.row = some row) (suspended : row.status = "suspended") :
    .call (.recordRunStatus "suspended") ∈ c.history := by
  rcases sourced_of_runs run row found with begun | called | ended
  · rw [suspended] at begun
    exact absurd begun (by decide)
  · rwa [suspended] at called
  · have terminal := terminal_of_ending run ended
    rw [suspended] at terminal
    exact absurd terminal (by decide)

theorem Reached.grows {h h' : FlowHistory} (reached : Reached h) (grown : h <+: h') :
    Reached h' := by
  obtain ⟨late, rfl⟩ := grown
  induction late using List.reverseRecOn with
  | nil => rwa [List.append_nil]
  | append_singleton late l ih =>
      rw [← List.append_assoc]
      cases l with
      | call op => exact (steady_reached fun _ => True).called trivial ih
      | reply op r => exact (steady_reached fun _ => True).other (by simp) ih
      | env move => exact (steady_reached fun _ => True).other (by simp) ih

/-- By the time the run is suspended, its gate is on record. -/
theorem reached_of_suspended (run : Runs adapters worker params a c)
    (called : .call (.recordRunStatus "suspended") ∈ c.history) : Reached c.history := by
  obtain ⟨before, after, split⟩ := List.append_of_mem called
  have fits := met_of_runs run before _ after split
  rw [split]
  exact (fits.suspends trivial).1.grows (List.prefix_append _ _)

/-- Of two places in a list, one comes first. -/
theorem mem_of_splits {α : Type} {x y : α} {xs before early after late : List α}
    (split : xs = before ++ x :: after) (split' : xs = early ++ y :: late) (ne : x ≠ y) :
    x ∈ early ∨ y ∈ before := by
  have one : before ++ [x] <+: xs := ⟨after, by simp [split]⟩
  have other : early ++ [y] <+: xs := ⟨late, by simp [split']⟩
  rcases List.prefix_or_prefix_of_prefix one other with within | within
  · rcases List.prefix_concat_iff.mp within with same | within
    · exact absurd (List.append_inj' same rfl).2 (by simpa using ne)
    · exact .inl (within.subset (by simp))
  · rcases List.prefix_concat_iff.mp within with same | within
    · exact absurd (List.append_inj' same rfl).2 (by simpa using ne.symm)
    · exact .inr (within.subset (by simp))

theorem Unnotified.grows {h h' : FlowHistory} (unnotified : Unnotified h) (grown : h <+: h') :
    Unnotified h' := by
  obtain ⟨notice, e, mem⟩ := unnotified
  exact ⟨notice, e, grown.subset mem⟩

theorem mem_arrived {h : FlowHistory} {a : ApprovalSignal} (mem : .env (.signal a) ∈ h) :
    a ∈ arrived h :=
  List.mem_filterMap.mpr ⟨_, mem, rfl⟩

/-- A signal that finds the run suspended and not yet running again is among the approvals on
every state that Release or Compensate is called with, and no run that it rejects comes to
Release. -/
theorem counted_of_waiting (run : Runs adapters worker params a c)
    (notified : ¬ Unnotified c.history) {past later : FlowHistory} {signal : ApprovalSignal}
    (arrives : c.history = past ++ .env (.signal signal) :: later)
    (asked : .call (.recordRunStatus "suspended") ∈ c.history)
    (waiting : .reply (.recordRunStatus "running") () ∉ past)
    {before rest : FlowHistory} {nodeId activityId : String} {state : FlowState}
    (called : c.history = before ++ .call (.runNode nodeId activityId state) :: rest)
    (heir : nodeId ∈ heirs) : approvalOf state.riskTier signal ∈ state.approvals ∧
      (nodeId = "release" → signal.approved = true) := by
  have met := met_of_runs run
  have fits := met before _ rest called
  have asked_first : ¬ Unasked before := by
    intro unasked
    obtain ⟨early, late, split⟩ := List.append_of_mem asked
    rcases mem_of_splits split called (by simp) with first | first
    · exact unasked _ first trivial
    · exact ((met early _ late split).suspends trivial).2 _ first heir
  have listed : Stored before state → approvalOf state.riskTier signal ∈ state.approvals := by
    rintro ⟨early, late, split, approvals⟩
    rw [split, List.append_assoc, List.cons_append] at called
    rw [approvals]
    refine List.mem_map_of_mem (mem_arrived ?_)
    rcases mem_of_splits arrives called (by simp) with first | first
    · exact first
    · exact absurd first waiting
  simp only [heirs, List.mem_cons, List.not_mem_nil, or_false] at heir
  rcases heir with rfl | rfl
  · obtain ⟨stored, approved⟩ := (fits.release _ _ rfl).resolve_left asked_first
    exact ⟨listed stored, fun _ => approved _ (listed stored)⟩
  · have grown : before <+: c.history := by
      rw [called]
      exact List.prefix_append _ _
    rcases (fits.compensate _ _ rfl).resolve_left asked_first with unnotified | stored
    · exact absurd (unnotified.grows grown) notified
    · exact ⟨listed stored, fun absurd => by simp at absurd⟩

end KuWarden.Flow
