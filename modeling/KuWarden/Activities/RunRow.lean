import KuWarden.Activities.Audit

/-!
The four writers of a run's row, in whatever order their writes land and however often.
-/
namespace KuWarden

namespace AuditStore

/-- The row write of `terminate_run`, guarded on the current status. -/
def terminate (store : AuditStore) (now : Nat) : AuditStore :=
  { store with row := store.row.map fun row =>
      if row.status = "running" ∨ row.status = "suspended"
      then { row with status := "terminated", endedAt := some now } else row }

/-- What the row says of the run's end, if there is a row. -/
def standing (store : AuditStore) : Option (String × Option Nat) :=
  store.row.map fun row => (row.status, row.endedAt)

end AuditStore

def terminalStatuses : List String := ["succeeded", "rejected", "failed", "terminated"]

inductive RowWrite
  | started (run : RunStarted)
  | changed (status : String)
  | ended (status : String) (now : Nat)
  | terminated (now : Nat)

namespace RowWrite

def land (store : AuditStore) : RowWrite → AuditStore
  | .started run => store.recordRunStarted run
  | .changed status => store.recordRunStatus status
  | .ended status now => store.recordRunEnded status now
  | .terminated now => store.terminate now

/-- The store after the writes landed in this order. -/
def landed (store : AuditStore) (writes : List RowWrite) : AuditStore := writes.foldl land store

def Over (store : AuditStore) : Prop :=
  ∃ status endedAt, store.standing = some (status, endedAt) ∧ status ∈ terminalStatuses

/-- Once the row says that the run is over, what it says never changes. -/
def Lasts (store : AuditStore) (writes : List RowWrite) : Prop :=
  ∀ early late, early <+: late → late <+: writes → Over (landed store early) →
    (landed store late).standing = (landed store early).standing

/-- No ending lands on a row that is over and says anything else. -/
def EndsOnce (store : AuditStore) (writes : List RowWrite) : Prop :=
  ∀ early status now, early ++ [.ended status now] <+: writes → Over (landed store early) →
    (landed store early).standing = some (status, some now)

variable {store : AuditStore} {writes early late : List RowWrite}

theorem landed_concat (write : RowWrite) :
    landed store (early ++ [write]) = land (landed store early) write :=
  List.foldl_concat ..

theorem standing_eq_some {status : String} {endedAt : Option Nat} :
    store.standing = some (status, endedAt) ↔
      ∃ row, store.row = some row ∧ row.status = status ∧ row.endedAt = endedAt := by
  unfold AuditStore.standing
  rw [Option.map_eq_some_iff]
  constructor
  · rintro ⟨row, found, same⟩
    cases same
    exact ⟨row, found, rfl, rfl⟩
  · rintro ⟨row, found, rfl, rfl⟩
    exact ⟨row, found, rfl⟩

theorem not_open_of_terminal {status : String} (terminal : status ∈ terminalStatuses) :
    ¬ (status = "running" ∨ status = "suspended") := by
  simp only [terminalStatuses, List.mem_cons, List.not_mem_nil, or_false] at terminal
  rcases terminal with rfl | rfl | rfl | rfl <;> decide

/-- Only an ending writes to a row that is over, and it writes whatever it was given. -/
theorem standing_land (write : RowWrite) (ceased : Over store) :
    (land store write).standing =
      match write with
      | .ended status now => some (status, some now)
      | _ => store.standing := by
  obtain ⟨status, endedAt, stands, terminal⟩ := ceased
  obtain ⟨row, found, rfl, rfl⟩ := standing_eq_some.mp stands
  have guarded := not_open_of_terminal terminal
  cases write with
  | started run => simp [land, AuditStore.recordRunStarted, found]
  | changed status =>
      simp [land, AuditStore.recordRunStatus, AuditStore.standing, found, guarded]
  | ended status now => simp [land, AuditStore.recordRunEnded, AuditStore.standing, found]
  | terminated now => simp [land, AuditStore.terminate, AuditStore.standing, found, guarded]

theorem over_congr {store store' : AuditStore} (same : store'.standing = store.standing)
    (ceased : Over store) : Over store' := by
  obtain ⟨status, endedAt, stands, terminal⟩ := ceased
  exact ⟨status, endedAt, same.trans stands, terminal⟩

/-- The run lemma: what was said stays said, as long as endings repeat it. -/
theorem standing_of_endsOnce (once : EndsOnce store writes) (more : List RowWrite)
    (within : early ++ more <+: writes) (ceased : Over (landed store early)) :
    (landed store (early ++ more)).standing = (landed store early).standing := by
  induction more using List.reverseRecOn with
  | nil => rw [List.append_nil]
  | append_singleton more write ih =>
      rw [← List.append_assoc] at within ⊢
      have stood := ih ((List.prefix_append _ _).trans within)
      have still := over_congr stood ceased
      rw [landed_concat, standing_land write still]
      cases write with
      | ended status now => exact (once _ status now within still).symm.trans stood
      | _ => exact stood

/-- A row that is over stays as it is unless `record_run_ended`, which has no guard, lands
on it. -/
theorem lasts_iff_endsOnce (store : AuditStore) (writes : List RowWrite) :
    Lasts store writes ↔ EndsOnce store writes := by
  constructor
  · intro lasts early status now within ceased
    have stood := lasts early _ (List.prefix_append early _) within ceased
    rw [landed_concat, standing_land _ ceased] at stood
    exact stood.symm
  · intro once early late grown within ceased
    obtain ⟨more, rfl⟩ := grown
    exact standing_of_endsOnce once more within ceased

def shopRun : RunStarted where
  rootRunId := ⟨1⟩
  parentRunId := none
  appId := ⟨2⟩
  ticketSystem := "jira"
  ticketId := "SHOP-1"
  riskTier := .low
  schemaVersion := 1
  policyCommit := "90"
  policyBundle := []

/-- An operator stops the run while its ending is in flight. -/
def overtaken : List RowWrite := [.started shopRun, .terminated 5, .ended "succeeded" 9]

theorem termination_overwritten : ¬ Lasts {} overtaken := by
  intro lasts
  have ceased : Over (landed {} (overtaken.take 2)) :=
    ⟨"terminated", some 5, rfl, by decide⟩
  have stood := lasts _ _ (List.take_prefix 2 overtaken) List.prefix_rfl ceased
  exact absurd stood (by decide)

end RowWrite
end KuWarden
