import KuWarden.Activities.Audit

/-!
The index of the files a run changed, over the pushes of the run.

A push writes a row for each of its files and deletes none, so a row stays from every push
that named its file.
-/
namespace KuWarden.AuditStore

/-- What one execution of the activity is given. -/
structure RunFiles where
  attempt : Nat
  files : List FileChange
  deriving DecidableEq

def record (store : AuditStore) (run : RunFiles) : AuditStore :=
  store.recordRunFiles run.attempt run.files

/-- The row a push reports for a path: that of its last entry, should it have more. -/
def reported (run : RunFiles) (path : String) : Option RunFile :=
  (run.files.reverse.find? fun f => f.path = path).map fun f =>
    ⟨f.path, f.added, f.removed, run.attempt⟩

/-- The rows are the paths, the counts and the attempt of this push, and no others. -/
def Lists (rows : List RunFile) (run : RunFiles) : Prop :=
  ∀ row, row ∈ rows ↔ reported run row.path = some row

def rowOf (rows : List RunFile) (path : String) : Option RunFile :=
  rows.find? fun f => f.path = path

variable {rows : List RunFile} {file : RunFile} {run : RunFiles} {path : String}

theorem rowOf_upsertFile (rows : List RunFile) (file : RunFile) (path : String) :
    rowOf (upsertFile rows file) path =
      if file.path = path then some file else rowOf rows path := by
  unfold upsertFile
  split
  next known =>
    have renamed : ∀ f : RunFile, (if f.path = file.path then file else f).path = f.path := by
      intro f
      split
      next same => exact same.symm
      next => rfl
    unfold rowOf
    rw [List.find?_map]
    have same : ((fun f : RunFile => decide (f.path = path)) ∘
        fun f => if f.path = file.path then file else f) = fun f => decide (f.path = path) := by
      funext f
      simp only [Function.comp, renamed]
    rw [same]
    cases found : rows.find? fun f => decide (f.path = path) with
    | some f =>
        have at_path : f.path = path := by simpa using List.find?_some found
        by_cases here : file.path = path
        · simp [here, at_path]
        · have other : f.path ≠ file.path := fun same => here (same ▸ at_path)
          simp [here, other]
    | none =>
        by_cases here : file.path = path
        · obtain ⟨f, mem, same⟩ := List.any_eq_true.mp known
          have missing := List.find?_eq_none.mp found f mem
          exact absurd (by simpa [here] using same) missing
        · simp [here]
  next unknown =>
    unfold rowOf
    rw [List.find?_append]
    by_cases here : file.path = path
    · have missing : rows.find? (fun f => decide (f.path = path)) = none := by
        refine List.find?_eq_none.mpr fun f mem same => unknown ?_
        exact List.any_eq_true.mpr ⟨f, mem, by simpa [here] using same⟩
      simp [here, missing]
    · simp [here]

theorem distinct_upsertFile (distinct : (rows.map RunFile.path).Nodup) (file : RunFile) :
    ((upsertFile rows file).map RunFile.path).Nodup := by
  unfold upsertFile
  split
  · rw [List.map_map]
    have same : (RunFile.path ∘ fun f : RunFile => if f.path = file.path then file else f) =
        RunFile.path := by
      funext f
      simp only [Function.comp]
      split
      next same => exact same.symm
      next => rfl
    rw [same]
    exact distinct
  next unknown =>
    rw [List.map_append]
    refine distinct.append (List.nodup_singleton _) ?_
    simpa [List.disjoint_singleton] using unknown

theorem mem_iff_rowOf (distinct : (rows.map RunFile.path).Nodup) (row : RunFile) :
    row ∈ rows ↔ rowOf rows row.path = some row := by
  constructor
  · intro mem
    cases found : rowOf rows row.path with
    | none => exact absurd (List.find?_eq_none.mp found row mem) (by simp)
    | some other =>
        have at_path : other.path = row.path := by simpa using List.find?_some found
        rw [List.inj_on_of_nodup_map distinct (List.mem_of_find?_eq_some found) mem at_path]
  · exact List.mem_of_find?_eq_some

/-! ## One push -/

theorem rowOf_record (store : AuditStore) (run : RunFiles) (path : String) :
    rowOf (store.record run).files path = (reported run path).or (rowOf store.files path) := by
  obtain ⟨attempt, files⟩ := run
  simp only [record, recordRunFiles, reported]
  induction files using List.reverseRecOn with
  | nil => rfl
  | append_singleton files f ih =>
      rw [List.foldl_append, List.foldl_cons, List.foldl_nil, rowOf_upsertFile, ih]
      by_cases here : f.path = path
      · simp [here]
      · simp [here]

theorem distinct_record {store : AuditStore} (distinct : (store.files.map RunFile.path).Nodup)
    (run : RunFiles) : ((store.record run).files.map RunFile.path).Nodup := by
  obtain ⟨attempt, files⟩ := run
  simp only [record, recordRunFiles]
  induction files using List.reverseRecOn with
  | nil => exact distinct
  | append_singleton files f ih =>
      rw [List.foldl_append]
      exact distinct_upsertFile ih _

theorem reported_isSome (run : RunFiles) (path : String) :
    (reported run path).isSome ↔ path ∈ run.files.map FileChange.path := by
  simp [reported, List.find?_isSome]

/-! ## The pushes of a run -/

theorem distinct_pushes (pushes : List RunFiles) :
    ((pushes.foldl record {}).files.map RunFile.path).Nodup := by
  induction pushes using List.reverseRecOn with
  | nil => exact List.nodup_nil
  | append_singleton pushes push ih =>
      rw [List.foldl_append]
      exact distinct_record ih push

/-- A row stays from every push that named its path. -/
theorem rowOf_pushes (pushes : List RunFiles) (path : String) :
    (rowOf (pushes.foldl record {}).files path).isSome ↔
      ∃ push ∈ pushes, path ∈ push.files.map FileChange.path := by
  induction pushes using List.reverseRecOn with
  | nil => simp [rowOf]
  | append_singleton pushes push ih =>
      rw [List.foldl_append, List.foldl_cons, List.foldl_nil, rowOf_record, Option.isSome_or,
        Bool.or_eq_true, reported_isSome, ih]
      simp only [List.mem_append, List.mem_singleton, or_and_right, exists_or,
        exists_eq_left]
      exact or_comm

theorem rowOf_repeated (store : AuditStore) (run : RunFiles) (n : Nat) (path : String) :
    rowOf ((List.replicate (n + 1) run).foldl record store).files path =
      (reported run path).or (rowOf store.files path) := by
  induction n with
  | zero => exact rowOf_record store run path
  | succ n ih =>
      rw [List.replicate_succ', List.foldl_append, List.foldl_cons, List.foldl_nil, rowOf_record,
        ih]
      cases reported run path <;> rfl

/-- After its last push, recorded any number of times, the rows of a run are those of that push
exactly if it changed every file that an earlier push had changed. -/
theorem lists_last_iff (earlier : List RunFiles) (last : RunFiles) (n : Nat) :
    Lists ((earlier ++ List.replicate (n + 1) last).foldl record {}).files last ↔
      ∀ push ∈ earlier, ∀ f ∈ push.files, f.path ∈ last.files.map FileChange.path := by
  have rows := distinct_pushes (earlier ++ List.replicate (n + 1) last)
  have row : ∀ path, rowOf ((earlier ++ List.replicate (n + 1) last).foldl record {}).files path =
      (reported last path).or (rowOf (earlier.foldl record {}).files path) := by
    intro path
    rw [List.foldl_append]
    exact rowOf_repeated _ last n path
  constructor
  · intro lists push mem f changed
    have there : (rowOf (earlier.foldl record {}).files f.path).isSome :=
      (rowOf_pushes earlier f.path).mpr ⟨push, mem, List.mem_map_of_mem changed⟩
    refine (reported_isSome last f.path).mp ?_
    by_contra missing
    obtain ⟨old, stays⟩ := Option.isSome_iff_exists.mp there
    have gone : reported last f.path = none := by simpa using missing
    have at_path : old.path = f.path := by simpa using List.find?_some stays
    have listed := (mem_iff_rowOf rows old).mpr (by rw [row, at_path, gone, stays]; rfl)
    have told := (lists old).mp listed
    rw [at_path, gone] at told
    cases told
  · intro covered file
    rw [mem_iff_rowOf rows, row]
    cases told : reported last file.path with
    | some f => rfl
    | none =>
        cases stays : rowOf (earlier.foldl record {}).files file.path with
        | none => rfl
        | some old =>
            obtain ⟨push, mem, changed⟩ :=
              (rowOf_pushes earlier file.path).mp (by rw [stays]; rfl)
            obtain ⟨f, changed, same⟩ := List.mem_map.mp changed
            have known := covered push mem f changed
            rw [same] at known
            have reports := (reported_isSome last file.path).mpr known
            rw [told] at reports
            cases reports

/-- A first push changes two files, and the second only one of them. -/
def narrowed : List RunFiles := [
  ⟨0, [⟨"app.py", 3, 1⟩, ⟨"util.py", 2, 0⟩]⟩,
  ⟨1, [⟨"app.py", 4, 1⟩]⟩]

theorem dropped_file_listed : ¬ Lists (narrowed.foldl record {}).files ⟨1, [⟨"app.py", 4, 1⟩]⟩ := by
  intro lists
  have listed : (⟨"util.py", 2, 0, 0⟩ : RunFile) ∈ (narrowed.foldl record {}).files := by decide
  have told := (lists _).mp listed
  revert told
  decide

end KuWarden.AuditStore
