import KuWarden.Process.Interleaving
import Mathlib.Data.List.Sort
import Mathlib.Data.String.Basic

/-!
The migrations of the database, applied by any number of runners at once.

A runner holds nothing between the names it reads and the scripts it applies. A script and the row
that names it are one transaction: it is run on the schema as it stands, and takes effect when the
row goes in, which the key of the table allows once. How a script changes the schema is a
parameter. A runner that crashes takes no further turn.
-/
namespace KuWarden.Db

open Process

/-- A file of `MIGRATIONS`. -/
structure Script where
  name : String
  text : String
  deriving DecidableEq

variable {S : Type}

/-- The schema, and the names in `schema_migrations`, in the order in which they were committed.
`none` before the table is created. -/
structure Database (S : Type) where
  schema : S
  names : Option (List String)

def Database.applied (db : Database S) : List String := db.names.getD []

/-- Where a runner stands. `applied` is what it is to return. -/
inductive Stage (S : Type)
  | creating
  | reading
  | looping (done : List String) (rest : List Script)
  /-- In the transaction of a script, which has been run; its name is to be inserted. -/
  | inserting (done : List String) (script : Script) (rest : List Script) (changed : S)
  | returned
  | raised

structure Runner (S : Type) where
  /-- `MIGRATIONS.glob("*.sql")`, in no particular order. -/
  files : List Script
  stage : Stage S := .creating
  applied : List String := []

/-- `sorted(…)`. -/
def Runner.scripts (runner : Runner S) : List Script :=
  runner.files.insertionSort fun p q => p.name ≤ q.name

variable (run : String → S → Option S)

/-- `migrate`, from one statement to the next. -/
def migrate (db : Database S) (runner : Runner S) : Database S × Runner S :=
  match runner.stage with
  | .creating => ({ db with names := some db.applied }, { runner with stage := .reading })
  | .reading => (db, { runner with stage := .looping db.applied runner.scripts })
  | .looping _ [] => (db, { runner with stage := .returned })
  | .looping done (path :: rest) =>
      if path.name ∈ done then (db, { runner with stage := .looping done rest })
      else
        match run path.text db.schema with
        | none => (db, { runner with stage := .raised })
        | some changed => (db, { runner with stage := .inserting done path rest changed })
  | .inserting done path rest changed =>
      if path.name ∈ db.applied then (db, { runner with stage := .raised })
      else (⟨changed, some (db.applied ++ [path.name])⟩,
        { runner with stage := .looping done rest, applied := runner.applied ++ [path.name] })
  | .returned | .raised => (db, runner)

/-! ## What every statement keeps -/

/-- The schema after the first `count` of these scripts, each run once and in this order. -/
def built (all : List Script) (count : Nat) (start : S) : Option S :=
  (all.take count).foldlM (fun schema script => run script.text schema) start

/-- The names of the first scripts are committed, and the schema is what these scripts make. -/
structure Sound (all : List Script) (start : S) (db : Database S) : Prop where
  names : db.applied = (all.take db.applied.length).map Script.name
  schema : built run all db.applied.length start = some db.schema

/-- What a runner has made sure of. -/
def Sure (all : List Script) (db : Database S) (runner : Runner S) : Prop :=
  runner.scripts <+: all ∧
  match runner.stage with
  | .looping done rest => ∃ past, runner.scripts = past ++ rest ∧ past.length ≤ db.applied.length ∧
      ∀ name ∈ done, name ∈ db.applied
  | .inserting done script rest changed => ∃ past, runner.scripts = past ++ script :: rest ∧
      past.length ≤ db.applied.length ∧ (∀ name ∈ done, name ∈ db.applied) ∧
      (db.applied.length = past.length → run script.text db.schema = some changed)
  | .returned => runner.scripts.length ≤ db.applied.length
  | _ => True

section
variable {run : String → S → Option S} {all past rest : List Script} {script : Script}
  {start : S} {db db' : Database S} {runner other : Runner S}

theorem migrate_adds (run : String → S → Option S) (db : Database S) (runner : Runner S) : ∃ new,
    (migrate run db runner).1.applied = db.applied ++ new ∧
      (migrate run db runner).2.applied = runner.applied ++ new ∧
      (new = [] → (migrate run db runner).1.schema = db.schema) := by
  obtain ⟨files, stage, applied⟩ := runner
  have still : ∃ new, db.applied = db.applied ++ new ∧ applied = applied ++ new ∧
      (new = [] → db.schema = db.schema) :=
    ⟨[], (List.append_nil _).symm, (List.append_nil _).symm, fun _ => rfl⟩
  cases stage with
  | creating | reading | returned | raised => exact still
  | looping done rest =>
      cases rest with
      | nil => exact still
      | cons path rest =>
          unfold migrate
          dsimp only
          split
          · exact still
          · split <;> exact still
  | inserting done path rest changed =>
      unfold migrate
      dsimp only
      split
      · exact still
      · exact ⟨[path.name], rfl, rfl, fun none => nomatch none⟩

/-- A script is committed once everything before it is, and it is. -/
theorem committed_iff (distinct : (all.map Script.name).Nodup) (sound : Sound run all start db)
    (split : all = past ++ script :: rest) :
    script.name ∈ db.applied ↔ past.length < db.applied.length := by
  have here : all[past.length]? = some script := by
    rw [split, List.getElem?_append_right le_rfl, Nat.sub_self]
    rfl
  constructor
  · intro mem
    rw [sound.names] at mem
    obtain ⟨found, listed, same⟩ := List.mem_map.mp mem
    obtain ⟨i, at_i⟩ := List.getElem?_of_mem listed
    rw [List.getElem?_take] at at_i
    split_ifs at at_i with before
    obtain ⟨inside, -⟩ := List.getElem?_eq_some_iff.mp at_i
    have index : i = past.length := by
      refine (List.getElem?_inj ((List.length_map Script.name).symm ▸ inside) distinct).mp ?_
      rw [List.getElem?_map, List.getElem?_map, at_i, here]
      exact congrArg some same
    rwa [← index]
  · intro before
    have kept : (all.take db.applied.length)[past.length]? = some script := by
      rw [List.getElem?_take, if_pos before, here]
    rw [sound.names]
    exact List.mem_map_of_mem (List.mem_of_getElem? kept)

theorem Sound.next {changed : S} (sound : Sound run all start db)
    (split : all = past ++ script :: rest) (next : db.applied.length = past.length)
    (ran : run script.text db.schema = some changed) :
    Sound run all start ⟨changed, some (db.applied ++ [script.name])⟩ := by
  have grown : all.take (past.length + 1) = all.take past.length ++ [script] := by
    rw [split, List.take_left, List.append_cons, List.take_left' (by simp)]
  have length : (db.applied ++ [script.name]).length = past.length + 1 := by
    rw [List.length_append, next]
    rfl
  have names := sound.names
  have schema := sound.schema
  rw [next] at names
  rw [built, next] at schema
  have applied : Database.applied ⟨changed, some (db.applied ++ [script.name])⟩ =
      db.applied ++ [script.name] := rfl
  constructor
  · rw [applied, length, grown, List.map_append, ← names]
    rfl
  · rw [applied, length, built, grown, List.foldlM_append, schema]
    exact (Option.bind_some _ _).trans (by rw [List.foldlM_cons, ran]; rfl)

/-- What a runner has made sure of, the commits of others leave true. -/
theorem Sure.later {new : List String} (sure : Sure run all db runner)
    (grown : db'.applied = db.applied ++ new) (still : new = [] → db'.schema = db.schema) :
    Sure run all db' runner := by
  have length : db'.applied.length = db.applied.length + new.length := by
    rw [grown, List.length_append]
  have kept : ∀ {done : List String}, (∀ name ∈ done, name ∈ db.applied) →
      ∀ name ∈ done, name ∈ db'.applied := by
    intro done there name mem
    rw [grown]
    exact List.mem_append_left new (there name mem)
  obtain ⟨files, stage, applied⟩ := runner
  refine ⟨sure.1, ?_⟩
  have there := sure.2
  cases stage with
  | creating | reading | raised => trivial
  | returned => exact le_trans there (by omega)
  | looping done rest =>
      obtain ⟨past, split, before, listed⟩ := there
      exact ⟨past, split, by omega, kept listed⟩
  | inserting done script rest changed =>
      obtain ⟨past, split, before, listed, ran⟩ := there
      refine ⟨past, split, by omega, kept listed, fun next => ?_⟩
      have none : new = [] := List.eq_nil_of_length_eq_zero (by omega)
      rw [still none]
      exact ran (by omega)

theorem split_prefix {scripts : List Script} (initial : scripts <+: all)
    (split : scripts = past ++ script :: rest) : ∃ later, all = past ++ script :: later := by
  obtain ⟨tail, same⟩ := initial
  exact ⟨rest ++ tail, by rw [← same, split, List.append_assoc, List.cons_append]⟩

theorem migrate_keeps (distinct : (all.map Script.name).Nodup) (sound : Sound run all start db)
    (sure : Sure run all db runner) : Sound run all start (migrate run db runner).1 ∧
      Sure run all (migrate run db runner).1 (migrate run db runner).2 := by
  obtain ⟨files, stage, applied⟩ := runner
  obtain ⟨initial, there⟩ := sure
  cases stage with
  | creating => exact ⟨⟨sound.names, sound.schema⟩, initial, trivial⟩
  | reading => exact ⟨sound, initial, [], rfl, Nat.zero_le _, fun _ mem => mem⟩
  | returned | raised => exact ⟨sound, initial, there⟩
  | looping done rest =>
      obtain ⟨past, split, before, listed⟩ := there
      cases rest with
      | nil =>
          refine ⟨sound, initial, ?_⟩
          rw [List.append_nil] at split
          exact split ▸ before
      | cons path rest =>
          obtain ⟨later, all_split⟩ := split_prefix initial split
          unfold migrate
          dsimp only
          split
          next known =>
            have past_it := (committed_iff distinct sound all_split).mp (listed _ known)
            refine ⟨sound, initial, past ++ [path], split.trans (List.append_cons ..), ?_, listed⟩
            rw [List.length_append]
            exact past_it
          · split
            · exact ⟨sound, initial, trivial⟩
            next changed ran =>
              exact ⟨sound, initial, past, split, before, listed, fun _ => ran⟩
  | inserting done path rest changed =>
      obtain ⟨past, split, before, listed, ran⟩ := there
      obtain ⟨later, all_split⟩ := split_prefix initial split
      unfold migrate
      dsimp only
      split
      · exact ⟨sound, initial, trivial⟩
      next fresh =>
        have next : db.applied.length = past.length := by
          have := mt (committed_iff distinct sound all_split).mpr fresh
          omega
        refine ⟨sound.next all_split next (ran next), initial, past ++ [path],
          split.trans (List.append_cons ..), ?_, fun name mem =>
            List.mem_append_left _ (listed name mem)⟩
        show (past ++ [path]).length ≤ (db.applied ++ [path.name]).length
        rw [List.length_append, List.length_append, next]
        exact le_rfl

/-! ## Whole runs -/

/-- What the runners say they have applied. -/
def reported (runners : List (Runner S)) : List String := runners.flatMap Runner.applied

/-- A runner says of each script that it committed it, and nobody else does. -/
theorem reported_turn {base : List String} {scene : Scene (Database S) (Runner S)} {i : Nat}
    (found : scene.requests[i]? = some runner)
    (told : (base ++ reported scene.requests).Perm scene.shared.applied) :
    (base ++ reported (scene.turn (migrate run) i).requests).Perm
      (scene.turn (migrate run) i).shared.applied := by
  obtain ⟨new, committed, said, -⟩ := migrate_adds run scene.shared runner
  obtain ⟨inside, here⟩ := List.getElem?_eq_some_iff.mp found
  have before : scene.requests = scene.requests.take i ++ runner :: scene.requests.drop (i + 1) := by
    rw [← here, ← List.drop_eq_getElem_cons inside, List.take_append_drop]
  rw [Scene.turn_of_some found, committed, List.set_eq_take_append_cons_drop, if_pos inside]
  rw [before] at told
  rw [reported, List.flatMap_append, List.flatMap_cons] at told ⊢
  rw [said]
  refine List.Perm.trans ?_ (told.append_right new)
  rw [List.append_assoc, List.append_assoc, List.append_assoc, List.append_assoc]
  exact ((List.perm_append_comm.append_left _).append_left _).append_left _

/-- However the statements of the runners interleave, and wherever they stop: the scripts that
are committed are the first ones, each run once and in order on what the earlier ones made; each
is reported by the one runner that committed it; and a runner that returns leaves none of its
scripts behind. -/
theorem migrations_in_order {runners : List (Runner S)} {schedule : List Nat}
    (distinct : (all.map Script.name).Nodup) (sound : Sound run all start db)
    (fresh : ∀ runner ∈ runners, runner.stage = .creating ∧ runner.applied = [] ∧
      runner.scripts <+: all) :
    let after := Scene.play (migrate run) schedule ⟨db, runners⟩
    Sound run all start after.shared ∧
      (db.applied ++ reported after.requests).Perm after.shared.applied ∧
      ∀ runner ∈ after.requests, runner.stage = .returned →
        ∀ script ∈ runner.files, script.name ∈ after.shared.applied := by
  have always : ∀ (schedule : List Nat) (scene : Scene (Database S) (Runner S)),
      Scene.Meets (migrate run) (fun _ _ => True) schedule scene := by
    intro schedule
    induction schedule with
    | nil => exact fun _ => trivial
    | cons i rest ih => exact fun scene => ⟨fun _ _ => trivial, ih _⟩
  have told : (db.applied ++ reported runners).Perm db.applied := by
    have none : reported runners = [] :=
      List.flatMap_eq_nil_iff.mpr fun runner mem => (fresh runner mem).2.1
    rw [none, List.append_nil]
  have kept := Scene.play_each (C := fun _ _ => True) (G := Sound run all start) (L := Sure run all)
    (fun _ _ sound sure _ => migrate_keeps distinct sound sure)
    (fun w r _ _ sure => by
      obtain ⟨new, grown, -, still⟩ := migrate_adds run w r
      exact sure.later grown still)
    (always schedule ⟨db, runners⟩) sound fun runner mem => by
      obtain ⟨stage, -, initial⟩ := fresh runner mem
      refine ⟨initial, ?_⟩
      rw [stage]
      trivial
  refine ⟨kept.1, ?_, fun runner mem returned script listed => ?_⟩
  · exact Scene.play_keeps
      (fun scene i runner told found _ => reported_turn found told) (always schedule _) told
  · obtain ⟨initial, there⟩ := kept.2 runner mem
    rw [returned] at there
    have ordered : script ∈ runner.scripts := (List.mem_insertionSort _).mpr listed
    obtain ⟨past, rest, split⟩ := List.append_of_mem ordered
    obtain ⟨later, all_split⟩ := split_prefix initial split
    refine (committed_iff distinct kept.1 all_split).mpr (lt_of_lt_of_le ?_ there)
    rw [split, List.length_append, List.length_cons]
    omega

/-- Two runners of one release, which list its two files in different orders. -/
theorem migrations_in_order_two :
    let run := fun text (schema : List String) => some (schema ++ [text])
    let all : List Script := [⟨"001_run_tree.sql", "runs"⟩, ⟨"002_users.sql", "users"⟩]
    let runners : List (Runner (List String)) := [{ files := all }, { files := all.reverse }]
    let after := Scene.play (migrate run) [0, 1, 0, 1, 0, 1, 0, 1, 0, 0, 0] ⟨⟨[], none⟩, runners⟩
    Sound run all [] after.shared ∧ ([] ++ reported after.requests).Perm after.shared.applied ∧
      ∀ runner ∈ after.requests, runner.stage = .returned →
        ∀ script ∈ runner.files, script.name ∈ after.shared.applied :=
  migrations_in_order (by decide) ⟨rfl, rfl⟩ (by
    intro runner mem
    rcases List.mem_pair.mp mem with rfl | rfl
    · exact ⟨rfl, rfl, by decide⟩
    · exact ⟨rfl, rfl, by decide⟩)

end

end KuWarden.Db
