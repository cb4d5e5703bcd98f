import KuWarden.Api.Edits
import KuWarden.Process.Runs

/-!
The configuration that `resolve` answers with, over any sequence of edits, changes of the
control point and resolutions.

A cache entry is good for the row that carries its timestamp. The registry's row has none, so
the entry outlives a change of the control point.
-/
namespace KuWarden.Api.Configure

open Process ConfigStore

/-- What happens to the configuration of one application, one thing after the other. The time
of an edit is the database's, that of a resolution the process's own. -/
inductive Event
  | edit (process : Nat) (principal : Principal) (now : Nat) (body : Body)
  | change (principal : Principal) (body : ChangeControlPoint)
  | resolve (process : Nat) (fallback : Option AppConfig) (now : Nat)

variable (safeLoad : String → Except String Value) (hosts : Nat → Host) (appId : UUID)

/-- A request from its first statement to its answer. -/
def serve (w : Deployment) (edit : Edit) : Deployment :=
  let selected := advance safeLoad w edit
  (advance safeLoad selected.1 selected.2).1

/-- `resolve` in one of the processes. -/
def resolveIn (w : Deployment) (process : Nat) (fallback : Option AppConfig) (now : Nat) :
    Except PyError AppConfig × Option Entry :=
  ConfigStore.resolve safeLoad (hosts process) (some appId) fallback now (w.caches process)
    w.rows

def occur (w : Deployment) : Event → Deployment
  | .edit process principal now body => serve safeLoad w ⟨process, principal, now, body.opening⟩
  | .change principal body => (changeControlPoint w principal body).1
  | .resolve process fallback now =>
      w.setCache process (resolveIn safeLoad hosts appId w process fallback now).2

/-- A resolution that consults the database answers with the stored configuration, under the
control point the registry declares, or it is denied. -/
def Current (w : Deployment) : Event → Prop
  | .resolve process fallback now => unexpired (w.caches process) now = none →
      match (resolveIn safeLoad hosts appId w process fallback now).1 with
      | .ok config => ∃ row stored, w.rows = some row ∧ row.stored = some stored ∧
          Config.parse safeLoad stored.yaml = .ok config ∧
          config.integrationModel = row.registered.integrationModel
      | .error exc => exc.kind = .policyDenied
  | _ => True

/-- A write is given a time that no cache entry carries. A resolution that consults the database
has no configuration of its own to fall back on while nothing is stored; and where its entry
carries the time of the stored row, that row still declares the registry's control point. -/
def Settled (w : Deployment) : Event → Prop
  | .edit _ _ now _ => ∀ process, ∀ entry ∈ w.caches process, entry.stamp ≠ now
  | .change .. => True
  | .resolve process fallback now => unexpired (w.caches process) now = none →
      ∀ row ∈ w.rows,
        match row.stored with
        | none => fallback = none ∧ (hosts process).file = none
        | some stored => ∀ entry ∈ w.caches process, entry.stamp = stored.updatedAt →
            ∀ config, Config.parse safeLoad stored.yaml = .ok config →
              config.integrationModel = row.registered.integrationModel

/-- What is stored parses, and an entry that carries its timestamp is what it parses to. -/
structure Faithful (w : Deployment) : Prop where
  parses : ∀ stored ∈ w.stored, ∃ config, Config.parse safeLoad stored.yaml = .ok config
  cached : ∀ process, ∀ entry ∈ w.caches process, ∀ stored ∈ w.stored,
    entry.stamp = stored.updatedAt → Config.parse safeLoad stored.yaml = .ok entry.config

/-- An application of which nothing is stored or cached. -/
def unstored (rows : Option AppRows) : Deployment where
  rows := rows.map fun row => { row with stored := none }

variable {safeLoad hosts appId} {w : Deployment} {body : Body} {edit : Edit}

theorem faithful_unstored (rows : Option AppRows) : Faithful safeLoad (unstored rows) := by
  have nothing : (unstored rows).stored = none := by
    cases rows <;> rfl
  refine ⟨fun stored found => ?_, fun process entry found => ?_⟩
  · rw [nothing] at found
    cases found
  · cases found

/-! ## What a request leaves -/

theorem mem_forget {process p : Nat} {entry : Entry}
    (found : entry ∈ (w.forget process).caches p) : entry ∈ w.caches p := by
  have found : (if p = process then none else w.caches p) = some entry := found
  split at found
  · cases found
  · exact found

/-- The stored row after a statement is the one before it or a new one, which parses. -/
theorem advance_keeps (stands : Stands safeLoad w body edit.stage) :
    Stands safeLoad (advance safeLoad w edit).1 body (advance safeLoad w edit).2.stage ∧
    (advance safeLoad w edit).2.now = edit.now ∧
    (∀ stored ∈ (advance safeLoad w edit).1.stored, stored ∈ w.stored ∨
      stored.updatedAt = edit.now ∧
        ∃ config, Config.parse safeLoad stored.yaml = .ok config) ∧
    ∀ p, ∀ entry ∈ (advance safeLoad w edit).1.caches p, entry ∈ w.caches p := by
  obtain ⟨process, principal, now, stage⟩ := edit
  have unmoved : ∀ stage', Stands safeLoad w body stage' →
      advance safeLoad w ⟨process, principal, now, stage⟩ =
        (w, ⟨process, principal, now, stage'⟩) →
      Stands safeLoad (advance safeLoad w ⟨process, principal, now, stage⟩).1 body
          (advance safeLoad w ⟨process, principal, now, stage⟩).2.stage ∧
        (advance safeLoad w ⟨process, principal, now, stage⟩).2.now = now ∧
        (∀ stored ∈ (advance safeLoad w ⟨process, principal, now, stage⟩).1.stored,
          stored ∈ w.stored ∨ stored.updatedAt = now ∧
            ∃ config, Config.parse safeLoad stored.yaml = .ok config) ∧
        ∀ p, ∀ entry ∈ (advance safeLoad w ⟨process, principal, now, stage⟩).1.caches p,
          entry ∈ w.caches p := by
    intro stage' stands' moved
    rw [moved]
    exact ⟨stands', rfl, fun stored found => .inl found, fun p entry found => found⟩
  cases stands with
  | opening =>
      cases body with
      | store body =>
          cases checked : checkConfig safeLoad w body with
          | error exc =>
              exact unmoved _ (.answered (.error exc)) (by simp only [advance, checked])
          | ok stage =>
              obtain ⟨parsed, rfl, rows, read⟩ := check_config_ok checked
              exact unmoved _ (.upserting rows read) (by simp only [advance, checked])
      | set body =>
          cases rewritten : rewrite safeLoad w body with
          | error exc =>
              exact unmoved _ (.answered (.error exc))
                (by simp only [advance, rewritten])
          | ok stage =>
              obtain ⟨yaml, current, after, read, confirmed, rfl⟩ := rewrite_ok rewritten
              exact unmoved _ (.updating read confirmed)
                (by simp only [advance, rewritten])
  | @upserting body parsed known read =>
      refine ⟨.answered _, rfl, fun stored found => .inr ?_, fun p entry found => mem_forget found⟩
      obtain ⟨row, rows⟩ := Option.isSome_iff_exists.mp known
      have written : some (StoredConfig.mk body.yaml now principal.email) = some stored := by
        simpa [advance, Deployment.stored, Deployment.upsert, Deployment.forget,
          Deployment.setCache, rows] using found
      cases written
      exact ⟨rfl, parsed, read⟩
  | @updating body yaml current after read confirmed =>
      refine ⟨.answered _, rfl, fun stored found => .inr ?_, fun p entry found => mem_forget found⟩
      obtain ⟨row, rows, new⟩ := Option.bind_eq_some_iff.mp found
      obtain ⟨old, -, rfl⟩ := Option.map_eq_some_iff.mp rows
      obtain ⟨before, -, same⟩ := Option.map_eq_some_iff.mp new
      rw [← same]
      exact ⟨rfl, after, confirmed⟩
  | answered answer => exact unmoved _ (.answered answer) rfl

/-- An edit that is given a fresh time. -/
theorem Faithful.serve {process : Nat} {principal : Principal} {now : Nat}
    (faithful : Faithful safeLoad w)
    (fresh : ∀ process, ∀ entry ∈ w.caches process, entry.stamp ≠ now) :
    Faithful safeLoad
      (serve safeLoad w ⟨process, principal, now, body.opening⟩) := by
  have opened : Stands safeLoad w body (Edit.mk process principal now body.opening).stage :=
    .opening body
  obtain ⟨stands, clock, stored, caches⟩ := advance_keeps opened
  obtain ⟨-, -, stored', caches'⟩ := advance_keeps stands
  have either : ∀ s ∈ (Configure.serve safeLoad w ⟨process, principal, now, body.opening⟩).stored,
      s ∈ w.stored ∨
        s.updatedAt = now ∧ ∃ config, Config.parse safeLoad s.yaml = .ok config := by
    intro s found
    rcases stored' s found with earlier | ⟨time, read⟩
    · exact stored s earlier
    · exact .inr ⟨time.trans clock, read⟩
  refine ⟨fun s found => ?_, fun p entry cached s found same => ?_⟩
  · rcases either s found with old | ⟨-, read⟩
    · exact faithful.parses s old
    · exact read
  · have cached := caches p entry (caches' p entry cached)
    rcases either s found with old | ⟨time, -⟩
    · exact faithful.cached p entry cached s old same
    · exact absurd (same.trans time) (fresh p entry cached)

theorem Faithful.change {principal : Principal} {body : ChangeControlPoint}
    (faithful : Faithful safeLoad w) :
    Faithful safeLoad (changeControlPoint w principal body).1 := by
  have stored : (changeControlPoint w principal body).1.stored = w.stored := by
    unfold changeControlPoint
    cases found : w.rows with
    | none => rfl
    | some row =>
        dsimp only
        split
        · rfl
        · simp [Deployment.stored, found]
  have caches : (changeControlPoint w principal body).1.caches = w.caches := by
    unfold changeControlPoint
    cases w.rows with
    | none => rfl
    | some row =>
        dsimp only
        split <;> rfl
  exact ⟨fun s found => faithful.parses s (stored ▸ found),
    fun p entry cached s found => faithful.cached p entry (caches ▸ cached) s (stored ▸ found)⟩

/-! ## What a resolution answers -/

/-- The entry a resolution leaves is the one it found or one for the stored row. -/
theorem cached_of_resolve {process now : Nat} {fallback : Option AppConfig} {entry : Entry}
    (faithful : Faithful safeLoad w)
    (left : entry ∈ (resolveIn safeLoad hosts appId w process fallback now).2) :
    entry ∈ w.caches process ∨
      ∃ stored ∈ w.stored, entry.stamp = stored.updatedAt ∧
        Config.parse safeLoad stored.yaml = .ok entry.config := by
  unfold resolveIn ConfigStore.resolve at left
  dsimp only at left
  split at left
  next => exact .inl left
  next =>
      cases rows : w.rows with
      | none =>
          rw [rows] at left
          exact .inl left
      | some row =>
          cases found : row.stored with
          | none =>
              simp only [rows, consult, found] at left
              exact .inl left
          | some stored =>
              have here : stored ∈ w.stored := by simp [Deployment.stored, rows, found]
              simp only [rows, consult, found] at left
              split at left
              next old same =>
                  obtain ⟨cached, same⟩ := Option.filter_eq_some_iff.mp same
                  cases left
                  exact .inr ⟨stored, here, rfl,
                    faithful.cached process old cached stored here (of_decide_eq_true same)⟩
              next =>
                  split at left
                  next exc => exact .inl left
                  next config same =>
                      cases left
                      exact .inr ⟨stored, here, rfl, (governed_ok same).1⟩

theorem Faithful.resolve {process now : Nat} {fallback : Option AppConfig}
    (faithful : Faithful safeLoad w) :
    Faithful safeLoad (w.setCache process
      (resolveIn safeLoad hosts appId w process fallback now).2) := by
  refine ⟨faithful.parses, fun p entry found stored here same => ?_⟩
  have found : (if p = process then
      (resolveIn safeLoad hosts appId w process fallback now).2 else w.caches p) =
        some entry := found
  split at found
  next at_p =>
      rcases cached_of_resolve faithful found with old | ⟨stored', here', -, read⟩
      · exact faithful.cached process entry old stored here same
      · rw [Option.some.inj (here.symm.trans here')]
        exact read
  next => exact faithful.cached p entry found stored here same

theorem Faithful.occur {event : Event} (faithful : Faithful safeLoad w)
    (settled : Settled safeLoad hosts w event) :
    Faithful safeLoad (occur safeLoad hosts appId w event) := by
  cases event with
  | edit process principal now body => exact faithful.serve settled
  | change principal body => exact faithful.change
  | resolve process fallback now => exact faithful.resolve

/-- A resolution that consults the database, in a state that is as it should be. -/
theorem current_of_settled {event : Event} (faithful : Faithful safeLoad w)
    (settled : Settled safeLoad hosts w event) :
    Current safeLoad hosts appId w event := by
  cases event with
  | edit => trivial
  | change => trivial
  | resolve process fallback now =>
      intro expired
      have settled := settled expired
      unfold resolveIn ConfigStore.resolve
      dsimp only
      rw [expired]
      dsimp only
      cases rows : w.rows with
      | none => rfl
      | some row =>
          have settled := settled row rows
          cases found : row.stored with
          | none =>
              rw [found] at settled
              obtain ⟨rfl, no_file⟩ := settled
              simp only [consult, found, own, fromFile, no_file]
          | some stored =>
              rw [found] at settled
              have here : stored ∈ w.stored := by simp [Deployment.stored, rows, found]
              simp only [consult, found]
              cases kept : (w.caches process).filter fun entry =>
                  entry.stamp = stored.updatedAt with
              | some entry =>
                  obtain ⟨cached, same⟩ := Option.filter_eq_some_iff.mp kept
                  have same := of_decide_eq_true same
                  have read := faithful.cached process entry cached stored here same
                  exact ⟨row, stored, rfl, found, read, settled entry cached same _ read⟩
              | none =>
                  obtain ⟨config, read⟩ := faithful.parses stored here
                  cases answered : governed safeLoad row.registered stored.yaml with
                  | ok config => exact ⟨row, stored, rfl, found, governed_ok answered⟩
                  | error exc => exact governed_error read answered

/-- Any number of edits, changes and resolutions that meet the condition. -/
theorem current_along {rows : Option AppRows} {events : List Event}
    (settled : Along (occur safeLoad hosts appId) (Settled safeLoad hosts) events
      (unstored rows)) :
    Along (occur safeLoad hosts appId) (Current safeLoad hosts appId) events
      (unstored rows) :=
  settled.of_invariant (fun _ _ faithful here => faithful.occur here)
    (fun _ _ faithful here => current_of_settled faithful here) (faithful_unstored rows)

/-! ## A control point that moves -/

def shopRead : AppConfig := shopParsed (allVerifiers.filter armed)

/-- The shop's configuration is stored, and resolved in another process. -/
def opened : List Event :=
  [.edit 0 ada 1 (.store ⟨shopText armed⟩), .resolve 1 none 0]

/-- It is resolved again once the cache entry has expired. -/
def reopened : List Event := opened ++ [.resolve 1 none (ttl + 1)]

/-- Its control point moves, and the cache entry expires. -/
def moved : List Event :=
  [.change ada ⟨.gatedDeployment, "a trial"⟩, .resolve 1 none (ttl + 1)]

theorem serve_shop {yaml : String} (read : Config.parse shopLoad yaml = .ok shopRead) :
    serve shopLoad (unstored (shopOf yaml 1).rows)
      ⟨0, ada, 1, (Body.store ⟨yaml⟩).opening⟩ = shopOf yaml 1 := by
  have first := advance_storing (w := unstored (shopOf yaml 1).rows) rfl read rfl 0 ada 1
  unfold serve
  rw [Body.opening, first]
  show (Deployment.forget _ 0) = _
  simp [Deployment.forget, Deployment.setCache, Deployment.upsert, unstored, shopOf, ada]

theorem resolve_shop {yaml : String} (read : Config.parse shopLoad yaml = .ok shopRead) :
    resolveIn shopLoad (fun _ => {}) ⟨7⟩ (shopOf yaml 1) 1 none 0 =
      (.ok shopRead, some ⟨shopRead, 1, 0 + ttl⟩) := by
  have answered : governed shopLoad ⟨"shop", .gatedMerge⟩ yaml = .ok shopRead := by
    rw [governed, read]
    exact if_neg fun other => other rfl
  simp only [resolveIn, ConfigStore.resolve, unexpired, shopOf, Option.filter_none, consult,
    answered]

theorem serve_armed : serve shopLoad (unstored (shop armed 1).rows)
    ⟨0, ada, 1, (Body.store ⟨shopText armed⟩).opening⟩ = shopOf (shopText armed) 1 :=
  serve_shop (parse_shop armed)

/-- An edit and two resolutions, of which the second finds what the first has cached. -/
theorem current_along_opened : Along (occur shopLoad (fun _ => {}) ⟨7⟩)
    (Current shopLoad (fun _ => {}) ⟨7⟩) reopened (unstored (shop armed 1).rows) := by
  refine current_along ⟨fun process entry cached => ?_, fun expired row found => ?_,
    fun expired row found => ?_, trivial⟩
  · cases cached
  · rw [occur, serve_armed] at found
    cases found
    rw [occur, serve_armed]
    exact fun entry cached => by cases cached
  · rw [occur, occur, serve_armed, resolve_shop (parse_shop armed)] at found
    cases found
    intro entry _ _ config read
    rw [parse_shop] at read
    cases read
    rfl

/-- The entry of the old control point is extended. -/
theorem control_point_outlived : ¬ ∀ (rows : Option AppRows) (events : List Event),
    Along (occur shopLoad (fun _ => {}) ⟨7⟩) (Current shopLoad (fun _ => {}) ⟨7⟩) events
      (unstored rows) := by
  intro current
  have along := current (shop armed 1).rows (opened ++ moved)
  simp only [opened, moved, List.cons_append, List.nil_append, Along] at along
  obtain ⟨-, -, -, last, -⟩ := along
  rw [occur, occur, occur, serve_armed, resolve_shop (parse_shop armed)] at last
  obtain ⟨row, stored, found, -, -, same⟩ := last rfl
  cases found
  cases same

end KuWarden.Api.Configure
