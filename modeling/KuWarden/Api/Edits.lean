import KuWarden.Api.Rewrites

/-!
Overlapping edits of one stored configuration.

Where every rewrite replaces the text it was made from, the stored text is what the requests
leave when they are applied one after another, in the order of their writes.
-/
namespace KuWarden.Api.Configure

open Process ConfigStore

inductive Body
  | store (body : StoreConfig)
  | set (body : SetVerifiers)

def Body.opening : Body → Stage
  | .store body => .storing body
  | .set body => .selecting body

variable (safeLoad : String → Except String Value)

/-- A rewrite that is about to be written was made from the text that is stored, whose block
it can replace. -/
def Undisturbed (w : Deployment) (edit : Edit) : Prop :=
  match edit.stage with
  | .updating _ yaml _ _ =>
      w.stored.map StoredConfig.yaml = some yaml ∧ Handled safeLoad yaml
  | _ => True

def text (w : Deployment) : Option String := w.stored.map StoredConfig.yaml

/-- What requests leave of a stored text when they are applied one after another. -/
inductive Applied (before : Option String) : List Body → Option String → Prop
  | nil : Applied before [] before
  | store {bodies : List Body} {t : Option String} (body : StoreConfig) :
      Applied before bodies t → Applied before (bodies ++ [.store body]) (some body.yaml)
  | set {bodies : List Body} {yaml : String} {current after : AppConfig}
      (body : SetVerifiers) :
      Applied before bodies (some yaml) → Config.parse safeLoad yaml = .ok current →
      Config.parse safeLoad
        (withVerifiers yaml (wanted body current.verification.blocking)) = .ok after →
      (∀ name ∈ allVerifiers, after.verification.blocking.contains name =
        (body.asked name).getD (current.verification.blocking.contains name)) →
      Applied before (bodies ++ [.set body])
        (some (withVerifiers yaml (wanted body current.verification.blocking)))

/-- Where a request may stand that was opened with this body. -/
inductive Stands (w : Deployment) : Body → Stage → Prop
  | opening (body : Body) : Stands w body body.opening
  | upserting {body : StoreConfig} {parsed : AppConfig} :
      w.rows.isSome → Config.parse safeLoad body.yaml = .ok parsed →
      Stands w (.store body) (.upserting body.yaml parsed)
  | updating {body : SetVerifiers} {yaml : String} {current after : AppConfig} :
      Config.parse safeLoad yaml = .ok current →
      Config.parse safeLoad
        (withVerifiers yaml (wanted body current.verification.blocking)) = .ok after →
      Stands w (.set body) (.updating body yaml
        (withVerifiers yaml (wanted body current.verification.blocking)) after.verification)
  | answered {body : Body} (answer : Except ApiExc Answer) : Stands w body (.answered answer)

def Succeeded (edit : Edit) : Prop := ∃ answer, edit.stage = .answered (.ok answer)

variable {safeLoad} {w w' : Deployment} {body : Body} {edit : Edit} {stage : Stage}

theorem Stands.kept (stands : Stands safeLoad w body stage)
    (rows : w'.rows.isSome = w.rows.isSome) : Stands safeLoad w' body stage := by
  cases stands with
  | opening => exact .opening body
  | upserting known read => exact .upserting (rows.trans known) read
  | updating read confirmed => exact .updating read confirmed
  | answered answer => exact .answered answer

theorem parse_body_ok {body : StoreConfig} {parsed : AppConfig}
    (read : parseBody safeLoad body = .ok parsed) :
    Config.parse safeLoad body.yaml = .ok parsed := by
  unfold parseBody at read
  split at read
  next config same => rw [same, ← Except.ok.inj read]
  next exc same =>
      split at read
      · cases read
      · cases read

theorem check_config_ok {body : StoreConfig}
    (checked : checkConfig safeLoad w body = .ok stage) :
    ∃ parsed, stage = .upserting body.yaml parsed ∧ w.rows.isSome ∧
      Config.parse safeLoad body.yaml = .ok parsed := by
  unfold checkConfig at checked
  obtain ⟨parsed, read, checked⟩ := Config.of_bind_ok checked
  split at checked
  next => cases checked
  next row found =>
      dsimp only at checked
      split at checked
      · cases checked
      · cases checked
        exact ⟨parsed, rfl, by rw [found]; rfl, parse_body_ok read⟩

theorem rewrite_ok {body : SetVerifiers} (rewritten : rewrite safeLoad w body = .ok stage) :
    ∃ yaml current after, Config.parse safeLoad yaml = .ok current ∧
      Config.parse safeLoad
        (withVerifiers yaml (wanted body current.verification.blocking)) = .ok after ∧
      stage = .updating body yaml
        (withVerifiers yaml (wanted body current.verification.blocking)) after.verification := by
  have parsed : ∀ {t : String} {config : AppConfig},
      raising (Config.parse safeLoad t) = .ok config → Config.parse safeLoad t = .ok config := by
    intro t config same
    cases read : Config.parse safeLoad t with
    | error exc => rw [read] at same; cases same
    | ok config' => rw [read] at same; cases same; rfl
  unfold rewrite at rewritten
  obtain ⟨-, -, rewritten⟩ := Config.of_bind_ok rewritten
  split at rewritten
  next => cases rewritten
  next row found =>
      obtain ⟨current, read, rewritten⟩ := Config.of_bind_ok rewritten
      obtain ⟨after, confirmed, rewritten⟩ := Config.of_bind_ok rewritten
      cases rewritten
      exact ⟨row.yaml, current, after, parsed read, parsed confirmed, rfl⟩

/-- One statement of an undisturbed request: it reads, or it writes its share. -/
theorem advance_cases (rules : Yaml.Rules safeLoad) (stands : Stands safeLoad w body edit.stage)
    (undisturbed : Undisturbed safeLoad w edit) :
    (∃ stage, advance safeLoad w edit = (w, { edit with stage }) ∧
      Stands safeLoad w body stage ∧
      (Succeeded { edit with stage } ↔ Succeeded edit)) ∨
    ((advance safeLoad w edit).1.rows.isSome = w.rows.isSome ∧
      ¬ Succeeded edit ∧ Succeeded (advance safeLoad w edit).2 ∧
      ∀ before bodies, Applied safeLoad before bodies (text w) →
        Applied safeLoad before (bodies ++ [body]) (text (advance safeLoad w edit).1)) := by
  obtain ⟨process, principal, now, stage⟩ := edit
  have pending : ∀ {e : Edit}, (∀ answer, e.stage ≠ .answered (.ok answer)) → ¬ Succeeded e :=
    fun other ⟨answer, same⟩ => other answer same
  cases stands with
  | opening =>
      refine .inl ?_
      cases body with
      | store body =>
          cases checked : checkConfig safeLoad w body with
          | error exc =>
              refine ⟨.answered (.error exc), ?_, .answered _, ?_⟩
              · simp only [advance, checked]
              · simp [Succeeded]
          | ok stage =>
              obtain ⟨parsed, rfl, rows, read⟩ := check_config_ok checked
              refine ⟨.upserting body.yaml parsed, ?_, .upserting rows read, ?_⟩
              · simp only [advance, checked]
              · simp [Succeeded]
      | set body =>
          cases rewritten : rewrite safeLoad w body with
          | error exc =>
              refine ⟨.answered (.error exc), ?_, .answered _, ?_⟩
              · simp only [advance, rewritten]
              · simp [Succeeded]
          | ok stage =>
              obtain ⟨yaml, current, after, read, confirmed, rfl⟩ := rewrite_ok rewritten
              refine ⟨_, ?_, .updating read confirmed, ?_⟩
              · simp only [advance, rewritten]
              · simp [Succeeded]
  | @upserting body parsed known read =>
      refine .inr ⟨?_, pending (by simp), ⟨_, rfl⟩, fun before bodies applied => ?_⟩
      · exact Option.isSome_map
      · obtain ⟨row, found⟩ := Option.isSome_iff_exists.mp known
        have written : text (advance safeLoad w
            ⟨process, principal, now, .upserting body.yaml parsed⟩).1 = some body.yaml := by
          simp [advance, text, Deployment.stored, Deployment.upsert, Deployment.forget,
            Deployment.setCache, found]
        rw [written]
        exact .store body applied
  | @updating body yaml current after read confirmed =>
      obtain ⟨here, handled⟩ := undisturbed
      refine .inr ⟨?_, pending (by simp), ⟨_, rfl⟩, fun before bodies applied => ?_⟩
      · exact Option.isSome_map
      · have written : text (advance safeLoad w ⟨process, principal, now, .updating body yaml
            (withVerifiers yaml (wanted body current.verification.blocking))
            after.verification⟩).1 =
              some (withVerifiers yaml (wanted body current.verification.blocking)) := by
          obtain ⟨old, found, rfl⟩ := Option.map_eq_some_iff.mp here
          obtain ⟨row, rows, stored⟩ := Option.bind_eq_some_iff.mp found
          simp [advance, text, Deployment.stored, Deployment.update, Deployment.forget,
            Deployment.setCache, rows, stored]
        rw [written]
        rw [show text w = some yaml from here] at applied
        exact .set body applied read confirmed (asked_of_handled rules read handled confirmed)
  | answered answer => exact .inl ⟨.answered answer, rfl, .answered answer, Iff.rfl⟩

variable (safeLoad) in
/-- The stored text is what the requests that succeeded leave, in the order of `order`. -/
structure Serial (before : Option String) (bodies : List Body) (scene : Scene Deployment Edit)
    (order : List Nat) : Prop where
  once : order.Nodup
  bounded : ∀ i ∈ order, i < bodies.length
  applied : Applied safeLoad before (order.filterMap fun i => bodies[i]?) (text scene.shared)
  stands : ∀ (i : Nat) (edit : Edit), scene.requests[i]? = some edit →
    ∃ body, bodies[i]? = some body ∧ Stands safeLoad scene.shared body edit.stage
  listed : ∀ (i : Nat) (edit : Edit), scene.requests[i]? = some edit → (Succeeded edit ↔ i ∈ order)

variable {before : Option String} {bodies : List Body} {scene : Scene Deployment Edit}
  {order : List Nat} {i : Nat}

/-- One turn of an undisturbed request. -/
theorem Serial.turn (rules : Yaml.Rules safeLoad)
    (serial : Serial safeLoad before bodies scene order)
    (found : scene.requests[i]? = some edit)
    (undisturbed : Undisturbed safeLoad scene.shared edit) :
    ∃ order', Serial safeLoad before bodies
      (scene.turn (advance safeLoad) i) order' := by
  obtain ⟨body, named, stands⟩ := serial.stands i edit found
  have shared : (scene.turn (advance safeLoad) i).shared =
      (advance safeLoad scene.shared edit).1 := by rw [Scene.turn_of_some found]
  rcases advance_cases rules stands undisturbed with
    ⟨stage, moved, stands', same⟩ | ⟨rows, pending, done, applies⟩
  · rw [moved] at shared
    refine ⟨order, serial.once, serial.bounded, by rw [shared]; exact serial.applied, ?_, ?_⟩
    · intro j e at_j
      rw [shared]
      rcases Scene.of_turn found at_j with ⟨rfl, rfl⟩ | ⟨-, at_j⟩
      · exact ⟨body, named, by rw [moved]; exact stands'⟩
      · exact serial.stands j e at_j
    · intro j e at_j
      rcases Scene.of_turn found at_j with ⟨rfl, rfl⟩ | ⟨-, at_j⟩
      · rw [moved]
        exact same.trans (serial.listed j edit found)
      · exact serial.listed j e at_j
  · have fresh : i ∉ order := fun mem => pending ((serial.listed i edit found).mpr mem)
    refine ⟨order ++ [i], ?_, ?_, ?_, ?_, ?_⟩
    · refine List.nodup_append.mpr ⟨serial.once, List.nodup_singleton i, ?_⟩
      intro j mem k last same
      rw [same, List.mem_singleton.mp last] at mem
      exact fresh mem
    · intro j mem
      rcases List.mem_append.mp mem with old | last
      · exact serial.bounded j old
      · rw [List.mem_singleton.mp last]
        exact (List.getElem?_eq_some_iff.mp named).1
    · have both := applies before _ serial.applied
      rw [shared]
      simpa [named] using both
    · intro j e at_j
      rw [shared]
      rcases Scene.of_turn found at_j with ⟨rfl, rfl⟩ | ⟨-, at_j⟩
      · obtain ⟨answer, answered⟩ := done
        exact ⟨body, named, by rw [answered]; exact .answered _⟩
      · obtain ⟨body', named', stands'⟩ := serial.stands j e at_j
        exact ⟨body', named', stands'.kept rows⟩
    · intro j e at_j
      rw [List.mem_append, List.mem_singleton]
      rcases Scene.of_turn found at_j with ⟨rfl, rfl⟩ | ⟨other, at_j⟩
      · exact ⟨fun _ => .inr rfl, fun _ => done⟩
      · rw [serial.listed j e at_j]
        exact ⟨.inl, fun mem => mem.resolve_right other⟩

/-- Any number of requests that disturb no rewrite. -/
theorem serial_of_undisturbed (rules : Yaml.Rules safeLoad) {w : Deployment} {edits : List Edit} {schedule : List Nat}
    (opens : List.Forall₂ (fun edit body => edit.stage = Body.opening body) edits bodies)
    (undisturbed : Scene.Meets (advance safeLoad) (Undisturbed safeLoad) schedule ⟨w, edits⟩) :
    ∃ order, Serial safeLoad (text w) bodies
      (Scene.play (advance safeLoad) schedule ⟨w, edits⟩) order := by
  refine Scene.play_keeps
    (P := fun scene => ∃ order, Serial safeLoad (text w) bodies scene order)
    ?_ undisturbed ?_
  · intro scene i edit ⟨order, serial⟩ found meets
    exact serial.turn rules found meets
  · have opened : ∀ (i : Nat) (edit : Edit), edits[i]? = some edit →
        ∃ body : Body, bodies[i]? = some body ∧ edit.stage = body.opening := by
      intro i edit found
      obtain ⟨lt, rfl⟩ := List.getElem?_eq_some_iff.mp found
      have lt' : i < bodies.length := opens.length_eq ▸ lt
      exact ⟨bodies[i], List.getElem?_eq_getElem lt', List.forall₂_iff_get.mp opens |>.2 i lt lt'⟩
    refine ⟨[], List.nodup_nil, by simp, .nil, fun i edit found => ?_, fun i edit found => ?_⟩
    · obtain ⟨body, named, opens⟩ := opened i edit found
      exact ⟨body, named, opens ▸ .opening body⟩
    · obtain ⟨body, named, opens⟩ := opened i edit found
      refine ⟨fun ⟨answer, answered⟩ => ?_, fun absurd_ => absurd absurd_ List.not_mem_nil⟩
      rw [opens] at answered
      cases body <;> cases answered

/-! ## Two requests -/

/-- A setting that one of two requests asks for is as one of them asks, and any other is as
it was before them. -/
def Reflects (first second : SetVerifiers) (before after : AppConfig) : Prop :=
  ∀ name ∈ allVerifiers,
    let setting := after.verification.blocking.contains name
    match first.asked name, second.asked name with
    | none, none => setting = before.verification.blocking.contains name
    | some b, none | none, some b => setting = b
    | some b, some b' => setting = b ∨ setting = b'

variable (safeLoad) in
/-- The text is the one that was stored, or a rewrite of it. -/
def Outlives (stored : StoreConfig) (set : SetVerifiers) (yaml : String) : Prop :=
  yaml = stored.yaml ∨ ∃ current, Config.parse safeLoad stored.yaml = .ok current ∧
    yaml = withVerifiers stored.yaml (wanted set current.verification.blocking)

variable (safeLoad) in
/-- What two requests that were both answered successfully have left reflects both. -/
def Reflected (before after : Deployment) : Body → Body → Prop
  | .set first, .set second => ∃ yaml yaml' config config',
      text before = some yaml ∧ text after = some yaml' ∧
      Config.parse safeLoad yaml = .ok config ∧ Config.parse safeLoad yaml' = .ok config' ∧
      Reflects first second config config'
  | .set set, .store stored | .store stored, .set set =>
      ∃ yaml, text after = some yaml ∧ Outlives safeLoad stored set yaml
  | .store first, .store second =>
      text after = some first.yaml ∨ text after = some second.yaml

/-- Two indices, in either order. -/
theorem pair_cases {order : List Nat} (once : order.Nodup) (bounded : ∀ i ∈ order, i < 2)
    (zero : 0 ∈ order) (one : 1 ∈ order) : order = [0, 1] ∨ order = [1, 0] := by
  have perm : order.Perm [0, 1] := by
    refine (List.perm_ext_iff_of_nodup once (by decide)).mpr fun i => ⟨fun mem => ?_, fun mem => ?_⟩
    · have := bounded i mem
      simp only [List.mem_cons, List.not_mem_nil, or_false]
      omega
    · rcases List.mem_cons.mp mem with rfl | mem
      · exact zero
      · rw [List.mem_singleton.mp mem]
        exact one
  obtain ⟨a, b, rfl⟩ := List.length_eq_two.mp perm.length_eq
  simp only [List.mem_cons, List.not_mem_nil, or_false] at bounded zero one
  have := bounded a (.inl rfl)
  have := bounded b (.inr rfl)
  simp only [List.cons.injEq, and_true]
  omega

theorem Applied.of_nil {t : Option String} (applied : Applied safeLoad before [] t) :
    t = before := by
  generalize same : ([] : List Body) = bs at applied
  cases applied with
  | nil => rfl
  | store | set => simp at same

theorem Applied.of_store {stored : StoreConfig} {t : Option String}
    (applied : Applied safeLoad before (bodies ++ [.store stored]) t) :
    t = some stored.yaml := by
  generalize same : bodies ++ [Body.store stored] = bs at applied
  cases applied with
  | nil => simp at same
  | store body =>
      cases (List.append_inj' same rfl).2
      rfl
  | set body => cases (List.append_inj' same rfl).2

theorem Applied.of_set {set : SetVerifiers} {t : Option String}
    (applied : Applied safeLoad before (bodies ++ [.set set]) t) :
    ∃ yaml current after, Applied safeLoad before bodies (some yaml) ∧
      Config.parse safeLoad yaml = .ok current ∧
      t = some (withVerifiers yaml (wanted set current.verification.blocking)) ∧
      Config.parse safeLoad
        (withVerifiers yaml (wanted set current.verification.blocking)) = .ok after ∧
      ∀ name ∈ allVerifiers, after.verification.blocking.contains name =
        (set.asked name).getD (current.verification.blocking.contains name) := by
  generalize same : bodies ++ [Body.set set] = bs at applied
  cases applied with
  | nil => simp at same
  | store body =>
      cases (List.append_inj' same rfl).2
  | set body earlier read confirmed reads =>
      obtain ⟨rfl, last⟩ := List.append_inj' same rfl
      cases last
      exact ⟨_, _, _, earlier, read, rfl, confirmed, reads⟩

theorem reflected_of_applied {w w' : Deployment} {first second : Body}
    (applied : Applied safeLoad (text w) [first, second] (text w')) :
    Reflected safeLoad w w' first second := by
  have applied : Applied safeLoad (text w) ([first] ++ [second]) (text w') := applied
  cases second with
  | store stored =>
      have left := applied.of_store
      cases first with
      | store other => exact .inr left
      | set other => exact ⟨_, left, .inl rfl⟩
  | set set =>
      obtain ⟨yaml, current, after, earlier, read, left, confirmed, reads⟩ := applied.of_set
      have earlier : Applied safeLoad (text w) ([] ++ [first]) (some yaml) := earlier
      cases first with
      | store stored =>
          cases earlier.of_store
          exact ⟨_, left, .inr ⟨current, read, rfl⟩⟩
      | set other =>
          obtain ⟨yaml₀, config, middle, begun, read₀, found, confirmed₀, reads₀⟩ := earlier.of_set
          cases found
          cases confirmed₀.symm.trans read
          refine ⟨yaml₀, _, config, after, begun.of_nil.symm, left, read₀, confirmed, ?_⟩
          intro name mem
          have last := reads name mem
          rw [reads₀ name mem] at last
          dsimp only
          cases asked : other.asked name <;> cases asked' : set.asked name <;>
            simp [asked, asked'] at last ⊢ <;> simp [last]

theorem Reflected.symm {w w' : Deployment} {first second : Body}
    (reflected : Reflected safeLoad w w' first second) :
    Reflected safeLoad w w' second first := by
  cases first with
  | store stored =>
      cases second with
      | store other => exact Or.symm reflected
      | set other => exact reflected
  | set set =>
      cases second with
      | store other => exact reflected
      | set other =>
          obtain ⟨yaml, yaml', config, config', begun, left, read, read', reflects⟩ := reflected
          refine ⟨yaml, yaml', config, config', begun, left, read, read', fun name mem => ?_⟩
          have setting := reflects name mem
          dsimp only at setting ⊢
          cases asked : set.asked name <;> cases asked' : other.asked name <;>
            simp only [asked, asked'] at setting ⊢
          · exact setting
          · exact setting
          · exact setting
          · exact setting.symm

theorem ok_bind {ε α β : Type} (a : α) (f : α → Except ε β) :
    ((Except.ok a : Except ε α) >>= f) = f a := rfl

theorem raising_ok {α : Type} (a : α) : raising (.ok a) = .ok a := rfl

/-- The rewrite of a text that is read, before and after. -/
theorem advance_selecting {row : StoredConfig} {set : SetVerifiers} {current after : AppConfig}
    (stored : w.stored = some row) (known : unknown set = [])
    (read : Config.parse safeLoad row.yaml = .ok current)
    (confirmed : Config.parse safeLoad
      (withVerifiers row.yaml (wanted set current.verification.blocking)) = .ok after)
    (process : Nat) (principal : Principal) (now : Nat) :
    advance safeLoad w ⟨process, principal, now, .selecting set⟩ =
      (w, ⟨process, principal, now, .updating set row.yaml
        (withVerifiers row.yaml (wanted set current.verification.blocking))
        after.verification⟩) := by
  have ready : rewrite safeLoad w set = .ok (.updating set row.yaml
      (withVerifiers row.yaml (wanted set current.verification.blocking))
      after.verification) := by
    have named : checkNames set = .ok () := if_pos known
    rw [rewrite, named, ok_bind, stored]
    dsimp only
    rw [read, raising_ok, ok_bind, confirmed, raising_ok, ok_bind]
    rfl
  unfold advance
  dsimp only
  rw [ready]

/-- A text that declares the control point of the registry. -/
theorem advance_storing {row : AppRows} {yaml : String} {parsed : AppConfig}
    (found : w.rows = some row) (read : Config.parse safeLoad yaml = .ok parsed)
    (declared : parsed.integrationModel = row.registered.integrationModel)
    (process : Nat) (principal : Principal) (now : Nat) :
    advance safeLoad w ⟨process, principal, now, .storing ⟨yaml⟩⟩ =
      (w, ⟨process, principal, now, .upserting yaml parsed⟩) := by
  have checked : checkConfig safeLoad w ⟨yaml⟩ = .ok (.upserting yaml parsed) := by
    have parses : parseBody safeLoad ⟨yaml⟩ = .ok parsed := by rw [parseBody, read]
    rw [checkConfig, parses, ok_bind, found]
    exact if_neg fun other => other declared
  unfold advance
  dsimp only
  rw [checked]

/-! ## A shop -/

def entry (key : String) (value : Value) : Value × Value := (.str key, value)

def shopScalars : List (List Char × Value) := [
  ("true".toList, .bool true), ("false".toList, .bool false), ("1".toList, .int 1),
  ("shop".toList, .str "shop"), ("gated_merge".toList, .str "gated_merge"),
  ("python".toList, .str "python"), ("[pytest]".toList, .list [.str "pytest"]),
  ("[\x7bname: shop, provider: github, org: acme, repo: shop\x7d]".toList,
    .list [.dict [entry "name" (.str "shop"), entry "provider" (.str "github"),
      entry "org" (.str "acme"), entry "repo" (.str "shop")]])]

def shopScalar (cs : List Char) : Option Value := shopScalars.lookup cs

def shopLoad : String → Except String Value := Yaml.load shopScalar

theorem shop_rules : Yaml.Rules shopLoad := Yaml.load_rules rfl rfl

def shopFront : List (List Char) := [
  "version: 1".toList,
  "app:".toList,
  "  name: shop".toList,
  "workspace:".toList,
  "  repos: [\x7bname: shop, provider: github, org: acme, repo: shop\x7d]".toList,
  "delivery:".toList,
  "  integration_model: gated_merge".toList]

def shopBack : List (List Char) := [
  "# What the tests run in.".toList,
  "sandbox:".toList,
  "  toolchain_image: python".toList,
  "  test_command: [pytest]".toList]

def frontEntries : List Yaml.Entry := [
  ⟨0, "version".toList, .int 1⟩, ⟨0, "app".toList, .dict [entry "name" (.str "shop")]⟩,
  ⟨0, "workspace".toList, .dict [entry "repos" (.list [.dict [entry "name" (.str "shop"),
    entry "provider" (.str "github"), entry "org" (.str "acme"), entry "repo" (.str "shop")]])]⟩,
  ⟨0, "delivery".toList, .dict [entry "integration_model" (.str "gated_merge")]⟩]

def backEntries : List Yaml.Entry := [
  ⟨0, "sandbox".toList, .dict [entry "toolchain_image" (.str "python"),
    entry "test_command" (.list [.str "pytest"])]⟩]

theorem entries_front : Yaml.entries shopScalar shopFront = some frontEntries := rfl

theorem entries_back : Yaml.entries shopScalar shopBack = some backEntries := rfl

theorem level_back : ∀ e ∈ backEntries.head?, e.indent = 0 := by
  rintro e ⟨⟩
  rfl

theorem entries_block {wanted : List (String × Bool)} (named : Named wanted) :
    Yaml.entries shopScalar (block wanted) =
      some [⟨0, "verification".toList, .dict (verifiers wanted)⟩] := by
  have each := @Yaml.entries_setting shopScalar rfl rfl _ named.words
  have inner := @Yaml.entries_nest shopScalar "verifiers".toList [] _ _ _ (by decide)
    (fun line mem => by cases mem) each (Yaml.mapping_settings named.some_set named.apart)
  have outer := @Yaml.entries_nest shopScalar "verification".toList _ _ _ _ (by decide)
    (fun line mem => (remarks_inline line mem).1) inner rfl
  rw [block_eq]
  refine outer.trans ?_
  simp [verifiers, settings, Yaml.Entry.pair]

def shopLines (mayBlock : String → Bool) : List (List Char) :=
  shopFront ++ (block (setTo mayBlock) ++ shopBack)

def shopText (mayBlock : String → Bool) : String :=
  String.ofList (Lines.unlines (shopLines mayBlock))

theorem whole_around : ∀ line ∈ shopFront ++ shopBack, ∀ c ∈ line,
    Text.isLineBreak c = false := by
  have plain : ∀ line ∈ shopFront ++ shopBack, line.all (Text.isLineBreak · = false) := by
    unfold shopFront shopBack
    repeat rw [String.toList_ofList]
    decide
  intro line mem
  simpa using plain line mem

theorem splitLines_shop (mayBlock : String → Bool) :
    Text.splitLines (shopText mayBlock).toList = shopLines mayBlock := by
  rw [shopText, String.toList_ofList]
  refine Lines.splitLines_unlines fun line mem => ?_
  rcases List.mem_append.mp mem with mem | mem
  · exact whole_around line (List.mem_append_left _ mem)
  · rcases List.mem_append.mp mem with mem | mem
    · exact whole_block (set_to_named mayBlock) line mem
    · exact whole_around line (List.mem_append_right _ mem)

def shopParsed (blocking : List String) : AppConfig where
  name := "shop"
  repos := [{ name := "shop", provider := "github", org := "acme", repo := "shop" }]
  triggers := []
  integrationModel := .gatedMerge
  sandbox := { toolchainImage := "python", testCommand := ["pytest"] }
  toolchainId := "none"
  verification := { blocking }

theorem parse_shop (mayBlock : String → Bool) :
    Config.parse shopLoad (shopText mayBlock) =
      .ok (shopParsed (allVerifiers.filter mayBlock)) := by
  have read := Yaml.entries_append entries_front
    (Yaml.entries_append (entries_block (set_to_named mayBlock)) entries_back level_back) (by
      rintro e ⟨⟩
      rfl)
  have loaded := Yaml.load_eq_ok.mpr ⟨_, (congrArg _ (splitLines_shop mayBlock)).trans read, rfl⟩
  rw [String.ofList_toList] at loaded
  rw [Config.parse, shopLoad, loaded]
  rfl

theorem block_cons (wanted : List (String × Bool)) : ∃ lines, (∀ line ∈ lines, under line) ∧
    block wanted = Yaml.keyLine "verification".toList :: lines := by
  have quiet : ∀ line ∈ remarks, under line := by
    unfold remarks
    repeat rw [String.toList_ofList]
    decide
  refine ⟨_, fun line mem => ?_, block_eq wanted⟩
  rcases List.mem_append.mp mem with mem | mem
  · exact quiet line mem
  · obtain ⟨line, -, rfl⟩ := List.mem_map.mp mem
    rfl

theorem findIdx?_shop (mayBlock : String → Bool) :
    (shopLines mayBlock).findIdx? opens = some shopFront.length := by
  obtain ⟨lines, -, made⟩ := block_cons (setTo mayBlock)
  have shut : shopFront.findIdx? opens = none := by
    unfold shopFront opens
    repeat rw [String.toList_ofList]
    decide
  have first : opens (Yaml.keyLine "verification".toList) = true := by
    unfold opens Yaml.keyLine
    repeat rw [String.toList_ofList]
    decide
  rw [shopLines, List.findIdx?_append, shut, made, List.cons_append, List.findIdx?_cons, first]
  rfl

theorem above_shop (mayBlock : String → Bool) :
    above (shopLines mayBlock) shopFront.length = shopFront := by
  rw [above, shopLines, List.take_left]
  rfl

theorem below_shop (mayBlock : String → Bool) :
    below (shopLines mayBlock) shopFront.length = shopBack := by
  obtain ⟨lines, covered, made⟩ := block_cons (setTo mayBlock)
  rw [below, shopLines, made, ← List.drop_drop, List.drop_left, List.cons_append,
    List.drop_succ_cons, List.drop_zero, List.dropWhile_append_of_pos covered]
  rfl

theorem shop_handled (mayBlock : String → Bool) : Handled shopLoad (shopText mayBlock) := by
  have loads : ∀ {lines : List (List Char)} {es : List Yaml.Entry} {value : Value},
      (∀ line ∈ lines, line ∈ shopFront ++ shopBack) →
      Yaml.entries shopScalar lines = some es → Yaml.mapping es = some value →
      shopLoad (String.ofList (Lines.unlines lines)) = .ok value := by
    intro lines es value among read made
    refine Yaml.load_eq_ok.mpr ⟨es, ?_, made⟩
    rw [Lines.splitLines_unlines fun line mem => whole_around line (among line mem), read]
  intro start found
  rw [splitLines_shop] at found ⊢
  obtain rfl : shopFront.length = start :=
    Option.some.inj ((findIdx?_shop mayBlock).symm.trans found)
  constructor
  · rw [above_shop, loads (fun line mem => List.mem_append_left _ mem) entries_front rfl]
    rfl
  · rw [below_shop]
    unfold shopBack
    repeat rw [String.toList_ofList]
    decide
  · rw [above_shop, below_shop, loads (fun line mem => mem)
      (Yaml.entries_append entries_front entries_back level_back) rfl]
    exact ⟨_, rfl, rfl⟩

/-- One verifier made advisory. -/
def but (mayBlock : String → Bool) (name : String) (other : String) : Bool :=
  mayBlock other && other != name

def advise (name : String) : SetVerifiers where
  blocking := [(name, false)]
  keyed := List.nodup_singleton name

theorem with_verifiers_shop (mayBlock : String → Bool) (name : String) :
    withVerifiers (shopText mayBlock)
        (wanted (advise name) (allVerifiers.filter mayBlock)) =
      shopText (but mayBlock name) := by
  have settings : wanted (advise name) (allVerifiers.filter mayBlock) =
      setTo (but mayBlock name) := by
    refine List.map_congr_left fun other among => ?_
    have contained : (allVerifiers.filter mayBlock).contains other = mayBlock other := by
      rw [Bool.eq_iff_iff, List.contains_iff_mem, List.mem_filter]
      exact and_iff_right among
    rw [SetVerifiers.asked, advise, List.lookup_cons, contained, but, bne]
    cases other == name <;> simp
  rw [withVerifiers, withBlock, splitLines_shop, settings]
  dsimp only
  rw [findIdx?_shop]
  dsimp only
  rw [above_shop, below_shop, List.append_assoc]
  rfl

def ada : Principal := ⟨⟨1⟩, "ada@example.com", .admin⟩

def shopOf (yaml : String) (updatedAt : Nat) : Deployment where
  rows := some {
    registered := ⟨"shop", .gatedMerge⟩
    stored := some ⟨yaml, updatedAt, "ada@example.com"⟩ }

def shop (mayBlock : String → Bool) (updatedAt : Nat) : Deployment :=
  shopOf (shopText mayBlock) updatedAt

/-- A request of the shop's admin. -/
def asks (now : Nat) (stage : Stage) : Edit := ⟨0, ada, now, stage⟩

/-- Where a request stands that has made its rewrite. -/
def rewriting (now : Nat) (mayBlock : String → Bool) (name : String) : Edit :=
  asks now (.updating (advise name) (shopText mayBlock) (shopText (but mayBlock name))
    ⟨allVerifiers.filter (but mayBlock name)⟩)

theorem advance_advise {name : String} (known : name ∈ allVerifiers)
    (mayBlock : String → Bool) (stamp now : Nat) :
    advance shopLoad (shop mayBlock stamp) (asks now (.selecting (advise name))) =
      (shop mayBlock stamp, rewriting now mayBlock name) := by
  have rewritten := with_verifiers_shop mayBlock name
  have named : unknown (advise name) = [] := by simp [unknown, advise, known]
  have moved := advance_selecting (w := shop mayBlock stamp) rfl named (parse_shop mayBlock)
    (by dsimp only [shopParsed]; rw [rewritten]; exact parse_shop (but mayBlock name)) 0 ada now
  dsimp only [shopParsed] at moved
  rw [rewritten] at moved
  exact moved

theorem advance_rewriting (mayBlock mayBlock' : String → Bool) (name : String)
    (stamp now : Nat) :
    ∃ answer, advance shopLoad (shop mayBlock stamp) (rewriting now mayBlock' name) =
      (shop (but mayBlock' name) now, asks now (.answered (.ok answer))) := by
  refine ⟨_, Prod.ext_iff.mpr ⟨?_, rfl⟩⟩
  show (Deployment.forget _ 0) = _
  simp [Deployment.forget, Deployment.setCache, Deployment.update, shop, shopOf, rewriting, asks, ada]

theorem advance_store (mayBlock mayBlock' : String → Bool) (stamp now : Nat) :
    advance shopLoad (shop mayBlock stamp) (asks now (.storing ⟨shopText mayBlock'⟩)) =
      (shop mayBlock stamp, asks now (.upserting (shopText mayBlock')
        (shopParsed (allVerifiers.filter mayBlock')))) :=
  advance_storing rfl (parse_shop mayBlock') rfl 0 ada now

theorem advance_upsert (mayBlock mayBlock' : String → Bool) (stamp now : Nat)
    (parsed : AppConfig) :
    advance shopLoad (shop mayBlock stamp)
        (asks now (.upserting (shopText mayBlock') parsed)) =
      (shop mayBlock' now, asks now (.answered (.ok (.stored parsed.name)))) := by
  refine Prod.ext_iff.mpr ⟨?_, rfl⟩
  show (Deployment.forget _ 0) = _
  simp [Deployment.forget, Deployment.setCache, Deployment.upsert, shop, shopOf, asks, ada]

/-- Every verifier may block. -/
def armed (_ : String) : Bool := true

/-- Both read the text before either of them writes. -/
theorem play_crossed : ∃ answer answer',
    Scene.play (advance shopLoad) [0, 1, 0, 1] ⟨shop armed 1,
      [asks 2 (.selecting (advise "correctness")), asks 3 (.selecting (advise "security"))]⟩ =
    ⟨shop (but armed "security") 3,
      [asks 2 (.answered (.ok answer)), asks 3 (.answered (.ok answer'))]⟩ := by
  obtain ⟨answer, first⟩ := advance_rewriting armed armed "correctness" 1 2
  obtain ⟨answer', second⟩ := advance_rewriting (but armed "correctness") armed "security" 2 3
  refine ⟨answer, answer', ?_⟩
  rw [Scene.play, Scene.turn_of_some (r := asks 2 (.selecting (advise "correctness"))) rfl,
    advance_advise (by decide)]
  rw [Scene.play, Scene.turn_of_some (r := asks 3 (.selecting (advise "security"))) rfl,
    advance_advise (by decide)]
  rw [Scene.play, Scene.turn_of_some (r := rewriting 2 armed "correctness") rfl, first]
  rw [Scene.play, Scene.turn_of_some (r := rewriting 3 armed "security") rfl, second]
  rfl

end KuWarden.Api.Configure
