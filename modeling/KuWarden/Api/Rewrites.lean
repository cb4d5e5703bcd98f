import KuWarden.Api.Configure
import KuWarden.Python.Yaml

/-!
The rewrite of a configuration's verification block.

Where the block of the stored text is one that ends before the next key of its mapping, the
rewritten text is read with the settings that were asked for.
-/
namespace KuWarden.Api.Configure

open Lines Yaml

/-- The block is replaced with the comments over it. What is left of the text then is to be a
mapping that has no verification of its own, and nothing below the block a line of it. -/
structure Replaceable (safeLoad : String → Except String Value) (lines : List (List Char))
    (start : Nat) : Prop where
  whole : (entries? (safeLoad (String.ofList (unlines (above lines start))))).isSome
  resumed : resumes (below lines start)
  other : ∃ rest, entries? (safeLoad (String.ofList
    (unlines (above lines start ++ below lines start)))) = some rest ∧
      rest.get? "verification" = none

/-- The text has no line that opens the block, or one whose block can be replaced. -/
def Handled (safeLoad : String → Except String Value) (yaml : String) : Prop :=
  ∀ start, (Text.splitLines yaml.toList).findIdx? opens = some start →
    Replaceable safeLoad (Text.splitLines yaml.toList) start

/-! ## The block -/

def settings (wanted : List (String × Bool)) : List (List Char × Bool) :=
  wanted.map fun entry => (entry.1.toList, entry.2)

/-- The lines of the block that say what it is for. -/
def remarks : List (List Char) := [
  "  # Which verifiers may stop a change. `false` makes one **advisory**: it still".toList,
  "  # runs, still records its findings, and still reaches the audit trail — it".toList,
  "  # simply cannot abort the run. Managed from the application page.".toList]

theorem setting_eq (name : String) (value : Bool) :
    setting name value = indent (indent (settingLine (name.toList, value))) := by
  simp [setting, settingLine, indent]

theorem block_eq (wanted : List (String × Bool)) :
    block wanted = keyLine "verification".toList :: remarks ++
      (keyLine "verifiers".toList ::
        ((settings wanted).map settingLine).map indent).map indent := by
  simp [block, settings, remarks, keyLine, indent, setting_eq]

/-- The value that the block gives its key. -/
def verifiers (wanted : List (String × Bool)) : Dict :=
  [(.str "verifiers", .dict (wanted.map fun entry => (.str entry.1, .bool entry.2)))]

/-- Settings of different verifiers whose names can be keys. -/
structure Named (wanted : List (String × Bool)) : Prop where
  nonempty : wanted ≠ []
  plain : ∀ entry ∈ wanted, word entry.1.toList
  distinct : (wanted.map Prod.fst).Nodup

variable {safeLoad : String → Except String Value} {wanted : List (String × Bool)}

theorem Named.words (named : Named wanted) : ∀ setting ∈ settings wanted, word setting.1 := by
  intro setting mem
  obtain ⟨entry, among, rfl⟩ := List.mem_map.mp mem
  exact named.plain entry among

theorem Named.apart (named : Named wanted) : ((settings wanted).map Prod.fst).Nodup := by
  have names : (settings wanted).map Prod.fst = (wanted.map Prod.fst).map String.toList := by
    simp [settings]
  rw [names]
  exact named.distinct.map fun _ _ => String.toList_inj.mp

theorem Named.some_set (named : Named wanted) : settings wanted ≠ [] := by
  simpa [settings] using named.nonempty

theorem remarks_inline : ∀ line ∈ remarks, comment line ∧ line.all inline := by
  unfold remarks
  repeat rw [String.toList_ofList]
  decide

theorem settings_shape (named : Named wanted) : ∀ line ∈ (settings wanted).map settingLine,
    (line.head?.any fun c => c = ' ' || c = '_' || ('a' ≤ c && c ≤ 'z')) ∧ line.all inline := by
  intro line mem
  obtain ⟨setting, there, rfl⟩ := List.mem_map.mp mem
  have plain := named.words setting there
  refine ⟨?_, inline_settingLine setting.2 plain⟩
  obtain ⟨c, cs, spelled, -⟩ := word_cons plain
  have letter := word_plain plain c (spelled ▸ List.mem_cons_self)
  rw [settingLine, spelled]
  rcases letter with rfl | letter
  · rfl
  · simp [letter]

theorem verifiers_shape (named : Named wanted) :
    ∀ line ∈ keyLine "verifiers".toList :: ((settings wanted).map settingLine).map indent,
      (line.head?.any fun c => c = ' ' || c = '_' || ('a' ≤ c && c ≤ 'z')) ∧ line.all inline := by
  intro line mem
  rcases List.mem_cons.mp mem with rfl | mem
  · rw [keyLine, String.toList_ofList]
    decide
  · obtain ⟨line, among, rfl⟩ := List.mem_map.mp mem
    exact ⟨rfl, (settings_shape named line among).2⟩

theorem whole_block (named : Named wanted) :
    ∀ line ∈ block wanted, ∀ c ∈ line, Text.isLineBreak c = false := by
  intro line mem
  refine whole_of_inline ?_
  rw [block_eq] at mem
  rcases List.mem_append.mp mem with mem | mem
  · rcases List.mem_cons.mp mem with rfl | mem
    · rw [keyLine, String.toList_ofList]
      decide
    · exact (remarks_inline line mem).2
  · obtain ⟨line, among, rfl⟩ := List.mem_map.mp mem
    exact (verifiers_shape named line among).2

theorem load_block (rules : Rules safeLoad) (named : Named wanted) :
    safeLoad (String.ofList (unlines (block wanted))) =
      .ok (.dict [(.str (String.ofList "verification".toList), .dict (verifiers wanted))]) := by
  have each : safeLoad (String.ofList (unlines ((settings wanted).map settingLine))) =
      .ok (.dict (wanted.map fun entry => (.str entry.1, .bool entry.2))) := by
    rw [rules.settings named.some_set named.words named.apart]
    simp [settings]
  have inner := @Rules.nests _ rules "verifiers".toList [] _ _ (by decide)
    (fun line mem => by cases mem) (settings_shape named) each
  rw [block_eq]
  exact rules.nests (by decide) remarks_inline (verifiers_shape named) inner

theorem verification_of_handled (rules : Rules safeLoad) (named : Named wanted) {yaml : String}
    {before doc : Dict} (read : safeLoad yaml = .ok (.dict before))
    (handled : Handled safeLoad yaml)
    (rewritten : safeLoad (withVerifiers yaml wanted) = .ok (.dict doc)) :
    doc.get? "verification" = some (.dict (verifiers wanted)) := by
  have block_read := load_block rules named
  have whole := whole_block named
  obtain ⟨lines, opened⟩ : ∃ lines, block wanted = keyLine "verification".toList :: lines :=
    ⟨_, block_eq wanted⟩
  rw [opened] at block_read whole
  have lines_whole := fun line mem => whole line (List.mem_cons_of_mem _ mem)
  rw [withVerifiers, withBlock, opened] at rewritten
  dsimp only at rewritten
  split at rewritten
  next absent =>
      -- The block is appended, with an empty line between.
      obtain ⟨kept, m, left, text, unfed⟩ := exists_trail yaml.toList
      have stored : safeLoad (String.ofList (kept ++ List.replicate m '\n')) =
          .ok (.dict before) := by
        rw [← text, String.ofList_toList, read]
      obtain ⟨before', trailed⟩ := rules.trails m 2 unfed stored
      have ends : Yaml.Closed (kept ++ List.replicate 2 '\n') := by
        intro c last
        rw [List.replicate_succ', ← List.append_assoc, List.getLast?_concat] at last
        exact (Option.some.inj last).symm
      have appended : kept ++ '\n' :: '\n' :: unlines (keyLine "verification".toList :: lines) =
          kept ++ List.replicate 2 '\n' ++
            unlines (keyLine "verification".toList :: lines ++ []) := by
        rw [List.append_nil, List.append_assoc]
        rfl
      rw [left, appended] at rewritten
      refine @Rules.joins _ rules _ _ _ _ _ before' _ ends (by decide) ?_ block_read
        (by rw [trailed]; rfl)
        ?_ rfl (.inl rfl) rewritten
      · rw [List.append_nil]
        exact lines_whole
      · rw [show unlines [] = [] from rfl, List.append_nil, trailed]
        rfl
  next start found =>
      obtain ⟨above_whole, resumed, rest, other, lacks⟩ := handled start found
      have below_whole : ∀ line ∈ below (Text.splitLines yaml.toList) start,
          ∀ c ∈ line, Text.isLineBreak c = false := by
        intro line mem
        exact whole_of_mem_splitLines
          (List.mem_of_mem_drop ((List.dropWhile_sublist _).mem mem))
      rw [unlines_append] at other
      rw [List.append_assoc, unlines_append] at rewritten
      refine rules.joins (closed_unlines _) (by decide) ?_ block_read above_whole other resumed
        (.inr lacks) rewritten
      intro line mem
      rcases List.mem_append.mp mem with mem | mem
      · exact lines_whole line mem
      · exact below_whole line mem

/-! ## What is set -/

theorem allVerifiers_words : ∀ name ∈ allVerifiers, word name.toList := by
  unfold allVerifiers
  decide

/-- The settings of all four verifiers. -/
def setTo (mayBlock : String → Bool) : List (String × Bool) :=
  allVerifiers.map fun name => (name, mayBlock name)

theorem set_to_named (mayBlock : String → Bool) : Named (setTo mayBlock) where
  nonempty := by simp [setTo, allVerifiers]
  plain := by
    intro entry mem
    obtain ⟨name, among, rfl⟩ := List.mem_map.mp mem
    exact allVerifiers_words name among
  distinct := by
    rw [setTo, List.map_map]
    exact (by decide : allVerifiers.Nodup).map fun _ _ same => same

theorem parse_ok {yaml : String} {config : AppConfig}
    (parsed : Config.parse safeLoad yaml = .ok config) :
    ∃ raw, safeLoad yaml = .ok (.dict raw) ∧ Config.parseDict raw = .ok config := by
  unfold Config.parse at parsed
  split at parsed
  · cases parsed
  · next raw read => exact ⟨raw, read, parsed⟩
  · cases parsed

theorem getD_setting {names : List String} {f : String → Bool} {name : String} {default : Value}
    (mem : name ∈ names) :
    Dict.getD (names.map fun n => (.str n, .bool (f n))) name default = .bool (f name) := by
  induction names with
  | nil => cases mem
  | cons first rest ih =>
      by_cases same : first = name
      · subst same
        simp [Dict.getD, Dict.get?, Value.isStr]
      · have later := ih ((List.mem_cons.mp mem).resolve_left (Ne.symm same))
        simpa [Dict.getD, Dict.get?, Value.isStr, same] using later

/-- The settings of a rewritten text are the ones that were asked for, and those that the
request left out as they were. -/
theorem asked_of_handled (rules : Rules safeLoad) {body : SetVerifiers} {yaml : String}
    {current after : AppConfig} (read : Config.parse safeLoad yaml = .ok current)
    (handled : Handled safeLoad yaml)
    (confirmed : Config.parse safeLoad
      (withVerifiers yaml (Configure.wanted body current.verification.blocking)) = .ok after) :
    ∀ name ∈ allVerifiers, after.verification.blocking.contains name =
      (body.asked name).getD (current.verification.blocking.contains name) := by
  obtain ⟨before, loaded, -⟩ := parse_ok read
  obtain ⟨doc, rewritten, accepted⟩ := parse_ok confirmed
  have said := verification_of_handled rules (set_to_named _) loaded handled rewritten
  intro name mem
  have setting : Config.blocking doc name =
      (body.asked name).getD (current.verification.blocking.contains name) := by
    rw [Config.blocking, Dict.get, said]
    show (Dict.getD (List.map _ (setTo _)) name (.bool true)).truthy = _
    rw [setTo, List.map_map]
    exact congrArg Value.truthy (getD_setting mem)
  rw [Config.parseDict_blocking accepted, ← setting, Bool.eq_iff_iff, List.contains_iff_mem,
    List.mem_filter]
  exact and_iff_right mem

end KuWarden.Api.Configure
