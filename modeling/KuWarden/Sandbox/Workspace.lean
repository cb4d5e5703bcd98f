import KuWarden.Python.Lines
import KuWarden.Nodes.Coder
import KuWarden.Nodes.Push
import KuWarden.Flows.Passage
import KuWarden.Flows.Play

/-!
Reading a change back out of the workspace: git's numstat, and the contents that the Coder
makes its diff of.

What git prints is a parameter. It is relied on to print a row for each changed path, and to
count the lines of the two contents that a longest common part leaves over.
-/
namespace KuWarden.Workspace

open Process

/-- `added.isdigit()`, for the texts that git prints. -/
def isdigit (cs : List Char) : Bool := !cs.isEmpty && cs.all Char.isDigit

/-- A count; a binary file has `-` for it. -/
def count (cs : List Char) : Nat := if isdigit cs then Nat.ofDigitChars 10 cs 0 else 0

/-- One line of the output, unless it has other than three parts. -/
def changeOf (line : List Char) : Option FileChange :=
  match Text.splitChars '\t' line with
  | [added, removed, path] => some ⟨String.ofList path, count added, count removed⟩
  | _ => none

/-- `changed_files`, from what `git diff --numstat --cached HEAD` prints. -/
def changedFiles (output : String) : List FileChange :=
  (Text.splitLines output.toList).filterMap changeOf

/-- `read_changes`: the contents under the changed paths, `None` where there is no file. -/
def readChanges (output : String) (disk : String → Option Bytes) : List (String × Option String) :=
  let paths := ((changedFiles output).map FileChange.path).eraseDups
  paths.map fun path => (path, (disk path).map fun bytes => String.ofList (Lines.readText bytes))

/-! ## What git prints -/

/-- A changed path as git prints it, and the contents that it compares; none where there is no
file. -/
structure Change where
  path : String
  before : Bytes
  after : Bytes

/-- What git counts for two contents; nothing for binary ones. -/
abbrev Numstat := Bytes → Bytes → Option (Nat × Nat)

def Change.row (numstat : Numstat) (change : Change) : String :=
  match numstat change.before change.after with
  | some (added, removed) =>
      Text.ofNat added ++ "\t" ++ Text.ofNat removed ++ "\t" ++ change.path
  | none => "-\t-\t" ++ change.path

def output (numstat : Numstat) (changes : List Change) : String :=
  String.ofList (changes.flatMap fun change => (change.row numstat).toList ++ ['\n'])

/-- The counts of a text are of the lines that are left over beside those that both contents
have, in order; there is nothing left over of a content beside itself. -/
structure Counts (numstat : Numstat) : Prop where
  left_over : ∀ before after added removed, numstat before after = some (added, removed) →
    ∃ kept : List Bytes, kept.Sublist (Lines.ofBytes before) ∧ kept.Sublist (Lines.ofBytes after) ∧
      added + kept.length = (Lines.ofBytes after).length ∧
      removed + kept.length = (Lines.ofBytes before).length
  same : ∀ content added removed, numstat content content = some (added, removed) →
    added = 0 ∧ removed = 0

/-- A row for each path, which is quoted where it holds a tab or a line break. -/
structure Printed (changes : List Change) : Prop where
  distinct : (changes.map Change.path).Nodup
  plain : ∀ change ∈ changes, ∀ c ∈ change.path.toList, c ≠ '\t' ∧ Text.isLineBreak c = false

def Change.counted (numstat : Numstat) (change : Change) : FileChange where
  path := change.path
  added := ((numstat change.before change.after).map Prod.fst).getD 0
  removed := ((numstat change.before change.after).map Prod.snd).getD 0

/-- How many lines the Coder counts under a path; none where it finds no file. -/
def linesRead (disk : String → Option Bytes) (path : String) : Nat :=
  ((disk path).map Lines.read).getD 0

/-- Where the Coder's count of a path is git's. A binary file must be empty or gone; of a text
that is read, all lines must be new and be lines to Python and git alike; and where nothing is
read, because the path is gone or is printed otherwise than it is called, nothing may have
changed. Something else than git compares must have as many lines as git adds. -/
def Fits (numstat : Numstat) (disk : String → Option Bytes) (change : Change) : Prop :=
  match numstat change.before change.after, disk change.path with
  | none, read => ∀ content, read = some content → content = []
  | some _, none => change.before = change.after
  | some (_, removed), some content =>
      if content = change.after then
        change.before = [] ∧ Lines.read content = (Lines.ofBytes content).length
      else removed = 0 ∧ (Lines.ofBytes change.after).length =
        Lines.read content + (Lines.ofBytes change.before).length

/-! ## What is read back of git's output -/

section
variable {numstat : Numstat} {changes : List Change} {disk : String → Option Bytes}

theorem count_ofNat (n : Nat) : count (Text.ofNat n).toList = n := by
  have digits : isdigit (Text.ofNat n).toList = true := by
    have filled : (Text.ofNat n).toList ≠ [] := by
      rw [Text.toList_ofNat]
      exact Nat.toDigits_ne_nil
    simp only [isdigit, Bool.and_eq_true, Bool.not_eq_true', List.isEmpty_eq_false_iff,
      List.all_eq_true]
    exact ⟨filled, fun c mem => Text.isDigit_ofNat mem⟩
  rw [count, if_pos digits, Text.toList_ofNat, Nat.ofDigitChars_ten_toDigits]

theorem plain_digit {c : Char} (digit : c.isDigit = true) :
    c ≠ '\t' ∧ Text.isLineBreak c = false := by
  constructor
  · rintro rfl
    cases digit
  · simp only [Char.isDigit, Bool.and_eq_true, decide_eq_true_eq, ge_iff_le,
      UInt32.le_iff_toNat_le] at digit
    have low : 48 ≤ c.toNat := digit.1
    have high : c.toNat ≤ 57 := digit.2
    simp [Text.isLineBreak]
    omega

theorem plain_row {change : Change}
    (plain : ∀ c ∈ change.path.toList, c ≠ '\t' ∧ Text.isLineBreak c = false) :
    ∀ c ∈ (change.row numstat).toList, Text.isLineBreak c = false := by
  have tab : Text.isLineBreak '\t' = false := rfl
  have digits : ∀ n, ∀ c ∈ (Text.ofNat n).toList, Text.isLineBreak c = false :=
    fun n c mem => (plain_digit (Text.isDigit_ofNat mem)).2
  intro c mem
  unfold Change.row at mem
  split at mem
  · simp only [String.toList_append, List.mem_append] at mem
    rcases mem with (((mem | mem) | mem) | mem) | mem
    · exact digits _ c mem
    · exact List.mem_singleton.mp mem ▸ tab
    · exact digits _ c mem
    · exact List.mem_singleton.mp mem ▸ tab
    · exact (plain c mem).2
  · simp only [String.toList_append, List.mem_append] at mem
    rcases mem with mem | mem
    · revert c
      simp [Text.isLineBreak]
    · exact (plain c mem).2

/-- The parts of a line that git prints. -/
theorem splitChars_row {added removed path : List Char} (added_free : '\t' ∉ added)
    (removed_free : '\t' ∉ removed) (path_free : '\t' ∉ path) :
    Text.splitChars '\t' (added ++ '\t' :: (removed ++ '\t' :: path)) = [added, removed, path] := by
  rw [Text.splitChars_append added_free, Text.splitChars_append removed_free,
    Text.splitChars_free path_free]

theorem changeOf_row {change : Change} (plain : ∀ c ∈ change.path.toList, c ≠ '\t') :
    changeOf (change.row numstat).toList = some (change.counted numstat) := by
  have path_free : '\t' ∉ change.path.toList := fun mem => plain _ mem rfl
  have free : ∀ n, '\t' ∉ (Text.ofNat n).toList :=
    fun n mem => (plain_digit (Text.isDigit_ofNat mem)).1 rfl
  unfold Change.row
  split
  next added removed counts =>
    have parts := splitChars_row (free added) (free removed) path_free
    have line : (Text.ofNat added ++ "\t" ++ Text.ofNat removed ++ "\t" ++ change.path).toList =
        (Text.ofNat added).toList ++ '\t' :: ((Text.ofNat removed).toList ++
          '\t' :: change.path.toList) := by
      simp
    rw [changeOf, line, parts]
    simp [Change.counted, counts, count_ofNat]
  next binary =>
    have parts := splitChars_row (show '\t' ∉ ['-'] by decide) (show '\t' ∉ ['-'] by decide)
      path_free
    have line : ("-\t-\t" ++ change.path).toList =
        ['-'] ++ '\t' :: (['-'] ++ '\t' :: change.path.toList) := by
      simp
    rw [changeOf, line, parts]
    simp [Change.counted, binary, count, isdigit]

theorem changed_files_output (printed : Printed changes) :
    changedFiles (output numstat changes) = changes.map (Change.counted numstat) := by
  have lines : Text.splitLines (output numstat changes).toList =
      changes.map fun change => (change.row numstat).toList := by
    rw [output, String.toList_ofList]
    exact Lines.splitLines_flatMap fun change mem => plain_row (printed.plain change mem)
  rw [changedFiles, lines, List.filterMap_map]
  rw [← List.filterMap_eq_map]
  exact List.filterMap_congr fun change mem =>
    changeOf_row fun c there => (printed.plain change mem c there).1

theorem eraseDups_of_nodup {α : Type} [DecidableEq α] {l : List α} (distinct : l.Nodup) :
    l.eraseDups = l := by
  induction l with
  | nil => rfl
  | cons a as ih =>
      obtain ⟨new, rest⟩ := List.nodup_cons.mp distinct
      have apart : (as.filter fun b => !b == a) = as := by
        refine List.filter_eq_self.mpr fun b mem => ?_
        have other : b ≠ a := fun same => new (same ▸ mem)
        simpa using other
      rw [List.eraseDups_cons, apart, ih rest]

theorem files_read (printed : Printed changes) :
    (Coder.diffOf (readChanges (output numstat changes) disk)).files =
      changes.map fun change => ⟨change.path, linesRead disk change.path, 0⟩ := by
  have paths : ((changedFiles (output numstat changes)).map FileChange.path).eraseDups =
      changes.map Change.path := by
    rw [changed_files_output printed, List.map_map]
    exact eraseDups_of_nodup printed.distinct
  rw [readChanges, paths, Coder.diffOf]
  simp only [List.map_map]
  refine List.map_congr_left fun change _ => ?_
  simp only [Function.comp_apply, linesRead]
  cases disk change.path with
  | none => rfl
  | some content => simp [Lines.lineCount_read_text]

/-- Nothing is counted of a change exactly when its contents are the same. -/
theorem counts_zero (counts : Counts numstat) {before after : Bytes} {added removed : Nat}
    (counted : numstat before after = some (added, removed)) :
    added = 0 ∧ removed = 0 ↔ before = after := by
  constructor
  · rintro ⟨rfl, rfl⟩
    obtain ⟨kept, of_before, of_after, all_after, all_before⟩ :=
      counts.left_over before after 0 0 counted
    have same_before : kept = Lines.ofBytes before := of_before.eq_of_length (by omega)
    have same_after : kept = Lines.ofBytes after := of_after.eq_of_length (by omega)
    exact Lines.ofBytes_inj (same_before.symm.trans same_after)
  · rintro rfl
    exact counts.same before added removed counted

/-- Of a text that is read as git compares it, every line is counted as added exactly when none
was there before and Python sees the lines that git sees. -/
theorem counts_read (counts : Counts numstat) {before after : Bytes} {added removed : Nat}
    (counted : numstat before after = some (added, removed)) :
    added = Lines.read after ∧ removed = 0 ↔
      before = [] ∧ Lines.read after = (Lines.ofBytes after).length := by
  obtain ⟨kept, of_before, of_after, all_after, all_before⟩ :=
    counts.left_over before after added removed counted
  have least := Lines.length_ofBytes_le after
  constructor
  · rintro ⟨rfl, rfl⟩
    have none_before : (Lines.ofBytes before).length = 0 := by omega
    exact ⟨Lines.ofBytes_inj (List.eq_nil_of_length_eq_zero none_before), by omega⟩
  · rintro ⟨rfl, same⟩
    have none_kept : kept.length = 0 := of_before.length_le.antisymm (Nat.zero_le _)
    have none_before : (Lines.ofBytes []).length = 0 := rfl
    omega

theorem counted_iff (counts : Counts numstat) {change : Change} :
    (⟨change.path, linesRead disk change.path, 0⟩ : FileChange) = change.counted numstat ↔
      Fits numstat disk change := by
  unfold Fits Change.counted linesRead
  rw [FileChange.mk.injEq]
  cases counted : numstat change.before change.after with
  | none =>
      cases there : disk change.path with
      | none => simp
      | some content => simp [Lines.read_eq_zero]
  | some found =>
      obtain ⟨added, removed⟩ := found
      cases there : disk change.path with
      | none => simp [← counts_zero counts counted, eq_comm]
      | some content =>
          simp only [Option.map_some, Option.getD_some, true_and]
          split
          next own =>
            subst own
            rw [← counts_read counts counted]
            exact and_congr eq_comm eq_comm
          next other =>
            obtain ⟨kept, -, -, all_after, all_before⟩ :=
              counts.left_over change.before change.after added removed counted
            omega

/-! ## What the Coder puts on the state, and the flow reports -/

variable {W Lbl : Type} {adapters : Adapters W Lbl} {ctx : NodeContext}

/-- What was learned of a workspace is known once it is gone. -/
theorem withWorkspace_learns {α : Type} {Q : α → History AdapterOp AdapterRep Lbl → Prop}
    {files : List (String × Bytes)} {body : WorkspaceRef → Node α}
    (past : ∀ a h h', Q a h → h <+: h' → Q a h')
    (learns : ∀ workspace s w h,
      (body workspace).ensures adapters.system (fun a _ _ h' => Q a h') s w h)
    (s : FlowState) (w : W) (h : History AdapterOp AdapterRep Lbl) :
    (Node.withWorkspace files body).ensures adapters.system (fun a _ _ h' => Q a h') s w h := by
  refine Task.ensures_then fun workspace s w h => ?_
  refine Task.ensures_bind (Task.ensures_attempt (learns workspace s w h)) ?_
  rintro outcome s₁ w₁ h₁ learned
  refine Task.ensures_bind (Task.ensures_past (Task.ensures_trivial _)) ?_
  rintro _ s₂ w₂ h₂ ⟨-, later⟩
  cases outcome with
  | error e => exact Task.ensures_raise
  | ok a => exact Task.ensures_pure (past a h₁ h₂ (learned a rfl) later)

theorem coder_diff {s : FlowState} {w : W} {h : History AdapterOp AdapterRep Lbl} :
    (Coder.coder ctx).ensures adapters.system (fun _ s' _ h' => ∃ workspace changed,
      .reply (.readChanges workspace) (.ok changed) ∈ h' ∧
        s'.diff = some (Coder.diffOf changed)) s w h := by
  unfold Coder.coder
  dsimp only
  split
  next llm _ =>
    split
    case' isTrue => refine Task.ensures_then fun _ s w h => ?_
    all_goals
      refine Task.ensures_then fun settings s w h => Task.ensures_then fun repo s w h =>
        Task.ensures_then fun scm s w h => Task.ensures_then fun base s w h =>
        Task.ensures_then fun _ s w h => Task.ensures_then fun tree s w h =>
        Task.ensures_then fun _ s w h => Task.ensures_then fun _ s w h =>
        Task.ensures_then fun selected s w h => ?_
      refine Task.ensures_bind (withWorkspace_learns (Q := fun a h => ∃ workspace,
        .reply (.readChanges workspace) (.ok a.2) ∈ h) ?_ ?_ s w h) ?_
      · rintro a h h' ⟨workspace, answered⟩ past
        exact ⟨workspace, past.subset answered⟩
      · intro workspace s w h
        refine Task.ensures_then fun log s w h => Task.ensures_bind
          (R := fun changed _ _ h => .reply (.readChanges workspace) (.ok changed) ∈ h)
          (Node.ensures_ask fun _ _ _ => List.mem_concat_self) ?_
        exact fun changed s w h answered => Task.ensures_pure ⟨workspace, answered⟩
      · rintro ⟨log, changed⟩ s w h ⟨workspace, answered⟩
        exact Task.ensures_update_bind.mpr
          (Task.ensures_update ⟨workspace, changed, answered, rfl⟩)
  next => exact Task.ensures_raise

theorem push_diff {s : FlowState} {w : W} {h : History AdapterOp AdapterRep Lbl} :
    (Push.push ctx).ensures adapters.system (fun _ s' _ _ => s'.diff = s.diff) s w h := by
  refine Node.Leaves.ensures (π := FlowState.diff) ?_ s w h
  exact Node.leaves_bind Node.leaves_read fun _ => Node.leaves_bind Node.leaves_ofExcept fun _ =>
    Node.leaves_bind Node.leaves_ofExcept fun _ => Node.leaves_bind Node.leaves_ofExcept fun _ =>
    Node.leaves_bind Node.leaves_ask fun _ => Node.leaves_update fun _ => rfl

variable (adapters) in
/-- In a pass whose Push returned `state`, the event and the index are told of these files. -/
def Reported (state : FlowState) (files : List FileChange) : Prop :=
  ∀ worker attempt obj f w c,
    (Flow.system adapters worker).Reaches (.launch (Flow.pass attempt obj f) w []) c →
    (∀ x ∈ Flow.executions c.history, x.nodeId = "push" → x.returned = state) →
    ∀ op told, .call op ∈ c.history → Flow.filesOf op = some told → told = files

theorem reported_diff {s : FlowState} {diff : Diff} (carries : s.diff = some diff) :
    Reported adapters s diff.files := by
  intro worker attempt obj f w c run returned op told mem names
  have met : CallsMeet Flow.Reports c.history :=
    wp_invariant (Flow.pass_reports f w [] (callsMeet_nil _)) run
  obtain ⟨before, after, whole⟩ := List.append_of_mem mem
  obtain ⟨x, ran, push, rfl⟩ := met before op after whole told names
  have mem : x ∈ Flow.executions c.history := by
    rw [whole, Flow.executions_append, List.mem_append]
    exact .inl ran
  rw [returned x mem push, carries]
  rfl

/-- The counts that the Coder puts on the state, that Push hands on and that the pass reports are
git's exactly when they fit at every changed path. -/
theorem diff_counts_iff (counts : Counts numstat) (printed : Printed changes)
    {s s' s'' : FlowState} {w w' : W} {ctx' : NodeContext}
    {c c' : Config FlowState W AdapterOp AdapterRep Lbl (Except PyError Unit)}
    (run : adapters.system.Reaches (.launch (Coder.coder ctx s) w []) c)
    (done : c.proc = .done s' (.ok ()))
    (answered : ∀ workspace changed, .reply (.readChanges workspace) (.ok changed) ∈ c.history →
      changed = readChanges (output numstat changes) disk)
    (pushing : adapters.system.Reaches (.launch (Push.push ctx' s') w' []) c')
    (pushed : c'.proc = .done s'' (.ok ())) :
    ∃ diff, s'.diff = some diff ∧ s''.diff = some diff ∧ Reported adapters s'' diff.files ∧
      (diff.files = changedFiles (output numstat changes) ↔
        ∀ change ∈ changes, Fits numstat disk change) := by
  obtain ⟨workspace, changed, replied, same⟩ := Task.ensures_sound coder_diff run done
  obtain rfl := answered workspace changed replied
  have handed : s''.diff = s'.diff := Task.ensures_sound push_diff pushing pushed
  refine ⟨_, same, handed.trans same, reported_diff (handed.trans same), ?_⟩
  rw [files_read printed, changed_files_output printed, List.map_inj_left]
  exact forall₂_congr fun change _ => counted_iff counts

end

/-! ## A new file, and a line that is rewritten -/

/-- The lines that two contents begin with. -/
def shared : List Bytes → List Bytes → List Bytes
  | a :: as, b :: bs => if a = b then a :: shared as bs else []
  | _, _ => []

theorem shared_sublist : ∀ as bs : List Bytes,
    (shared as bs).Sublist as ∧ (shared as bs).Sublist bs
  | [], _ => ⟨List.nil_sublist _, List.nil_sublist _⟩
  | _ :: _, [] => ⟨List.nil_sublist _, List.nil_sublist _⟩
  | a :: as, b :: bs => by
      obtain ⟨left, right⟩ := shared_sublist as bs
      rw [shared]
      split
      next same => exact ⟨left.cons_cons a, same ▸ right.cons_cons a⟩
      next => exact ⟨List.nil_sublist _, List.nil_sublist _⟩

theorem shared_self (as : List Bytes) : shared as as = as := by
  induction as with
  | nil => rfl
  | cons a as ih => simp [shared, ih]

/-- Counts of what follows the lines that two contents begin with; a file with a zero byte is
binary. -/
def numstatShared (before after : Bytes) : Option (Nat × Nat) :=
  if (0 : UInt8) ∈ before ++ after then none
  else
    let kept := (shared (Lines.ofBytes before) (Lines.ofBytes after)).length
    some ((Lines.ofBytes after).length - kept, (Lines.ofBytes before).length - kept)

theorem counts_shared : Counts numstatShared where
  left_over := by
    intro before after added removed counted
    obtain ⟨of_before, of_after⟩ := shared_sublist (Lines.ofBytes before) (Lines.ofBytes after)
    have := of_before.length_le
    have := of_after.length_le
    unfold numstatShared at counted
    split at counted
    · cases counted
    · cases counted
      exact ⟨_, of_before, of_after, by omega, by omega⟩
  same := by
    intro content added removed counted
    unfold numstatShared at counted
    split at counted
    · cases counted
    · cases counted
      simp [shared_self]

/-- `sort.py`, with these contents before and after. -/
def sorting (before after : Bytes) : List Change := [⟨"sort.py", before, after⟩]

theorem printed_sorting (before after : Bytes) : Printed (sorting before after) where
  distinct := List.nodup_singleton _
  plain := by
    intro change mem
    obtain rfl := List.mem_singleton.mp mem
    show ∀ c ∈ "sort.py".toList, c ≠ '\t' ∧ Text.isLineBreak c = false
    simp [Text.isLineBreak]

def readBack (before after : Bytes) : (op : AdapterOp) → AdapterRep op
  | .readChanges _ => .ok (readChanges (output numstatShared (sorting before after))
      fun _ => some after)
  | op => Flow.oblige op

def writer : NodeContext := ⟨Flow.shopConfig, Flow.plainWorker.reading, "", true⟩

theorem readBack_answered {before after : Bytes} {s : FlowState}
    {c : Config FlowState Unit AdapterOp AdapterRep Empty (Except PyError Unit)}
    (run : (Flow.answering (readBack before after)).system.Reaches
      (.launch (Coder.coder writer s) () []) c) (workspace : WorkspaceRef)
    (changed : List (String × Option String))
    (mem : .reply (.readChanges workspace) (.ok changed) ∈ c.history) :
    changed = readChanges (output numstatShared (sorting before after)) fun _ => some after :=
  Except.ok.inj (Flow.answering_replied run mem)

def delivers (before after : Bytes) : Bool :=
  match Flow.returned (Flow.played (readBack before after) (Coder.coder writer) default) with
  | some s => (Flow.returned (Flow.played (readBack before after) (Push.push writer) s)).isSome
  | none => false

theorem delivered {before after : Bytes} (delivers : delivers before after = true) :
    ∃ c s' c' s'', (Flow.answering (readBack before after)).system.Reaches
        (.launch (Coder.coder writer default) () []) c ∧ c.proc = .done s' (.ok ()) ∧
      (Flow.answering (readBack before after)).system.Reaches
        (.launch (Push.push writer s') () []) c' ∧ c'.proc = .done s'' (.ok ()) := by
  unfold Workspace.delivers at delivers
  split at delivers
  next s ceased =>
    obtain ⟨s'', ceased'⟩ := Option.isSome_iff_exists.mp delivers
    exact ⟨_, s, _, s'', Flow.played_reaches _ _ _, Flow.done_of_returned ceased,
      Flow.played_reaches _ _ _, Flow.done_of_returned ceased'⟩
  next => cases delivers

/-- Two lines of a new file. -/
theorem diff_counts_iff_new : ∃ c s' c' s'',
    (Flow.answering (readBack [] [97, 10, 98, 10])).system.Reaches
        (.launch (Coder.coder writer default) () []) c ∧ c.proc = .done s' (.ok ()) ∧
      (Flow.answering (readBack [] [97, 10, 98, 10])).system.Reaches
        (.launch (Push.push writer s') () []) c' ∧ c'.proc = .done s'' (.ok ()) ∧
      ∃ diff, s'.diff = some diff ∧ s''.diff = some diff ∧
        Reported (Flow.answering (readBack [] [97, 10, 98, 10])) s'' diff.files ∧
        (diff.files = changedFiles (output numstatShared (sorting [] [97, 10, 98, 10])) ↔
          ∀ change ∈ sorting [] [97, 10, 98, 10],
            Fits numstatShared (fun _ => some [97, 10, 98, 10]) change) := by
  obtain ⟨c, s', c', s'', run, done, pushing, pushed⟩ :=
    delivered (by decide +kernel : delivers [] [97, 10, 98, 10] = true)
  exact ⟨c, s', c', s'', run, done, pushing, pushed, diff_counts_iff counts_shared
    (printed_sorting _ _) run done (readBack_answered run) pushing pushed⟩

/-- One of two lines is rewritten; the Coder counts both as added. -/
theorem diff_counts_rewritten : ∃ c s' diff,
    (Flow.answering (readBack [97, 10, 98, 10] [97, 10, 99, 10])).system.Reaches
        (.launch (Coder.coder writer default) () []) c ∧
      c.proc = .done s' (.ok ()) ∧ s'.diff = some diff ∧
      diff.files = [⟨"sort.py", 2, 0⟩] ∧
      changedFiles (output numstatShared (sorting [97, 10, 98, 10] [97, 10, 99, 10])) =
        [⟨"sort.py", 1, 1⟩] := by
  obtain ⟨c, s', c', s'', run, done, -, -⟩ :=
    delivered (by decide +kernel : delivers [97, 10, 98, 10] [97, 10, 99, 10] = true)
  obtain ⟨workspace, changed, replied, same⟩ := Task.ensures_sound coder_diff run done
  obtain rfl := readBack_answered run workspace changed replied
  refine ⟨c, s', _, run, done, same, ?_, ?_⟩
  · rw [files_read (printed_sorting _ _)]
    decide +kernel
  · rw [changed_files_output (printed_sorting _ _)]
    decide +kernel

end KuWarden.Workspace
