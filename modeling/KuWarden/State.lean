import KuWarden.Python.Value
import Mathlib.Data.BitVec

/-!
The object that flows along the edges of a run.

`notes` is `none` for the empty dictionary a node starts with.
-/
namespace KuWarden

inductive RiskTier
  | low | medium | high
  deriving DecidableEq, Repr

namespace RiskTier

def text : RiskTier → String
  | .low => "low"
  | .medium => "medium"
  | .high => "high"

/-- `RISK_TIER_ORDER`. -/
def order : RiskTier → Nat
  | .low => 0
  | .medium => 1
  | .high => 2

def all : List RiskTier := [.low, .medium, .high]

end RiskTier

structure UUID where
  bits : BitVec 128
  deriving DecidableEq

namespace UUID

def hex (id : UUID) : String := String.ofList (Text.hex 32 id.bits.toNat)

/-- `str(id)`, in groups of 8, 4, 4, 4 and 12 digits. -/
def text (id : UUID) : String :=
  let digits := Text.hex 32 id.bits.toNat
  let group (start width : Nat) := String.ofList ((digits.drop start).take width)
  Text.join "-" [group 0 8, group 8 4, group 12 4, group 16 4, group 20 12]

theorem toList_text (id : UUID) : id.text.toList =
    let digits := Text.hex 32 id.bits.toNat
    digits.take 8 ++ '-' :: ((digits.drop 8).take 4 ++ '-' :: ((digits.drop 12).take 4 ++ '-' ::
      ((digits.drop 16).take 4 ++ '-' :: (digits.drop 20).take 12))) := by
  simp [text, Text.join]

theorem mem_text {id : UUID} {c : Char} (mem : c ∈ id.text.toList) :
    c = '-' ∨ ∃ k < 16, c = Text.hexDigit k := by
  have group : ∀ start width, c ∈ ((Text.hex 32 id.bits.toNat).drop start).take width →
      ∃ k < 16, c = Text.hexDigit k := fun start width among =>
    Text.mem_hex (List.mem_of_mem_drop (List.mem_of_mem_take among))
  rw [toList_text] at mem
  simp only [List.mem_append, List.mem_cons] at mem
  rcases mem with one | bar | two | bar | three | bar | four | bar | five
  · exact .inr (group 0 8 one)
  · exact .inl bar
  · exact .inr (group 8 4 two)
  · exact .inl bar
  · exact .inr (group 12 4 three)
  · exact .inl bar
  · exact .inr (group 16 4 four)
  · exact .inl bar
  · exact .inr (group 20 12 five)

theorem no_break (id : UUID) : '\n' ∉ id.text.toList := by
  intro mem
  rcases mem_text mem with bar | ⟨k, small, digit⟩
  · exact absurd bar (by decide)
  · exact (show ∀ k < 16, '\n' ≠ Text.hexDigit k by decide) k small digit

theorem length_text (id : UUID) : id.text.toList.length = 36 := by
  simp [toList_text, Text.length_hex]

theorem text_inj {a b : UUID} (same : a.text = b.text) : a = b := by
  have lists := congrArg String.toList same
  rw [toList_text, toList_text] at lists
  have long := Text.length_hex 32 a.bits.toNat
  have long' := Text.length_hex 32 b.bits.toNat
  revert lists long long'
  generalize digits : Text.hex 32 a.bits.toNat = ds
  generalize digits' : Text.hex 32 b.bits.toNat = ds'
  intro lists long long'
  obtain ⟨one, lists⟩ := List.append_inj lists (by simp [long, long'])
  obtain ⟨two, lists⟩ := List.append_inj (List.cons.inj lists).2 (by simp [long, long'])
  obtain ⟨three, lists⟩ := List.append_inj (List.cons.inj lists).2 (by simp [long, long'])
  obtain ⟨four, lists⟩ := List.append_inj (List.cons.inj lists).2 (by simp [long, long'])
  have five := (List.cons.inj lists).2
  have pieces : ∀ {ds : List Char}, ds.length = 32 → ds = ds.take 8 ++ ((ds.drop 8).take 4 ++
      ((ds.drop 12).take 4 ++ ((ds.drop 16).take 4 ++ (ds.drop 20).take 12))) := by
    intro ds long
    have rest : (ds.drop 20).take 12 = ds.drop 20 :=
      List.take_of_length_le (by simp [long])
    have step : ∀ i j, (ds.drop i).take j ++ ds.drop (i + j) = ds.drop i := fun i j => by
      rw [← List.drop_drop, List.take_append_drop]
    rw [rest, step 16 4, step 12 4, step 8 4, List.take_append_drop]
  have all : ds = ds' := by
    rw [pieces long, pieces long', one, two, three, four, five]
  have bits := Text.hex_inj a.bits.isLt b.bits.isLt (digits.trans (all.trans digits'.symm))
  cases a
  cases b
  exact congrArg UUID.mk (BitVec.eq_of_toNat_eq bits)

end UUID

abbrev Bytes := List UInt8

structure Ticket where
  id : String
  system : String
  title : String
  body : String
  state : Option String := none
  acceptanceCriteria : List String := []
  labels : List String := []
  storyPoints : Option Int := none
  deriving DecidableEq

structure ChangePlan where
  summary : String
  steps : List String := []
  deriving DecidableEq

structure FileChange where
  path : String
  added : Nat
  removed : Nat
  deriving DecidableEq

structure ProposedEdit where
  path : String
  content : String
  deleted : Bool := false
  deriving DecidableEq

structure RiskRules where
  highPaths : List String := []
  mediumPaths : List String := []
  mediumChangedFiles : Option Int := none
  highChangedFiles : Option Int := none
  deriving DecidableEq

structure Diff where
  files : List FileChange := []
  deriving DecidableEq

def Diff.paths (diff : Diff) : List String := diff.files.map FileChange.path

inductive VerdictSource
  | sandbox | ci
  deriving DecidableEq, Repr

def VerdictSource.text : VerdictSource → String
  | .sandbox => "sandbox"
  | .ci => "ci"

structure CIResult where
  exitCode : Int
  source : VerdictSource
  url : Option String := none
  durationMs : Int := 0
  deriving DecidableEq

def CIResult.isExternalAnchor (r : CIResult) : Bool := r.source = .ci

structure SASTResult where
  high : Int := 0
  medium : Int := 0
  low : Int := 0
  reportUrl : Option String := none
  deriving DecidableEq

structure Finding where
  detail : String
  severity : String
  deriving DecidableEq

/-- One verifier's verdict, under the verifier's bare name. -/
structure Verification where
  verifier : String
  passed : Bool
  findings : List String := []
  graded : List Finding := []
  deriving DecidableEq

structure Approval where
  principal : String
  approved : Bool
  riskTier : RiskTier
  evidenceDigest : String
  comment : String := ""
  deriving DecidableEq

structure Artifact where
  kind : String
  uri : String
  digest : String
  deriving DecidableEq

inductive Isolation
  | enforced | degraded
  deriving DecidableEq, Repr

def Isolation.text : Isolation → String
  | .enforced => "enforced"
  | .degraded => "degraded"

/-! ## Notes -/

structure Check where
  label : String
  required : String
  found : String
  ok : Bool
  deriving DecidableEq

inductive Section
  | fields (title : String) (rows : List (String × String))
  | checks (title : String) (rows : List Check)
  | text (title body : String) (untrusted truncated : Bool) (kept : String)
      (fullLength : Nat)
  deriving DecidableEq

structure NodeNotes where
  summary : String
  sections : List Section
  deriving DecidableEq

abbrev Notes := Option NodeNotes

structure FlowState where
  runId : UUID
  rootRunId : UUID
  ticket : Ticket
  policyCommit : String
  policyBundle : Dict
  schemaVersion : Int := 1
  parentRunId : Option UUID := none
  appName : String := ""
  riskTier : RiskTier := .low
  provisionalRiskTier : Option RiskTier := none
  plan : Option ChangePlan := none
  branch : Option String := none
  baseBranch : Option String := none
  baseCommit : Option String := none
  headCommit : Option String := none
  diff : Option Diff := none
  proposedEdits : List ProposedEdit := []
  sandboxIsolation : Option Isolation := none
  sandboxGaps : List String := []
  ciResult : Option CIResult := none
  sandboxResult : Option CIResult := none
  ciDetail : Option String := none
  sastResult : Option SASTResult := none
  coverage : Option PyFloat := none
  verifications : List Verification := []
  riskTierReason : String := ""
  advisoryObjections : List String := []
  rejectedBy : List String := []
  approvals : List Approval := []
  budgetCentsAllowed : Int := 0
  spendMicroCents : Option Int := some 0
  retryCount : Int := 0
  pushAttempt : Int := 0
  mergedCommit : Option String := none
  cleanup : Option String := none
  artifacts : List Artifact := []
  notes : Notes := none

instance : Inhabited FlowState where
  default := {
    runId := ⟨0⟩
    rootRunId := ⟨0⟩
    ticket := { id := "", system := "", title := "", body := "" }
    policyCommit := ""
    policyBundle := [] }

/-- `bool(s)`, for a string that may be absent. -/
def filled : Option String → Bool
  | some s => s ≠ ""
  | none => false

/-- `s`, if `bool(s)`. -/
def nonEmpty (s : Option String) : Option String := s.filter (· ≠ "")

theorem nonEmpty_eq_some {s : Option String} {t : String} :
    nonEmpty s = some t ↔ s = some t ∧ t ≠ "" := by
  cases s with
  | none => simp [nonEmpty]
  | some u =>
      simp only [nonEmpty, Option.filter_some, decide_not, Bool.not_eq_true',
        decide_eq_false_iff_not, Option.ite_none_right_eq_some, Option.some.injEq]
      constructor
      · rintro ⟨h, rfl⟩
        exact ⟨rfl, h⟩
      · rintro ⟨rfl, h⟩
        exact ⟨h, rfl⟩

end KuWarden
