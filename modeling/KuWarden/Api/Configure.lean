import KuWarden.Api.Users
import KuWarden.ConfigStore
import KuWarden.Python.Lines

/-!
The endpoints that change an application's configuration.

`store_config` and `set_verifiers` read the database in one statement and write it in another.
`change_control_point` does both under a lock. The first two drop what the process they run in
has cached; other processes find out from the timestamp of the row.
-/
namespace KuWarden.Api

open Process ConfigStore

/-- The database's rows for one application, and what each process has cached of them. -/
structure Deployment where
  rows : Option AppRows
  caches : Nat → Option Entry := fun _ => none

namespace Deployment

def setCache (w : Deployment) (process : Nat) (entry : Option Entry) : Deployment :=
  { w with caches := fun p => if p = process then entry else w.caches p }

/-- `config_store.forget`, in one process. -/
def forget (w : Deployment) (process : Nat) : Deployment := w.setCache process none

def stored (w : Deployment) : Option StoredConfig := w.rows.bind AppRows.stored

/-- `INSERT INTO app_config … ON CONFLICT (app_id) DO UPDATE`. -/
def upsert (w : Deployment) (stored : StoredConfig) : Deployment :=
  { w with rows := w.rows.map fun row => { row with stored := some stored } }

/-- `UPDATE app_config … WHERE app_id = $1`. -/
def update (w : Deployment) (stored : StoredConfig) : Deployment :=
  { w with rows := w.rows.map fun row =>
      { row with stored := row.stored.map fun _ => stored } }

end Deployment

namespace Configure

/-! ## Rewriting the verification block -/

def setting (name : String) (value : Bool) : List Char :=
  "    ".toList ++ name.toList ++ (if value then ": true" else ": false").toList

def block (wanted : List (String × Bool)) : List (List Char) :=
  ["verification:".toList,
    "  # Which verifiers may stop a change. `false` makes one **advisory**: it still".toList,
    "  # runs, still records its findings, and still reaches the audit trail — it".toList,
    "  # simply cannot abort the run. Managed from the application page.".toList,
    "  verifiers:".toList] ++
  wanted.map fun entry => setting entry.1 entry.2

def opens (line : List Char) : Bool := Text.rstrip line = "verification:".toList

/-- A blank line, or one indented under the key. -/
def under : List Char → Bool
  | ' ' :: _ | '\t' :: _ => true
  | cs => cs.all Text.isSpace

def isComment (line : List Char) : Bool :=
  (line.dropWhile Text.isSpace).head? = some '#'

def above (lines : List (List Char)) (start : Nat) : List (List Char) :=
  ((lines.take start).reverse.dropWhile isComment).reverse

def below (lines : List (List Char)) (start : Nat) : List (List Char) :=
  (lines.drop (start + 1)).dropWhile under

def withBlock (text : List Char) (wanted : List (String × Bool)) : List Char :=
  let lines := Text.splitLines text
  match lines.findIdx? opens with
  | none =>
      let kept := (text.reverse.dropWhile (· = '\n')).reverse
      kept ++ '\n' :: '\n' :: Lines.unlines (block wanted)
  | some start => Lines.unlines (above lines start ++ block wanted ++ below lines start)

/-- `_with_verifiers`: the block is replaced with the comment lines above it, or appended
when there is none. -/
def withVerifiers (yamlText : String) (wanted : List (String × Bool)) : String :=
  String.ofList (withBlock yamlText.toList wanted)

/-! ## Requests -/

structure StoreConfig where
  yaml : String

/-- A JSON object has each name once. -/
structure SetVerifiers where
  blocking : List (String × Bool) := []
  keyed : (blocking.map Prod.fst).Nodup := by decide

structure ChangeControlPoint where
  integrationModel : IntegrationModel
  reason : String

inductive Answer
  | stored (application : String)
  | verifiers (verifiers : List (String × Bool)) (advisory : List String)
  | unchanged (integrationModel : IntegrationModel)
  | changed (integrationModel : IntegrationModel) (runsPredatingThisChange : Nat)

/-- `verification.advisory()`. -/
def advisory (verification : VerificationConfig) : List String :=
  (allVerifiers.filter fun name => name ∉ verification.blocking).insertionSort (· ≤ ·)

def SetVerifiers.asked (body : SetVerifiers) (name : String) : Option Bool :=
  body.blocking.lookup name

def unknown (body : SetVerifiers) : List String :=
  (body.blocking.map Prod.fst).filter fun name => name ∉ allVerifiers

def checkNames (body : SetVerifiers) : Except ApiExc Unit :=
  if unknown body = [] then .ok ()
  else abort 422 ("unknown verifier(s) " ++
    Text.join ", " ((unknown body).insertionSort (· ≤ ·)))

/-- What the four are set to: a name the request leaves out keeps its setting. -/
def wanted (body : SetVerifiers) (current : List String) : List (String × Bool) :=
  allVerifiers.map fun name =>
    (name, (body.asked name).getD (current.contains name))

/-- The statement a request runs next, with what it has read. -/
inductive Stage
  | storing (body : StoreConfig)
  | upserting (yaml : String) (parsed : AppConfig)
  | selecting (body : SetVerifiers)
  | updating (body : SetVerifiers) (yaml updated : String) (confirmed : VerificationConfig)
  | answered (answer : Except ApiExc Answer)

/-- A request in progress: the process that serves it, who makes it, and what the database's
clock says when it writes. -/
structure Edit where
  process : Nat
  principal : Principal
  now : Nat
  stage : Stage

variable (safeLoad : String → Except String Value)

/-- What a request is answered whose text does not parse. -/
def parseBody (body : StoreConfig) : Except ApiExc AppConfig :=
  match Config.parse safeLoad body.yaml with
  | .ok parsed => .ok parsed
  | .error exc =>
      if exc.kind = .configError then
        abort 422 ("this does not parse as a kuwarden.yaml: " ++ exc.message)
      else .error (.raised exc)

/-- `store_config` up to its write. -/
def checkConfig (w : Deployment) (body : StoreConfig) : Except ApiExc Stage := do
  let parsed ← parseBody safeLoad body
  match w.rows with
  | none => abort 404 "no such application"
  | some row =>
      let declared := row.registered.integrationModel
      if parsed.integrationModel ≠ declared then
        abort 409 ("this application's control point is " ++ Text.repr declared.value ++
          ", but the configuration declares " ++ Text.repr parsed.integrationModel.value ++
          ". The registry is authoritative — change the control point through the " ++
          "application page if that is what you meant.")
      else return .upserting body.yaml parsed

/-- `set_verifiers` up to its write. -/
def rewrite (w : Deployment) (body : SetVerifiers) : Except ApiExc Stage := do
  checkNames body
  match w.stored with
  | none =>
      abort 409 ("this application has no stored configuration yet. Save its kuwarden.yaml " ++
        "first, then arm or disarm its verifiers.")
  | some row =>
      let current ← raising (Config.parse safeLoad row.yaml)
      let updated := withVerifiers row.yaml (wanted body current.verification.blocking)
      let confirmed ← raising (Config.parse safeLoad updated)
      return .updating body row.yaml updated confirmed.verification

/-- One request, from one statement to the next. -/
def advance (w : Deployment) (edit : Edit) : Deployment × Edit :=
  let goesOn : Except ApiExc Stage → Deployment × Edit
    | .ok stage => (w, { edit with stage })
    | .error exc => (w, { edit with stage := .answered (.error exc) })
  match edit.stage with
  | .storing body => goesOn (checkConfig safeLoad w body)
  | .upserting yaml parsed =>
      ((w.upsert ⟨yaml, edit.now, edit.principal.email⟩).forget edit.process,
        { edit with stage := .answered (.ok (.stored parsed.name)) })
  | .selecting body => goesOn (rewrite safeLoad w body)
  | .updating _ _ updated confirmed =>
      ((w.update ⟨updated, edit.now, edit.principal.email⟩).forget edit.process,
        { edit with stage := .answered (.ok (.verifiers
          (allVerifiers.map fun name => (name, confirmed.blocking.contains name))
          (advisory confirmed))) })
  | .answered _ => (w, edit)

/-- `change_control_point`, which holds the row from the read to the write. -/
def changeControlPoint (w : Deployment) (principal : Principal) (body : ChangeControlPoint) :
    Deployment × Except ApiExc Answer :=
  match w.rows with
  | none => (w, abort 404 "no such application")
  | some row =>
      let current := row.registered.integrationModel
      if current = body.integrationModel then (w, .ok (.unchanged current))
      else
        let change : ControlPointChange :=
          ⟨current, body.integrationModel, principal.email, body.reason⟩
        ({ w with rows := some { row with
            registered.integrationModel := body.integrationModel
            changes := row.changes ++ [change] } },
          .ok (.changed body.integrationModel row.runs))

end Configure
end KuWarden.Api
