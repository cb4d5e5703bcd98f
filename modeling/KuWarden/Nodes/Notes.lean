import KuWarden.Nodes.Base

/-!
What a node read, decided and produced, in a form the audit trail carries.
-/
namespace KuWarden.Notes

def maxText : Nat := 8000

/-- Everything reaches the record as a string. -/
def scalar : Value → String
  | .null => "—"
  | .bool b => if b then "yes" else "no"
  | .list items | .tuple items =>
      if items.isEmpty then "—" else Text.join ", " (items.map Value.text)
  | v => v.text

/-- Sections that are `none` drop out. -/
def compose (summary : String) (sections : List (Option Section)) : Notes :=
  some { summary := summary, sections := sections.filterMap id }

def fields (title : String) (rows : List (String × Value)) : Option Section :=
  some (.fields title (rows.map fun row => (row.1, scalar row.2)))

def checks (title : String) (rows : List (String × Value × Value × Bool)) : Option Section :=
  some (.checks title (rows.map fun (label, required, found, ok) =>
    ⟨label, scalar required, scalar found, ok⟩))

def text (title body : String) (untrusted : Bool := false) (tail : Bool := false) :
    Option Section :=
  some (.text title (if tail then Text.takeEnd maxText body else Text.take maxText body)
    untrusted (decide (body.length > maxText)) (if tail then "end" else "start") body.length)

/-- A string row, absent as `None`. -/
def optional : Option String → Value
  | some s => .str s
  | none => .null

/-- `value or other`, for a row. -/
def orText (s : Option String) (other : String) : Value :=
  if filled s then optional s else .str other

def strings (ss : List String) : Value := .list (ss.map .str)

/-- `values or other`, for a row. -/
def orStrings (ss : List String) (other : String) : Value :=
  if ss.isEmpty then .str other else strings ss

def number (n : Nat) : Value := .int n

end KuWarden.Notes
