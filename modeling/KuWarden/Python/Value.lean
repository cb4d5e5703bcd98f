import KuWarden.Errors
import Mathlib.Data.Rat.Defs

/-!
The values that `yaml.safe_load` and `json.loads` build, and the conversions the
engine applies to them.

A float is its exact value together with the text `repr` prints for it: the engine
compares and prints floats and computes with none. A date, with a time of day or without, is what
`str` and `repr` print for it. `text` and `repr` write out numbers of any
length; `printed` and `shown` are what the interpreter makes of a value that may hold a longer one
than it writes out.
-/
namespace KuWarden

inductive PyFloat
  | nan
  | inf (negative : Bool)
  | finite (q : ℚ)
  deriving DecidableEq

inductive Value
  | null
  | bool (b : Bool)
  | int (n : Int)
  | float (x : PyFloat) (text : String)
  | str (s : String)
  | bytes (bs : List Nat)
  | date (timed : Bool) (text quoted : String)
  | tuple (items : List Value)
  | set (items : List Value)
  | list (items : List Value)
  | dict (entries : List (Value × Value))

abbrev Dict := List (Value × Value)

namespace Value

/-- The name of its type, as the interpreter's own messages give it. -/
def typeName : Value → String
  | .null => "NoneType"
  | .bool _ => "bool"
  | .int _ => "int"
  | .float _ _ => "float"
  | .str _ => "str"
  | .bytes _ => "bytes"
  | .date timed _ _ => if timed then "datetime.datetime" else "datetime.date"
  | .tuple _ => "tuple"
  | .set _ => "set"
  | .list _ => "list"
  | .dict _ => "dict"

/-- `bool(v)`. -/
def truthy : Value → Bool
  | .null => false
  | .bool b => b
  | .int n => n != 0
  | .float x _ => x ≠ .finite 0
  | .str s => s ≠ ""
  | .bytes bs => !bs.isEmpty
  | .date .. => true
  | .tuple items | .set items | .list items => !items.isEmpty
  | .dict entries => !entries.isEmpty

def bytesText (bs : List Nat) : String :=
  let quote := Text.quotes (bs.map Char.ofNat)
  String.ofList ('b' :: quote :: bs.flatMap (fun n =>
    if 127 ≤ n then ['\\', 'x'] ++ Text.hex 2 n else Text.escape quote (Char.ofNat n)) ++ [quote])

mutual

def repr : Value → String
  | .null => "None"
  | .bool b => if b then "True" else "False"
  | .int n => Text.ofInt n
  | .float _ text => text
  | .str s => Text.repr s
  | .bytes bs => bytesText bs
  | .date _ _ quoted => quoted
  | .tuple items => "(" ++ Text.join ", " (reprs items) ++ (if items.length = 1 then ",)" else ")")
  | .set items => if items.isEmpty then "set()" else "\x7b" ++ Text.join ", " (reprs items) ++ "\x7d"
  | .list items => "[" ++ Text.join ", " (reprs items) ++ "]"
  | .dict entries => "\x7b" ++ Text.join ", " (reprEntries entries) ++ "\x7d"

def reprs : List Value → List String
  | [] => []
  | v :: vs => repr v :: reprs vs

def reprEntries : List (Value × Value) → List String
  | [] => []
  | (k, v) :: rest => (repr k ++ ": " ++ repr v) :: reprEntries rest

end

/-- `str(v)`. -/
def text : Value → String
  | .str s => s
  | .date _ text _ => text
  | v => v.repr

mutual

/-- Whether every number in a value can be written out. -/
def writable : Value → Bool
  | .int n => Text.writable n
  | .tuple items | .set items | .list items => allWritable items
  | .dict entries => allWritableEntries entries
  | _ => true

def allWritable : List Value → Bool
  | [] => true
  | v :: vs => writable v && allWritable vs

def allWritableEntries : List (Value × Value) → Bool
  | [] => true
  | (k, v) :: rest => writable k && writable v && allWritableEntries rest

end

def tooLong : PyError :=
  ⟨.valueError, "Exceeds the limit (4300 digits) for integer string conversion; use " ++
    "sys.set_int_max_str_digits() to increase the limit", none⟩

/-- `str(v)`, which raises on a number that is too long. -/
def printed (v : Value) : Except PyError String := if v.writable then .ok v.text else .error tooLong

/-- `f"{v!r}"`, which does too. -/
def shown (v : Value) : Except PyError String := if v.writable then .ok v.repr else .error tooLong

def isStr : Value → String → Bool
  | .str s, t => s = t
  | _, _ => false

/-- `v == n` for an integer: booleans and floats compare by value. -/
def equalsInt : Value → Int → Bool
  | .bool b, n => (if b then 1 else 0) = n
  | .int m, n => m = n
  | .float x _, n => x = .finite n
  | _, _ => false

def typeError (message : String) : PyError := ⟨.typeError, message, none⟩

/-- The white space around a number. The separators of ASCII are none. -/
def isBlank (c : Char) : Bool := Text.isSpace c && !(28 ≤ c.toNat && c.toNat ≤ 31)

/-- The white space around a number in bytes. -/
def isByteBlank (c : Char) : Bool := isBlank c && c.toNat < 128

def trimmed (blank : Char → Bool) (cs : List Char) : List Char :=
  ((cs.dropWhile blank).reverse.dropWhile blank).reverse

/-- Decimal digits of any script, with single underscores between them. -/
def digits : List Char → Bool
  | [] => false
  | [c] => Unicode.isDecimal c
  | c :: '_' :: rest => Unicode.isDecimal c && digits rest
  | c :: rest => Unicode.isDecimal c && digits rest

def digitsValue (cs : List Char) : Nat :=
  (cs.filterMap Unicode.decimal?).foldl (fun n d => 10 * n + d) 0

def signed : List Char → Bool × List Char
  | '-' :: cs => (true, cs)
  | '+' :: cs => (false, cs)
  | cs => (false, cs)

/-- `int` of a text, of which `repr` is quoted. -/
def parseInt (repr : String) (cs : List Char) : Except PyError Int :=
  let (negative, body) := signed cs
  let count := (body.filter Unicode.isDecimal).length
  if ¬ digits body then
    .error ⟨.valueError, "invalid literal for int() with base 10: " ++ repr, none⟩
  else if Text.maxStrDigits < count then
    .error ⟨.valueError, "Exceeds the limit (4300 digits) for integer string conversion: value " ++
      "has " ++ Text.ofNat count ++ " digits; use sys.set_int_max_str_digits() to increase the " ++
      "limit", none⟩
  else .ok (if negative then -(digitsValue body : Int) else digitsValue body)

/-- `int(v)`. -/
def toInt : Value → Except PyError Int
  | .bool b => .ok (if b then 1 else 0)
  | .int n => .ok n
  | .float (.finite q) _ => .ok (if q < 0 then -(-q).floor else q.floor)
  | .float .nan _ => .error ⟨.valueError, "cannot convert float NaN to integer", none⟩
  | .float (.inf _) _ =>
      .error ⟨.overflowError, "cannot convert float infinity to integer", none⟩
  | .str s => parseInt (Text.repr s) (trimmed isBlank s.toList)
  | .bytes bs => parseInt (bytesText bs) (trimmed isByteBlank (bs.map Char.ofNat))
  | v => .error (typeError ("int() argument must be a string, a bytes-like object or a real " ++
      "number, not '" ++ v.typeName ++ "'"))

def parseDecimal (cs : List Char) : Option ℚ :=
  let lowered := cs.map Char.toLower
  let mantissa := lowered.takeWhile (· ≠ 'e')
  let exponent := lowered.drop (mantissa.length + 1)
  let whole := mantissa.takeWhile (· ≠ '.')
  let fraction := mantissa.drop (whole.length + 1)
  let (negative, power) := signed exponent
  if (digits whole || (whole.isEmpty && digits fraction)) &&
      (digits fraction || fraction.isEmpty) &&
      (digits power || mantissa.length = lowered.length) then
    let scale : Int := (if negative then -(digitsValue power : Int) else digitsValue power) -
      (fraction.filter Unicode.isDecimal).length
    some ((digitsValue (whole ++ fraction) : ℚ) * (10 : ℚ) ^ scale)
  else none

def parseFloat (cs : List Char) : Option PyFloat :=
  let (negative, body) := signed cs
  let word := String.ofList (body.map Char.toLower)
  if word = "nan" then some .nan
  else if word = "inf" ∨ word = "infinity" then some (.inf negative)
  else (parseDecimal body).map fun q => .finite (if negative then -q else q)

/-- `float(v)`, short of rounding to the nearest representable number. -/
def toFloat : Value → Except PyError PyFloat
  | .bool b => .ok (.finite (if b then 1 else 0))
  | .int n =>
      if n.natAbs < 2 ^ 1024 - 2 ^ 970 then .ok (.finite n)
      else .error ⟨.overflowError, "int too large to convert to float", none⟩
  | .float x _ => .ok x
  | .str s =>
      match parseFloat (trimmed isBlank s.toList) with
      | some x => .ok x
      | none => .error ⟨.valueError, "could not convert string to float: " ++ Text.repr s, none⟩
  | .bytes bs =>
      match parseFloat (trimmed isByteBlank (bs.map Char.ofNat)) with
      | some x => .ok x
      | none => .error ⟨.valueError, "could not convert string to float: " ++ bytesText bs, none⟩
  | v => .error (typeError ("float() argument must be a string or a real number, not '" ++
      v.typeName ++ "'"))

/-- What a `for` over `v` visits. -/
def items : Value → Except PyError (List Value)
  | .str s => .ok (s.toList.map fun c => .str (String.ofList [c]))
  | .bytes bs => .ok (bs.map fun n => .int n)
  | .tuple vs | .set vs | .list vs => .ok vs
  | .dict entries => .ok (entries.map Prod.fst)
  | v => .error (typeError ("'" ++ v.typeName ++ "' object is not iterable"))

/-- `v.get`, for a value that ought to be a mapping. -/
def asDict : Value → Except PyError Dict
  | .dict entries => .ok entries
  | v => .error ⟨.attributeError, "'" ++ v.typeName ++ "' object has no attribute 'get'", none⟩

def isList : Value → Bool
  | .list _ => true
  | _ => false

/-- `a or b`. -/
def orElse (v other : Value) : Value := if v.truthy then v else other

end Value

namespace Dict

/-- `entries.get(key)`, for a string key. -/
def get? (entries : Dict) (key : String) : Option Value :=
  (entries.find? fun entry => entry.1.isStr key).map Prod.snd

def get (entries : Dict) (key : String) : Value := (entries.get? key).getD .null

def getD (entries : Dict) (key : String) (default : Value) : Value :=
  (entries.get? key).getD default

def has (entries : Dict) (key : String) : Bool := (entries.get? key).isSome

end Dict
end KuWarden
