import KuWarden.State
import Mathlib.Data.Rat.Floor

/-!
What a run cost, estimated from tokens. An unknown model costs `none`, never zero.
-/
namespace KuWarden

def lastReviewed : String := "2026-08-29"

/-- Micro-cents per token, by token class. -/
structure Rate where
  input : Int
  output : Int
  cacheWrite : Int
  cacheRead : Int
  deriving DecidableEq

/-- From whole dollars per million tokens; a cache write is charged at 1.25 times the
input rate and a read at a tenth of it. -/
def Rate.perMillionDollars (dollarsIn dollarsOut : Int) : Rate where
  input := dollarsIn * 100
  output := dollarsOut * 100
  cacheWrite := dollarsIn * 125
  cacheRead := dollarsIn * 10

def rates : List (String × Rate) := [
  ("claude-fable-5", .perMillionDollars 10 50),
  ("claude-opus-5", .perMillionDollars 5 25),
  ("claude-opus-4-8", .perMillionDollars 5 25),
  ("claude-sonnet-5", .perMillionDollars 2 10),
  ("claude-sonnet-4-6", .perMillionDollars 3 15),
  ("claude-haiku-4-5", .perMillionDollars 1 5)]

structure Usage where
  inputTokens : Int := 0
  outputTokens : Int := 0
  cacheWriteTokens : Int := 0
  cacheReadTokens : Int := 0
  deriving DecidableEq

/-- Estimated cost of one model call, or `none` when the model has no rate. -/
def microCents (model : String) (usage : Usage) : Option Int :=
  (rates.lookup model).map fun rate =>
    usage.inputTokens * rate.input + usage.outputTokens * rate.output +
      usage.cacheWriteTokens * rate.cacheWrite +
      usage.cacheReadTokens * rate.cacheRead

/-- Add one call's cost to a running total; once unknown, the total stays unknown. -/
def accrue (total : Option Int) (model : String) (usage : Usage) : Option Int :=
  match microCents model usage, total with
  | some call, some total => some (total + call)
  | _, _ => none

def combine : List (Option Int) → Option Int
  | [] => some 0
  | total :: rest =>
      match total, combine rest with
      | some total, some sum => some (total + sum)
      | _, _ => none

/-! ## Rendering -/

def roundHalfEven (q : ℚ) : Int :=
  let down := ⌊q⌋
  if q - down < 1 / 2 then down
  else if q - down > 1 / 2 then down + 1
  else if down % 2 = 0 then down else down + 1

/-- `⌊log₂ q⌋`, for positive `q`. -/
def floorLog2 (q : ℚ) : Int :=
  let guess : Int := (q.num.natAbs.log2 : Int) - q.den.log2
  if (2 : ℚ) ^ guess ≤ q then guess else guess - 1

/-- The nearest number with 53 binary digits. -/
def toDouble (q : ℚ) : ℚ :=
  if q = 0 then 0
  else
    let unit : ℚ := (2 : ℚ) ^ (floorLog2 |q| - 52)
    roundHalfEven (q / unit) * unit

/-- `f"{q:.{places}f}"`. -/
def fixed (places : Nat) (q : ℚ) : String :=
  let scaled := roundHalfEven (|q| * 10 ^ places)
  let digits := (toString scaled.natAbs).toList
  let padded := List.replicate (places + 1 - digits.length) '0' ++ digits
  let whole := padded.take (padded.length - places)
  let fraction := padded.drop (padded.length - places)
  (if q < 0 then "-" else "") ++ String.ofList whole ++ "." ++ String.ofList fraction

/-- A spend figure for a human. -/
def asText : Option Int → String
  | none => "unknown — no rate recorded for this model"
  | some total =>
      if total = 0 then "0"
      else
        let cents := toDouble (total / 1000000)
        if cents < 1 then fixed 3 cents ++ " cents"
        else if cents < 100 then fixed 2 cents ++ " cents"
        else "$" ++ fixed 2 (toDouble (cents / 100))

end KuWarden
