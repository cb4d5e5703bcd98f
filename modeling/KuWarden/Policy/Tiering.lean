import KuWarden.State
import KuWarden.Policy.Globs

/-!
Risk tier arithmetic: tiers are raised and never lowered, and the final tier is
settled by rules over the diff.
-/
namespace KuWarden

namespace RiskTier

def raiseTo (current proposed : RiskTier) : RiskTier :=
  if proposed.order > current.order then proposed else current

theorem order_le_raise_to (current proposed : RiskTier) :
    current.order ≤ (current.raiseTo proposed).order := by
  unfold raiseTo
  split <;> omega

end RiskTier

/-- How many humans must approve. -/
def requiredApprovals : RiskTier → Nat
  | .low => 0
  | .medium => 1
  | .high => 2

/-- The first path, in order, that some pattern matches, with that pattern. -/
def firstMatch (patterns : List String) : List String → Option (String × String)
  | [] => none
  | path :: rest =>
      match matchesAny patterns path with
      | some pattern => some (path, pattern)
      | none => firstMatch patterns rest

def above (count : Nat) : Option Int → Bool
  | some threshold => (count : Int) > threshold
  | none => false

def thresholdText : Option Int → String
  | some threshold => Text.ofInt threshold
  | none => "None"

/-- The second tiering stage; rules are tried highest first. -/
def tierForDiff (current : RiskTier) (diff : Option Diff) (rules : RiskRules) :
    RiskTier × String :=
  let paths := (diff.map Diff.paths).getD []
  match firstMatch rules.highPaths paths with
  | some (path, pattern) =>
      (.high, path ++ " matches high_paths " ++ Text.repr pattern)
  | none =>
      if above paths.length rules.highChangedFiles then
        (.high, Text.ofNat paths.length ++ " files changed, above high_changed_files (" ++
          thresholdText rules.highChangedFiles ++ ")")
      else
        match firstMatch rules.mediumPaths paths with
        | some (path, pattern) =>
            (.medium, path ++ " matches medium_paths " ++ Text.repr pattern)
        | none =>
            if above paths.length rules.mediumChangedFiles then
              (.medium, Text.ofNat paths.length ++
                " files changed, above medium_changed_files (" ++
                thresholdText rules.mediumChangedFiles ++ ")")
            else (current, "no rule escalated it")

end KuWarden
