import KuWarden.Python.Text

/-!
The one glob implementation: `**` crosses separators and `*` does not.

A pattern is compiled to the tokens `translate` emits, and a token matches what the
regular expression it stands for matches: `.` is any character but a line feed, and
the closing `$` also holds before a final line feed.
-/
namespace KuWarden

inductive GlobToken
  | directories
  | anything
  | segment
  | one
  | literal (c : Char)
  deriving DecidableEq

def translate : List Char → List GlobToken
  | '*' :: '*' :: '/' :: rest => .directories :: translate rest
  | '*' :: '*' :: rest => .anything :: translate rest
  | '*' :: rest => .segment :: translate rest
  | '?' :: rest => .one :: translate rest
  | c :: rest => .literal c :: translate rest
  | [] => []

/-- What is left of `cs` after a prefix of characters that all satisfy `p`. -/
def leftovers (p : Char → Bool) : List Char → List (List Char)
  | [] => [[]]
  | c :: cs => (c :: cs) :: (if p c then leftovers p cs else [])

namespace GlobToken

/-- What may be left of `cs` after the token. -/
def rests : GlobToken → List Char → List (List Char)
  | .directories, cs =>
      cs :: (leftovers (· ≠ '\n') cs).filterMap fun
        | '/' :: rest => some rest
        | _ => none
  | .anything, cs => leftovers (· ≠ '\n') cs
  | .segment, cs => leftovers (· ≠ '/') cs
  | .one, cs =>
      match cs with
      | c :: rest => if c ≠ '/' then [rest] else []
      | [] => []
  | .literal c, cs =>
      match cs with
      | d :: rest => if d = c then [rest] else []
      | [] => []

end GlobToken

def globRests : List GlobToken → List Char → List (List Char)
  | [], cs => [cs]
  | token :: tokens, cs => (token.rests cs).flatMap (globRests tokens)

def globMatches (pattern candidate : List Char) : Bool :=
  (globRests (translate pattern) candidate).any fun rest => rest = [] ∨ rest = ['\n']

/-- A repository path as the matchers expect it. -/
def normalise (path : List Char) : List Char :=
  match path.map fun c => if c = '\\' then '/' else c with
  | '.' :: '/' :: rest => rest
  | cs => cs

/-- The first pattern matching `path`. -/
def matchesAny (patterns : List String) (path : String) : Option String :=
  let candidate := normalise path.toList
  patterns.find? fun pattern => globMatches pattern.toList candidate

end KuWarden
