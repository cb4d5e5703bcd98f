import KuWarden.Errors
import KuWarden.Policy.Globs

/-!
Paths an agent identity may never write. A match fails the run rather than dropping
the file.
-/
namespace KuWarden

def defaultProtectedPaths : List String := [
  ".github/workflows/**",
  ".github/actions/**",
  ".gitlab-ci.yml",
  "azure-pipelines.yml",
  "Jenkinsfile",
  "charts/**",
  "terraform/**",
  "**/*.tfvars",
  "**/kuwarden.yaml",
  "policy.yaml"]

structure ProtectedPaths where
  patterns : List String := defaultProtectedPaths

namespace ProtectedPaths

def violations (protectedPaths : ProtectedPaths) (paths : List String) :
    List (String × String) :=
  paths.filterMap fun path =>
    (matchesAny protectedPaths.patterns path).map fun pattern => (path, pattern)

/-- The check under any set of patterns. -/
def assertNone (protectedPaths : ProtectedPaths) (paths : List String) :
    Except PyError Unit :=
  match protectedPaths.violations paths with
  | [] => .ok ()
  | found => .error ⟨.protectedPathWritten,
      Text.join ", " (found.map fun entry => entry.1 ++ " (" ++ entry.2 ++ ")"), none⟩

end ProtectedPaths

def assertNotProtected (paths : List String) : Except PyError Unit :=
  ProtectedPaths.assertNone {} paths

end KuWarden
