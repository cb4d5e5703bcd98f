import KuWarden.State

/-!
What the adapters exchange with a node.
-/
namespace KuWarden

structure TicketRef where
  system : String
  project : String
  id : String
  deriving DecidableEq

structure RepoRef where
  host : String
  org : String
  repo : String
  project : Option String := none
  deriving DecidableEq

def TicketRef.realm (ref : TicketRef) : String := ref.system ++ ":" ++ ref.project

def RepoRef.realm (ref : RepoRef) : String := ref.host ++ ":" ++ ref.org

structure RepoTree where
  commit : String
  files : List (String × Bytes)
  deriving DecidableEq

structure BranchRef where
  name : String
  commit : String
  deriving DecidableEq

structure FileEdit where
  path : String
  content : String
  deleted : Bool := false
  deriving DecidableEq

structure PullRequest where
  id : String
  url : String
  sourceBranch : String
  deriving DecidableEq

/-- Where the control point sits. -/
inductive IntegrationModel
  | kuwardenDeploys | gatedMerge | gatedDeployment
  deriving DecidableEq, Repr

namespace IntegrationModel

def value : IntegrationModel → String
  | .kuwardenDeploys => "kuwarden_deploys"
  | .gatedMerge => "gated_merge"
  | .gatedDeployment => "gated_deployment"

def all : List IntegrationModel := [.kuwardenDeploys, .gatedMerge, .gatedDeployment]

/-- `IntegrationModel(declared)`. -/
def ofValue? (declared : Value) : Option IntegrationModel :=
  all.find? fun model => declared.isStr model.value

end IntegrationModel
end KuWarden
