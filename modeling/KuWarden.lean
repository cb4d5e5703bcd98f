import KuWarden.Activities.Audit
import KuWarden.Activities.Credentials
import KuWarden.Activities.Frames
import KuWarden.Activities.Nodes
import KuWarden.Activities.Pins
import KuWarden.Activities.Prompts
import KuWarden.Activities.RunFiles
import KuWarden.Activities.RunRow
import KuWarden.Activities.Spending
import KuWarden.Activities.Tiers
import KuWarden.Adapters.AzureBoards
import KuWarden.Adapters.Ci
import KuWarden.Adapters.DataApi
import KuWarden.Adapters.Exchanges
import KuWarden.Adapters.GitHub
import KuWarden.Adapters.Jira
import KuWarden.Adapters.Polling
import KuWarden.Adapters.Protocols
import KuWarden.Adapters.Pushing
import KuWarden.Adapters.Reading
import KuWarden.Adapters.Realms
import KuWarden.Adapters.Secrets
import KuWarden.Adapters.Sharing
import KuWarden.Adapters.SingleFlight
import KuWarden.Adapters.TreeCache
import KuWarden.Adapters.Trees
import KuWarden.Api.Configure
import KuWarden.Api.Decide
import KuWarden.Api.Decisions
import KuWarden.Api.Edits
import KuWarden.Api.Freshness
import KuWarden.Api.Governing
import KuWarden.Api.Graph
import KuWarden.Api.Hook
import KuWarden.Api.Pinning
import KuWarden.Api.Recording
import KuWarden.Api.Register
import KuWarden.Api.Rewrites
import KuWarden.Api.RunGraph
import KuWarden.Api.Sessions
import KuWarden.Api.Supersession
import KuWarden.Api.Terminate
import KuWarden.Api.Termination
import KuWarden.Api.Typing
import KuWarden.Api.Users
import KuWarden.Config
import KuWarden.ConfigStore
import KuWarden.Db.Migrations
import KuWarden.Errors
import KuWarden.Evidence
import KuWarden.Flows.Attribution
import KuWarden.Flows.Calls
import KuWarden.Flows.Cargo
import KuWarden.Flows.Clearance
import KuWarden.Flows.Costs
import KuWarden.Flows.Counting
import KuWarden.Flows.Delivery
import KuWarden.Flows.Endings
import KuWarden.Flows.Escalation
import KuWarden.Flows.Evidence
import KuWarden.Flows.FanOut
import KuWarden.Flows.Feedback
import KuWarden.Flows.Frames
import KuWarden.Flows.Grading
import KuWarden.Flows.Histories
import KuWarden.Flows.Latest
import KuWarden.Flows.Ledger
import KuWarden.Flows.Marks
import KuWarden.Flows.Merge
import KuWarden.Flows.Notes
import KuWarden.Flows.Numbering
import KuWarden.Flows.Objections
import KuWarden.Flows.Passage
import KuWarden.Flows.Play
import KuWarden.Flows.Privileges
import KuWarden.Flows.Pushes
import KuWarden.Flows.Separation
import KuWarden.Flows.State
import KuWarden.Flows.Suspension
import KuWarden.Flows.System
import KuWarden.Flows.Tiers
import KuWarden.Flows.Verdicts
import KuWarden.Nodes.Base
import KuWarden.Nodes.BuildTest
import KuWarden.Nodes.Coder
import KuWarden.Nodes.Compensate
import KuWarden.Nodes.Notes
import KuWarden.Nodes.Planner
import KuWarden.Nodes.Push
import KuWarden.Nodes.Release
import KuWarden.Nodes.RepoContext
import KuWarden.Nodes.Reporter
import KuWarden.Nodes.Triage
import KuWarden.Nodes.Verifiers
import KuWarden.Policy.Application
import KuWarden.Policy.GlobLanguage
import KuWarden.Policy.Globs
import KuWarden.Policy.Pricing
import KuWarden.Policy.ProtectedPaths
import KuWarden.Policy.Spending
import KuWarden.Policy.TestEvidence
import KuWarden.Policy.Tiering
import KuWarden.Process.Attempts
import KuWarden.Process.Background
import KuWarden.Process.Basic
import KuWarden.Process.Calls
import KuWarden.Process.Crowd
import KuWarden.Process.Execute
import KuWarden.Process.Follow
import KuWarden.Process.Histories
import KuWarden.Process.Interleaving
import KuWarden.Process.Logic
import KuWarden.Process.Outcomes
import KuWarden.Process.Positions
import KuWarden.Process.Runs
import KuWarden.Process.Triples
import KuWarden.Python.Base64
import KuWarden.Python.Demands
import KuWarden.Python.Json
import KuWarden.Python.Letters
import KuWarden.Python.Lines
import KuWarden.Python.OrderedDict
import KuWarden.Python.Regex
import KuWarden.Python.RegexLanguage
import KuWarden.Python.RegexSyntax
import KuWarden.Python.Segments
import KuWarden.Python.Substitution
import KuWarden.Python.Text
import KuWarden.Python.Unicode
import KuWarden.Python.Utf8
import KuWarden.Python.Value
import KuWarden.Python.Yaml
import KuWarden.Sandbox.Podman
import KuWarden.Sandbox.Verdicts
import KuWarden.Sandbox.Workspace
import KuWarden.Search.Rounds
import KuWarden.Shapes
import KuWarden.State
import KuWarden.Ui.FlowGraph
import KuWarden.Ui.Verdicts
