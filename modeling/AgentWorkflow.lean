import AgentWorkflow.AgentRuntime
import AgentWorkflow.AgentRuntime.Http
import AgentWorkflow.AgentRuntime.InMemory
import AgentWorkflow.Approval
import AgentWorkflow.Calendar
import AgentWorkflow.Cli.Arguments
import AgentWorkflow.Cli.Command
import AgentWorkflow.Cli.Execution
import AgentWorkflow.Cli.Outcome
import AgentWorkflow.Cli.Wording
import AgentWorkflow.Config
import AgentWorkflow.Config.Discovery
import AgentWorkflow.Config.Environment
import AgentWorkflow.Config.Text
import AgentWorkflow.Decimal.Numeral
import AgentWorkflow.Decimal.Shortest
import AgentWorkflow.Decimal.Style
import AgentWorkflow.Definition
import AgentWorkflow.Definition.File
import AgentWorkflow.Definition.Json
import AgentWorkflow.Definition.Yaml
import AgentWorkflow.Error
import AgentWorkflow.Event
import AgentWorkflow.Event.Bus
import AgentWorkflow.Graph.Basic
import AgentWorkflow.Graph.Build
import AgentWorkflow.Graph.Edit
import AgentWorkflow.Graph.Json
import AgentWorkflow.Graph.Layout
import AgentWorkflow.Graph.Node
import AgentWorkflow.Graph.Rank
import AgentWorkflow.Graph.RoundTrip
import AgentWorkflow.Graph.Wire
import AgentWorkflow.Http
import AgentWorkflow.Http.Replay
import AgentWorkflow.Http.Wire
import AgentWorkflow.Json.Document
import AgentWorkflow.Json.Parser
import AgentWorkflow.Json.Printer
import AgentWorkflow.Json.Record
import AgentWorkflow.Json.Token
import AgentWorkflow.Json.Value
import AgentWorkflow.Main
import AgentWorkflow.Monitor
import AgentWorkflow.NodeType
import AgentWorkflow.Path
import AgentWorkflow.Percent
import AgentWorkflow.Preview
import AgentWorkflow.Reference
import AgentWorkflow.Registry
import AgentWorkflow.Run
import AgentWorkflow.Session
import AgentWorkflow.Snapshot
import AgentWorkflow.Surroundings
import AgentWorkflow.Text
import AgentWorkflow.Ticks
import AgentWorkflow.Toml.Key
import AgentWorkflow.Toml.Line
import AgentWorkflow.Toml.Moment
import AgentWorkflow.Toml.Number
import AgentWorkflow.Toml.Parser
import AgentWorkflow.Toml.Printer
import AgentWorkflow.Toml.Quoted
import AgentWorkflow.Toml.Table
import AgentWorkflow.Url
import AgentWorkflow.Url.Host
import AgentWorkflow.Utf8
import AgentWorkflow.WorkflowName
import AgentWorkflow.Yaml.Cursor
import AgentWorkflow.Yaml.Node
import AgentWorkflow.Yaml.Node.Parser
import AgentWorkflow.Yaml.Printer
import AgentWorkflow.Yaml.Record
import AgentWorkflow.Yaml.Scalar
import AgentWorkflow.Yaml.Style
import AgentWorkflow.Yaml.Token
import AgentWorkflow.Yaml.Token.Folding
import AgentWorkflow.Yaml.Token.Name
import AgentWorkflow.Yaml.Token.Scalar
import AgentWorkflow.Yaml.Token.Scanner
import AgentWorkflow.Proofs.Publishing
import AgentWorkflow.Proofs.SessionRuns
import AgentWorkflow.Proofs.GateView
import AgentWorkflow.Proofs.GateCoherence
import AgentWorkflow.Proofs.GateHistory
import AgentWorkflow.Proofs.Asking
import AgentWorkflow.Proofs.MonitorRuns
import AgentWorkflow.Proofs.AlikeRuntimes
import AgentWorkflow.Proofs.GateDetection
import AgentWorkflow.Proofs.RecordedCalls
import AgentWorkflow.Proofs.GateRelease
import AgentWorkflow.Proofs.Observers
import AgentWorkflow.Proofs.StaleSnapshots
import AgentWorkflow.Proofs.Signatures
import AgentWorkflow.Proofs.Wiring
import AgentWorkflow.Proofs.Editing
import AgentWorkflow.Proofs.SavedGraphs
import AgentWorkflow.Proofs.ProperValues
import AgentWorkflow.Proofs.WrittenDefinitions
import AgentWorkflow.Proofs.ReadingBack
import AgentWorkflow.Proofs.Namespaces
import AgentWorkflow.Proofs.GateMarks
import AgentWorkflow.Proofs.Resuming
import AgentWorkflow.Proofs.QuietMonitors
import AgentWorkflow.Proofs.Display
import AgentWorkflow.Proofs.Outages
import AgentWorkflow.Proofs.Placement
import AgentWorkflow.Proofs.Instructions
import AgentWorkflow.Proofs.WellFormed
import AgentWorkflow.Proofs.Replay
import AgentWorkflow.Proofs.PropertyOrder
import AgentWorkflow.Proofs.SilentGraphs
import AgentWorkflow.Proofs.SavingWhileWatching
import AgentWorkflow.Proofs.RetainedGraphs
import AgentWorkflow.Proofs.FetchedDefinitions
import AgentWorkflow.Proofs.HistoricalViews
import AgentWorkflow.Proofs.Chains
import AgentWorkflow.Proofs.Ranking
import AgentWorkflow.Proofs.Layouts
import AgentWorkflow.Proofs.Accounting
import AgentWorkflow.Proofs.NestedReferences
import AgentWorkflow.Proofs.RepeatedSnapshots
import AgentWorkflow.Proofs.TimelySnapshots
import AgentWorkflow.Proofs.AtomicAnswers
import AgentWorkflow.Proofs.FailedReviews
import AgentWorkflow.Proofs.FailedFrontiers
import AgentWorkflow.Proofs.Removal
import AgentWorkflow.Proofs.Expansion
import AgentWorkflow.Proofs.WrittenRecords
import AgentWorkflow.Proofs.SentRequests
import AgentWorkflow.Proofs.RuntimeFailures
import AgentWorkflow.Proofs.PercentCodes
import AgentWorkflow.Proofs.Addresses
import AgentWorkflow.Proofs.Endpoints
import AgentWorkflow.Proofs.TypeDrift
import AgentWorkflow.Proofs.DeclaredTypes
import AgentWorkflow.Proofs.DrawnEdges
import AgentWorkflow.Proofs.Validation
import AgentWorkflow.Proofs.RankSearch
