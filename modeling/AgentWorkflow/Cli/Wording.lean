import AgentWorkflow.Calendar
import AgentWorkflow.Event
import AgentWorkflow.Graph.Basic
import AgentWorkflow.Preview
import AgentWorkflow.Run

/-!
# What the terminal shows

The lines in which events, finished runs and the nodes of a graph are shown.
Tables have columns of a fixed width, which longer texts push to the right.
-/

namespace AgentWorkflow.Cli

/-- A preview in a line, empty if there is nothing to show. -/
def previewText (output : Option Json) : String :=
  ((output.bind Preview.ofOutput?).map Preview.label).getD ""

/-- The lines that tell of an event. -/
def eventLines : Event → List String
  | .stateChanged former current => ["[state] " ++ former.name ++ " -> " ++ current.name]
  | .definitionLoaded name nodes edges diagnostics =>
    ["[definition] " ++ name ++ ": " ++ toString nodes ++ " nodes, " ++ toString edges
      ++ " edges, " ++ toString diagnostics ++ " problems"]
  | .statusesChanged requestId executed =>
    ["[" ++ requestId.getD "-" ++ "] executed: " ++ String.intercalate ", " executed]
  | .approvalRequested request =>
    ["[gate] " ++ request.requestId ++ " waiting at " ++ request.nodeId ++ ": "
        ++ previewText (some request.toolCall),
      "       run `flowdeck approve " ++ request.requestId ++ "` to continue"]
  | .approvalResolved requestId approved =>
    ["[gate] " ++ requestId ++ (if approved then " approved" else " denied")]
  | .approvalCleared requestId => ["[gate] " ++ requestId ++ " moved on without approval"]
  | .connectionDegraded detail => ["[runtime] unreachable: " ++ detail]
  | .connectionRestored => ["[runtime] reachable again"]

/-- How a node stands, in a word. -/
def statusWord : NodeStatus → String
  | .plain => "-"
  | .executed => "executed"
  | .gated => "gated"
  | .failed => "FAILED"

/-- A node with its status and its output. -/
def nodeLine (n : Graph.Node) : String :=
  "  " ++ Text.padRight 28 n.id ++ " " ++ Text.padRight 9 (statusWord n.status) ++ " "
    ++ previewText n.lastOutput?

/-- When a run began, in seconds since 1970; a dash for instants outside the
calendar. -/
def startText (seconds : Float) : String := (instantText? seconds.toInt64.toInt).getD "-"

/-- The lines that tell of a finished run. -/
def runLines (run : RunSummary) : List String :=
  ("  " ++ Text.padRight 38 run.id ++ " " ++ Text.padRight 10 run.status ++ " "
    ++ startText run.startTime ++ "  " ++ run.workflowName)
  :: run.error.toList.map fun e => "      error: " ++ e

end AgentWorkflow.Cli
