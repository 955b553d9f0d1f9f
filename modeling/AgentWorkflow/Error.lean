/-!
# What can go wrong

All causes of failure in one type. Four of them are *structural*: they tell
about a definition or a graph, are collected instead of ending a build, and
each names the node it should be shown at, a cycle excepted, which has no one
node. The others end the operation that met them.

The wording of each cause is `Error.message`; nothing else in the library
spells it.
-/

namespace AgentWorkflow

/-- Why a reference could not become an edge. -/
inductive DanglingReason where
  /-- The source is no node of the definition. -/
  | missingNode
  /-- The source is a node without such an output. -/
  | missingOutput
  /-- The target's type has no such input slot. -/
  | missingInputSlot
  deriving DecidableEq

/-- The reason in words. -/
def DanglingReason.message : DanglingReason → String
  | missingNode => "source node does not exist"
  | missingOutput => "source output does not exist"
  | missingInputSlot => "target input slot does not exist"

/-- A cause of failure. -/
inductive Error where
  /-- A node of a type the registry does not know. -/
  | unknownNodeType (nodeId nodeType : String)
  /-- A second node with the same id. -/
  | duplicateNodeId (nodeId : String)
  /-- A reference that could not become an edge. -/
  | danglingEdge (targetNode targetInput fromNode fromOutput : String) (reason : DanglingReason)
  /-- Nodes that read each other in a circle; the first stands again at the end. -/
  | cycleDetected (cycle : List String)
  /-- A graph that does not survive being written and read back. -/
  | serializationMismatch (differences : String)
  /-- A node that was asked for and is not there. -/
  | nodeNotFound (nodeId : String)
  /-- A slot that was asked for and is not there. -/
  | slotNotFound (nodeId slot : String)
  /-- The runtime could not be reached or did not answer as it should. -/
  | transport (detail : String)
  /-- A name under which no definition may be stored. -/
  | invalidWorkflowName (name : String)
  /-- An answer to a gate that does not wait for one. -/
  | noOutstandingApproval (requestId : String)
  /-- A configuration that cannot be read. -/
  | config (detail : String)
  /-- A configuration file that is not there. -/
  | configNotFound (path : String)
  /-- A file that cannot be read. -/
  | io (detail : String)
  /-- A text that is not the JSON it should be. -/
  | json (detail : String)
  /-- A text that is not the YAML it should be. -/
  | yaml (detail : String)
  deriving DecidableEq

namespace Error

/-- The cause in words. -/
def message : Error → String
  | unknownNodeType nodeId nodeType =>
    "Unknown node type '" ++ nodeType ++ "' on node '" ++ nodeId ++ "'"
  | duplicateNodeId nodeId => "Duplicate node id: " ++ nodeId
  | danglingEdge targetNode targetInput fromNode fromOutput reason =>
    "Dangling edge " ++ fromNode ++ "." ++ fromOutput ++ " -> " ++ targetNode ++ "."
      ++ targetInput ++ ": " ++ reason.message
  | cycleDetected cycle => "Cycle detected: " ++ String.intercalate " -> " cycle
  | serializationMismatch differences => "Serialization mismatch: " ++ differences
  | nodeNotFound nodeId => "Node not found: " ++ nodeId
  | slotNotFound nodeId slot => "Slot '" ++ slot ++ "' not found on node '" ++ nodeId ++ "'"
  | transport detail => "Transport error: " ++ detail
  | invalidWorkflowName name => "Invalid workflow name: " ++ name
  | noOutstandingApproval requestId =>
    "No outstanding approval for request: " ++ requestId
  | config detail => "Config error: " ++ detail
  | configNotFound path => "Config file not found: " ++ path
  | io detail => "I/O error: " ++ detail
  | json detail => "JSON error: " ++ detail
  | yaml detail => "YAML error: " ++ detail

/-- The node at which the cause should be shown. -/
def nodeId? : Error → Option String
  | unknownNodeType nodeId _ => some nodeId
  | duplicateNodeId nodeId => some nodeId
  | danglingEdge targetNode .. => some targetNode
  | nodeNotFound nodeId => some nodeId
  | slotNotFound nodeId _ => some nodeId
  | _ => none

/-- Whether the cause is a fault of a definition or graph. Such causes are
reported together and never stop the operator from editing. -/
def isStructural : Error → Bool
  | unknownNodeType .. | duplicateNodeId .. | danglingEdge .. | cycleDetected .. => true
  | _ => false

end Error

end AgentWorkflow
