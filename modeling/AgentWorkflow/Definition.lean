import AgentWorkflow.Json.Value

/-!
# Workflow definitions

A workflow is described by a list of nodes. Each node says what it reads: its
inputs name outputs of other nodes, either directly or anywhere inside a
literal value. A reference names its source by id, so removing the source
leaves the reference dangling rather than invalid; whether references lead
anywhere is decided when a graph is built.
-/

namespace AgentWorkflow

/-- A reference to one output of a node. References are the only construct
that forms edges. -/
structure Connection where
  /-- The node that is read. -/
  fromNode : String
  /-- Which of its outputs. -/
  fromOutput : String
  deriving DecidableEq

/-- One named input of a node: a direct connection, a value that may hold
connections somewhere inside, both, or neither. -/
structure InputDescriptor where
  /-- The slot the input feeds. -/
  name : String
  /-- The direct connection. -/
  connection : Option Connection := none
  /-- The literal value. Null is no value. -/
  value : Option Json := none

/-- A node as a definition describes it. -/
structure NodeDescriptor where
  /-- The id other nodes refer to it by. -/
  id : String
  /-- The name of its type. -/
  nodeType : String
  /-- Everything else that was said about the node, in document order. -/
  properties : Fields := []
  /-- What the node reads. -/
  inputs : List InputDescriptor := []

/-- A workflow definition. -/
structure Definition where
  /-- The nodes, in document order. -/
  nodes : List NodeDescriptor := []

end AgentWorkflow
