import AgentWorkflow.Definition.Json
import AgentWorkflow.Graph.Basic

/-!
# Nodes and edges in JSON

Reading and writing the parts of a graph, for callers that keep them outside.
A whole graph is never written this way; for that there are definitions.
-/

namespace AgentWorkflow

namespace NodeStatus

/-- The status in a word. -/
def name : NodeStatus → String
  | plain => "default"
  | executed => "executed"
  | gated => "gated"
  | failed => "failed"

/-- Reads a status. -/
def ofDocument? (d : Document) : Option NodeStatus :=
  d.name?.bind fun s => [plain, executed, gated, failed].find? fun status => status.name = s

/-- The status as a string. -/
def toJson (s : NodeStatus) : Json := .str s.name

end NodeStatus

namespace Position

/-- Reads a place. -/
def ofDocument? (d : Document) : Option Position := do
  let fs ← d.fields? ["x", "y"]
  let x ← Document.required fs "x" Document.float?
  let y ← Document.required fs "y" Document.float?
  return ⟨x, y⟩

/-- The place as an object. -/
def toJson (p : Position) : Json := .obj [("x", .num (.float p.x)), ("y", .num (.float p.y))]

end Position

namespace InputSlot

/-- Reads an input slot. -/
def ofDocument? (d : Document) : Option InputSlot := do
  let fs ← d.fields? ["name", "value_type", "links"]
  let name ← Document.required fs "name" Document.text?
  let valueType ← Document.required fs "value_type" Document.text?
  let links ← Document.required fs "links" (Document.list? Connection.ofDocument?)
  return ⟨name, valueType, links⟩

/-- The input slot as an object. -/
def toJson (s : InputSlot) : Json :=
  .obj [("name", .str s.name), ("value_type", .str s.valueType),
    ("links", .arr (s.links.map Connection.toJson))]

end InputSlot

namespace Graph

namespace Node

/-- Reads a node. -/
def ofDocument? (d : Document) : Option Node := do
  let fs ← d.fields? ["id", "node_type", "title", "inputs", "outputs", "properties", "defaults",
    "position", "status"]
  let id ← Document.required fs "id" Document.text?
  let nodeType ← Document.required fs "node_type" Document.text?
  let title ← Document.required fs "title" Document.text?
  let inputs ← Document.required fs "inputs" (Document.list? InputSlot.ofDocument?)
  let outputs ← Document.required fs "outputs" (Document.list? Slot.ofDocument?)
  let properties ← Document.required fs "properties" Document.members?
  let defaults ← Document.required fs "defaults" Document.members?
  let position ← Document.optional fs "position" Position.ofDocument?
  let status ← Document.defaulted fs "status" .plain NodeStatus.ofDocument?
  return { id, nodeType, title, inputs, outputs, properties, defaults, position, status }

/-- The node as an object. -/
def toJson (n : Node) : Json :=
  .obj [("id", .str n.id), ("node_type", .str n.nodeType), ("title", .str n.title),
    ("inputs", .arr (n.inputs.map InputSlot.toJson)),
    ("outputs", .arr (n.outputs.map Slot.toJson)),
    ("properties", .obj n.properties), ("defaults", .obj n.defaults),
    ("position", n.position.elim .null Position.toJson), ("status", n.status.toJson)]

end Node

namespace Edge

/-- Reads an edge. -/
def ofDocument? (d : Document) : Option Edge := do
  let fs ← d.fields? ["source_node", "source_output", "target_node", "target_input"]
  let sourceNode ← Document.required fs "source_node" Document.text?
  let sourceOutput ← Document.required fs "source_output" Document.text?
  let targetNode ← Document.required fs "target_node" Document.text?
  let targetInput ← Document.required fs "target_input" Document.text?
  return ⟨sourceNode, sourceOutput, targetNode, targetInput⟩

/-- The edge as an object. -/
def toJson (e : Edge) : Json :=
  .obj [("source_node", .str e.sourceNode), ("source_output", .str e.sourceOutput),
    ("target_node", .str e.targetNode), ("target_input", .str e.targetInput)]

end Edge

end Graph

end AgentWorkflow
