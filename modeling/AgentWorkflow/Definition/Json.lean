import AgentWorkflow.Definition
import AgentWorkflow.Json.Record

/-!
# Definitions in JSON

Reading and writing definitions as JSON. A node is written flat: `id` and
`type`, then its properties, then its inputs, all as members of one object.
Reading takes the three known members out and keeps the others as properties,
in their order. That is why a node, unlike the other records, cannot be given as
an array: an array has no names to keep.
-/

namespace AgentWorkflow

namespace Connection

/-- Reads a connection. -/
def ofDocument? (d : Document) : Option Connection := do
  let fs ← d.fields? ["from_node", "from_output"]
  let fromNode ← Document.required fs "from_node" Document.text?
  let fromOutput ← Document.required fs "from_output" Document.text?
  return ⟨fromNode, fromOutput⟩

/-- The connection as an object. -/
def toJson (c : Connection) : Json :=
  .obj [("from_node", .str c.fromNode), ("from_output", .str c.fromOutput)]

end Connection

namespace InputDescriptor

/-- Reads an input. -/
def ofDocument? (d : Document) : Option InputDescriptor := do
  let fs ← d.fields? ["name", "connection", "value"]
  let name ← Document.required fs "name" Document.text?
  let connection ← Document.optional fs "connection" Connection.ofDocument?
  let value ← Document.optional fs "value" Document.toJson?
  return ⟨name, connection, value⟩

/-- The input as an object. What is absent is left out. -/
def toJson (i : InputDescriptor) : Json :=
  .obj ([("name", .str i.name)]
    ++ i.connection.toList.map (fun c => ("connection", c.toJson))
    ++ i.value.toList.map (fun v => ("value", v)))

end InputDescriptor

namespace NodeDescriptor

/-- The members of a node that are not properties. -/
def structuralKeys : List String := ["id", "type", "inputs"]

/-- Reads a node. -/
def ofDocument? : Document → Option NodeDescriptor
  | .obj members => do
    let fs ← (Document.obj members).fields? structuralKeys
    let id ← Document.required fs "id" Document.text?
    let nodeType ← Document.required fs "type" Document.text?
    let properties ← Document.membersToJson?
      (members.filter fun m => !structuralKeys.contains m.1)
    let inputs ← Document.defaulted fs "inputs" []
      (Document.list? InputDescriptor.ofDocument?)
    return ⟨id, nodeType, Fields.ofMembers properties, inputs⟩
  | _ => none

/-- The members of a node, properties between the type and the inputs. A node
without inputs has no such member. -/
def members (n : NodeDescriptor) : List (String × Json) :=
  [("id", .str n.id), ("type", .str n.nodeType)] ++ n.properties
    ++ (if n.inputs.isEmpty then [] else [("inputs", .arr (n.inputs.map InputDescriptor.toJson))])

/-- The node as an object. -/
def toJson (n : NodeDescriptor) : Json := .obj n.members

end NodeDescriptor

namespace Definition

/-- Reads a definition. -/
def ofDocument? (d : Document) : Option Definition := do
  let fs ← d.fields? ["nodes"]
  let nodes ← Document.defaulted fs "nodes" [] (Document.list? NodeDescriptor.ofDocument?)
  return ⟨nodes⟩

/-- The definition as an object. -/
def toJson (d : Definition) : Json := .obj [("nodes", .arr (d.nodes.map NodeDescriptor.toJson))]

end Definition

end AgentWorkflow
