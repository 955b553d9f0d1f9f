import AgentWorkflow.Definition.Json
import AgentWorkflow.Yaml.Node.Parser
import AgentWorkflow.Yaml.Printer
import AgentWorkflow.Yaml.Record
import AgentWorkflow.Yaml.Token.Scanner

/-!
# Definitions in YAML

Reading definitions from YAML, and writing them. The records are the same as in JSON. A node's
own members are read first and its properties after them; the properties are
values of any kind, and mappings inside them must have strings for keys, while
the value of an input may have any scalars.
-/

namespace AgentWorkflow

open Yaml

namespace Connection

/-- Reads a connection. -/
def ofYaml (n : Node Nat) : Reading Connection := do
  let fs ← Reading.fields ["from_node", "from_output"] (← Reading.textMembers n)
  let fromNode ← Reading.required fs "from_node" Reading.text
  let fromOutput ← Reading.required fs "from_output" Reading.text
  return ⟨fromNode, fromOutput⟩

end Connection

namespace InputDescriptor

/-- Reads an input whose value may have so many levels. -/
def ofYaml (levels : Nat) (n : Node Nat) : Reading InputDescriptor := do
  let fs ← Reading.fields ["name", "connection", "value"] (← Reading.textMembers n)
  let name ← Reading.required fs "name" Reading.text
  let connection ←
    Reading.defaulted fs "connection" none (Reading.optional Connection.ofYaml)
  let value ←
    Reading.defaulted fs "value" none (Reading.optional (Reading.value false levels))
  return ⟨name, connection, value⟩

end InputDescriptor

namespace NodeDescriptor

/-- Reads a node that may have so many levels below itself. -/
def ofYaml (levels : Nat) (n : Node Nat) : Reading NodeDescriptor := do
  let all ← Reading.textMembers n
  let fs ← Reading.fields structuralKeys all
  let id ← Reading.required fs "id" Reading.text
  let nodeType ← Reading.required fs "type" Reading.text
  let properties ← (all.filter fun m => !structuralKeys.contains m.1).mapM fun m =>
    return (m.1, ← Reading.value true levels m.2)
  let inputs ←
    Reading.defaulted fs "inputs" [] (Reading.list (InputDescriptor.ofYaml (levels - 2)))
  return ⟨id, nodeType, Fields.ofMembers properties, inputs⟩

end NodeDescriptor

namespace Definition

/-- Reads a definition. -/
def ofYaml (n : Node Nat) : Reading Definition := do
  let fs ← Reading.fields ["nodes"] (← Reading.textMembers n)
  let nodes ← Reading.defaulted fs "nodes" []
    (Reading.list (NodeDescriptor.ofYaml (Reading.maxLevels - 3)))
  return ⟨nodes⟩

/-- **The definition in a YAML text**; none if there is none. -/
def ofYamlText? (s : String) : Option Definition := do
  let named ← Yaml.Node.ofTokens? (← Token.scan? s)
  let (document, _) ← named.numbered? []
  Reading.run Definition.ofYaml document

/-- **The definition as a YAML text.** -/
def toYamlText (d : Definition) : String :=
  Yaml.render [("nodes", .arr (d.nodes.map NodeDescriptor.toJson))]

end Definition

end AgentWorkflow
