import AgentWorkflow.Graph.Build

/-!
# Definitions from graphs, and what gets lost on the way

Writing a graph as a definition gives up what a definition cannot say: the
places of the nodes, the editor's own properties, the defaults of the types,
and values that fed no edge. Every edge becomes a direct connection, so an
input with several sources is named several times.

Nodes and edges must survive. `Graph.verifyRoundTrip` writes the graph, builds
it again and compares the two as sets, and lists what was lost or has appeared.
-/

namespace AgentWorkflow

namespace Graph

/-- The descriptor of a node. -/
def Node.toDescriptor (n : Node) : NodeDescriptor :=
  { id := n.id
    nodeType := n.bareType
    properties := n.persisted
    inputs := n.inputs.flatMap fun s =>
      s.links.map fun c => { name := s.name, connection := some c } }

/-- **The definition of a graph.** -/
def toDefinition (g : Graph) : Definition := ⟨g.nodes.map Node.toDescriptor⟩

/-- The elements of one list that are not in another: each once, sorted by a
key. -/
def missing {α : Type} [BEq α] (key : α → List String) (before after : List α) : List α :=
  ((before.filter fun a => !after.contains a).eraseDups).mergeSort fun a b =>
    Text.inOrder (key a) (key b)

/-- What differs between the nodes and edges of two graphs, in words. -/
def differences (before after : Graph) : List String :=
  (missing (fun id => [id]) before.ids after.ids).map (fun id => "node '" ++ id ++ "' lost")
    ++ (missing (fun id => [id]) after.ids before.ids).map
      (fun id => "node '" ++ id ++ "' appeared")
    ++ (missing Edge.key before.edges after.edges).map (fun e => "edge " ++ e.text ++ " lost")
    ++ (missing Edge.key after.edges before.edges).map
      (fun e => "edge " ++ e.text ++ " appeared")

/-- **Whether a graph survives being written and built again.** -/
def verifyRoundTrip (g : Graph) (registry : Registry) : Except Error Unit :=
  match g.differences (build registry g.toDefinition).graph with
  | [] => .ok ()
  | problems => .error (.serializationMismatch (String.intercalate "; " problems))

end Graph

end AgentWorkflow
