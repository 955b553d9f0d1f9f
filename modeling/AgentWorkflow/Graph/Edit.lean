import AgentWorkflow.Graph.Wire

/-!
# Editing graphs

What the operator can do to a graph: add and remove nodes, draw and cut edges,
set properties. An edit that names something that is not there is refused and
changes nothing. Removing a node also cuts the edges it fed, and each of them
is reported as dangling, so that the operator sees what the removal broke;
the edges into the removed node go with it and break nothing.
-/

namespace AgentWorkflow.Graph

/-- **Adds a node** of a registered type, with nothing wired to it. -/
def addNode (g : Graph) (registry : Registry) (id nodeType : String) :
    Except Error (Graph × Node) :=
  if taken : g.contains id then .error (.duplicateNodeId id)
  else
    match registry.get? nodeType with
    | none => .error (.unknownNodeType id nodeType)
    | some spec =>
      let node := Node.ofSpec id (registry.graphName nodeType) spec
      .ok (g.push node fun there => taken (List.contains_iff_mem.mpr there), node)

/-- The edges that leave a node for other nodes. -/
def edgesFrom (g : Graph) (id : String) : List Edge :=
  g.edges.filter fun e => e.sourceNode == id && e.targetNode != id

/-- **Removes a node** and all its edges; tells which inputs of other nodes
lost a source. -/
def removeNode (g : Graph) (id : String) : Except Error (Graph × List Error) :=
  if g.contains id then
    let rest := (g.filterNodes fun n => n.id != id).mapNodes fun n =>
      { n with inputs := n.inputs.map fun s => s.unlinkNode id }
    .ok (rest, (g.edgesFrom id).map fun e => e.dangling .missingNode)
  else .error (.nodeNotFound id)

/-- **Draws an edge**; tells whether it was not there before. -/
def connect (g : Graph) (e : Edge) : Except Error (Graph × Bool) :=
  (g.wire e).mapError fun obstacle => obstacle.toError e

/-- Whether an edge is there. -/
def hasEdge (g : Graph) (e : Edge) : Bool :=
  ((g.node? e.targetNode).bind fun n => n.input? e.targetInput).any fun s =>
    s.links.contains e.source

/-- **Cuts an edge**; tells whether it was there. -/
def disconnect (g : Graph) (e : Edge) : Graph × Bool :=
  (g.updateTarget e fun s => s.unlink e.source, g.hasEdge e)

/-- Changes a node that must be there. -/
def changeNode (g : Graph) (id : String) (change : Node → Node) : Except Error Graph :=
  if g.contains id then .ok (g.updateNode id change) else .error (.nodeNotFound id)

/-- Sets a property of a node. -/
def setProperty (g : Graph) (id key : String) (value : Json) : Except Error Graph :=
  g.changeNode id fun n => { n with properties := n.properties.set key value }

/-- Records what a run says about a node. -/
def annotate (g : Graph) (id : String) (status : NodeStatus) (output : Option Json) :
    Except Error Graph :=
  g.changeNode id fun n => n.setStatus status output

/-- Forgets what any run said about the nodes. -/
def resetStatuses (g : Graph) : Graph := g.mapNodes fun n => n.setStatus .plain none

end AgentWorkflow.Graph
