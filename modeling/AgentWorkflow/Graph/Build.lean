import AgentWorkflow.Graph.Wire
import AgentWorkflow.Reference

/-!
# Building graphs from definitions

A definition becomes a graph in two passes: first all nodes, then all edges, so
that a node may read one that comes after it. Nothing that is wrong with a
definition ends the build. A node that cannot be placed is left out, an edge
that cannot be drawn is left out, and each of them is reported; the rest of the
graph is there to be looked at and repaired.

An id counts as taken as soon as a descriptor has used it, even one that was
left out because of its type.
-/

namespace AgentWorkflow

/-- The connections of an input: the direct one, then those inside the
value. -/
def InputDescriptor.connections (i : InputDescriptor) : List Connection :=
  i.connection.toList ++ i.value.elim [] Json.references

namespace NodeDescriptor

/-- Properties of a descriptor that the editor has no use for as properties. -/
def reservedKeys : List String := ["id", "type", "inputs", "outputs"]

/-- The node a descriptor describes, with nothing wired to it. -/
def toNode (d : NodeDescriptor) (registry : Registry) (spec : NodeTypeSpec) : Graph.Node :=
  { Graph.Node.ofSpec d.id (registry.graphName d.nodeType) spec with
    properties := d.properties.filter fun m => !reservedKeys.contains m.1 }

/-- The edges a descriptor asks for, in the order in which they were
written. -/
def edges (d : NodeDescriptor) : List Graph.Edge :=
  d.inputs.flatMap fun i =>
    i.connections.map fun c => Graph.Edge.ofConnection c d.id i.name

end NodeDescriptor

namespace Graph

/-- A graph, and everything that was wrong with the definition it was built
from. -/
structure Report where
  /-- The graph of all that was right. -/
  graph : Graph
  /-- What was wrong: nodes first, then edges, each in document order. -/
  diagnostics : List Error

namespace Report

/-- Whether nothing was wrong. -/
def isClean (r : Report) : Bool := r.diagnostics.isEmpty

/-- What was wrong at one node. -/
def diagnosticsFor (r : Report) (id : String) : List Error :=
  r.diagnostics.filter fun e => e.nodeId? = some id

end Report

/-- The node a descriptor puts into the graph, or why it puts none. -/
def accept (registry : Registry) (taken : List String) (d : NodeDescriptor) :
    Except Error Node :=
  if taken.contains d.id then .error (.duplicateNodeId d.id)
  else
    match registry.get? d.nodeType with
    | none => .error (.unknownNodeType d.id d.nodeType)
    | some spec => .ok (d.toNode registry spec)

/-- What becomes of each descriptor, in order. -/
def acceptances (registry : Registry) (taken : List String) :
    List NodeDescriptor → List (NodeDescriptor × Except Error Node)
  | [] => []
  | d :: rest => (d, accept registry taken d) :: acceptances registry (d.id :: taken) rest

/-- A descriptor that is accepted gives its id to the node, and its id is not taken. -/
theorem id_of_accept {registry : Registry} {taken : List String} {d : NodeDescriptor} {n : Node}
    (accepted : accept registry taken d = .ok n) : n.id = d.id ∧ d.id ∉ taken := by
  unfold accept at accepted
  split at accepted
  · cases accepted
  · next free =>
    split at accepted
    · cases accepted
    · obtain rfl := Except.ok.inj accepted
      exact ⟨rfl, fun used => free (List.contains_iff_mem.mpr used)⟩

/-- **The nodes that are accepted** have ids of their own, and none of these was taken. -/
theorem nodup_accepted (registry : Registry) (taken : List String) (ds : List NodeDescriptor) :
    let ids := ((acceptances registry taken ds).filterMap fun a => a.2.toOption).map Node.id
    ids.Nodup ∧ ∀ id ∈ ids, id ∉ taken := by
  induction ds generalizing taken with
  | nil => exact ⟨List.nodup_nil, nofun⟩
  | cons d ds ih =>
    obtain ⟨distinct, free⟩ := ih (d.id :: taken)
    have later : ∀ id ∈ ((acceptances registry (d.id :: taken) ds).filterMap
        fun a => a.2.toOption).map Node.id, id ≠ d.id ∧ id ∉ taken := fun id hid =>
      not_or.mp fun used => free id hid (List.mem_cons.mpr used)
    rw [acceptances, List.filterMap_cons]
    cases accepted : accept registry taken d with
    | error e => exact ⟨distinct, fun id hid => (later id hid).2⟩
    | ok n =>
      obtain ⟨same, new⟩ := id_of_accept accepted
      refine ⟨List.nodup_cons.mpr ⟨fun again => (later n.id again).1 same, distinct⟩, ?_⟩
      intro id hid
      obtain rfl | hid := List.mem_cons.mp hid
      · exact same ▸ new
      · exact (later id hid).2

/-- Draws edges one after the other; those that cannot be drawn are
reported. -/
def wireAll (g : Graph) (edges : List Edge) : Report :=
  edges.foldl
    (fun r e =>
      match r.graph.wire e with
      | .ok (graph, _) => { r with graph }
      | .error obstacle =>
        { r with diagnostics := r.diagnostics ++ [e.dangling obstacle.toDanglingReason] })
    ⟨g, []⟩

/-- **The graph of a definition**, with a report of everything wrong. -/
def build (registry : Registry) (definition : Definition) : Report :=
  let accepted := acceptances registry [] definition.nodes
  let placed : Graph :=
    ⟨accepted.filterMap fun a => a.2.toOption, (nodup_accepted registry [] definition.nodes).1⟩
  let refused := accepted.filterMap fun a =>
    match a.2 with
    | .error e => some e
    | .ok _ => none
  let edges := (accepted.filter fun a => a.2.isOk).flatMap fun a => a.1.edges
  let wired := wireAll placed edges
  ⟨wired.graph, refused ++ wired.diagnostics⟩

end Graph

end AgentWorkflow
