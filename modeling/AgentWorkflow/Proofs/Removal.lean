import AgentWorkflow.Proofs.Accounting
import AgentWorkflow.Proofs.SavedGraphs

/-!
# Removed nodes

A node can be removed in the editor. It can also be removed in the file: the graph is saved,
the descriptor of the node is deleted, and what is left is loaded. Both ways end with the
same graph, and both report the same edges (`Graph.removing_is_deleting`).

An edge is written where it leads. The edges into the node are therefore deleted with its
descriptor, as the editor removes them with the node, and nobody misses them; a loop is one
of these. The edges out of the node are still asked for. The editor cuts them and reports
each of them as dangling, and so does the second pass of a build, which finds nothing at
their source (`Graph.obstacle?_without`). To every other edge the node is of no account: it
can be drawn among the nodes that are left, because it was an edge of a sound graph.
-/

namespace AgentWorkflow

/-- The definition without the descriptors of an id. -/
def Definition.without (definition : Definition) (id : String) : Definition :=
  ⟨definition.nodes.filter fun d => d.id != id⟩

namespace Graph

variable {registry : Registry} {g : Graph} {id : String} {e : Edge}

/-! ## Edges that are drawn, and edges that are not -/

/-- **Of many edges those are drawn**, in their order, that nothing is in the way of in the
graph as it was at first. -/
theorem graph_wireAll (g : Graph) (es : List Edge) :
    (wireAll g es).graph = (es.filter fun e => (g.obstacle? e).isNone).foldl draw g := by
  induction es generalizing g with
  | nil => rfl
  | cons e es ih =>
    obtain ⟨drawable, new, drawn⟩ | ⟨-, obstacle, refused⟩ := g.wire_cases e
    · have free : g.obstacle? e = none := drawable_iff_obstacle?_eq_none.mp drawable
      have same : ∀ e', (g.draw e).obstacle? e' = g.obstacle? e' :=
        obstacle?_congr (g.unwired_draw e)
      rw [wireAll_cons_of_ok drawn, ih, List.filter_cons, free]
      simp only [same]
      rfl
    · have missing := obstacle?_of_wire_eq_error refused
      rw [wireAll_cons_of_error refused, List.filter_cons, missing]
      exact ih g

/-- **What is in the way of an edge keeps it out** of what is drawn, and is reported. -/
theorem wireAll_eq_filter (tidy : g.Tidy) (es : List Edge) :
    wireAll g es
      = ⟨(wireAll g (es.filter fun e => (g.obstacle? e).isNone)).graph,
        es.filterMap fun e => (g.obstacle? e).map fun o => e.dangling o.toDanglingReason⟩ := by
  have drawn : (wireAll g es).graph
      = (wireAll g (es.filter fun e => (g.obstacle? e).isNone)).graph := by
    rw [graph_wireAll, graph_wireAll, List.filter_filter]
    simp only [Bool.and_self]
  rw [← drawn, ← (wireAll_accounts tidy es).2]

/-! ## The edges that are left -/

theorem Node.targetNode_of_mem_edges {n : Node} (he : e ∈ n.edges) : e.targetNode = n.id := by
  obtain ⟨s, -, he⟩ := List.mem_flatMap.mp he
  obtain ⟨c, -, rfl⟩ := List.mem_map.mp he
  rfl

/-- The edges of a graph of which a node was taken **lead elsewhere**. -/
theorem edges_filterNodes (g : Graph) (id : String) :
    (g.filterNodes fun n => n.id != id).edges = g.edges.filter fun e => e.targetNode != id := by
  show (g.nodes.filter fun n => n.id != id).flatMap Node.edges
    = (g.nodes.flatMap Node.edges).filter _
  induction g.nodes with
  | nil => rfl
  | cons n ns ih =>
    have into : ∀ e ∈ n.edges, (e.targetNode != id) = (n.id != id) := fun e he =>
      congrArg (· != id) (Node.targetNode_of_mem_edges he)
    rw [List.filter_cons, List.flatMap_cons, List.filter_append, ← ih, List.filter_congr into]
    cases n.id != id with
    | false => rw [if_neg Bool.false_ne_true, List.filter_false, List.nil_append]
    | true => rw [if_pos rfl, List.flatMap_cons, List.filter_true]

/-- A node that is cut from another keeps its **other edges**. -/
theorem Node.edges_unlinkNode (n : Node) (id : String) :
    Node.edges { n with inputs := n.inputs.map fun s => s.unlinkNode id }
      = n.edges.filter fun e => e.sourceNode != id := by
  show (n.inputs.map fun s => s.unlinkNode id).flatMap _ = _
  unfold edges
  rw [List.flatMap_map, List.filter_flatMap]
  refine List.flatMap_congr fun s _ => ?_
  rw [List.filter_map]
  rfl

/-- **The edges that are left** neither start nor end at the node that was removed. -/
theorem edges_without (g : Graph) (id : String) :
    (g.without id).edges
      = g.edges.filter fun e => e.sourceNode != id && e.targetNode != id := by
  have cut : (g.without id).edges
      = (g.filterNodes fun n => n.id != id).edges.filter fun e => e.sourceNode != id := by
    show ((g.nodes.filter fun n => n.id != id).map _).flatMap Node.edges
      = ((g.nodes.filter fun n => n.id != id).flatMap Node.edges).filter _
    rw [List.flatMap_map, List.filter_flatMap]
    exact List.flatMap_congr fun n _ => n.edges_unlinkNode id
  rw [cut, edges_filterNodes, List.filter_filter]

/-- **The ids that are left** are all the others. -/
theorem ids_without (g : Graph) (id : String) : (g.without id).ids = g.ids.filter (· != id) := by
  rw [without, ids_mapNodes]
  show (g.nodes.filter fun n => n.id != id).map Node.id = (g.nodes.map Node.id).filter _
  rw [List.filter_map]
  rfl

/-! ## What is loaded once a descriptor was deleted -/

/-- To delete a descriptor is to **save a graph of which the node was taken**, whatever it
fed. -/
theorem toDefinition_without (g : Graph) (id : String) :
    g.toDefinition.without id = (g.filterNodes fun n => n.id != id).toDefinition := by
  refine congrArg Definition.mk ?_
  show (g.nodes.map Node.toDescriptor).filter _ = _
  rw [List.filter_map]
  rfl

theorem unwired_without (g : Graph) (id : String) :
    ((g.without id).mapNodes Node.stored).unwired
      = ((g.filterNodes fun n => n.id != id).mapNodes Node.stored).unwired := by
  refine eq_of_nodes ?_
  show (((g.nodes.filter fun n => n.id != id).map _).map _).map Node.unwired
    = ((g.nodes.filter fun n => n.id != id).map _).map Node.unwired
  rw [List.map_map, List.map_map, List.map_map]
  refine List.map_congr_left fun n _ => ?_
  exact n.stored.unwired_map_inputs (InputSlot.rewires_unlinkNode id)

/-- **Of the edges that are still asked for** those cannot be drawn that start at the node
that was removed, since it is not there. -/
theorem Sound.obstacle?_without (sound : g.Sound) (he : e ∈ g.edges) (apart : e.targetNode ≠ id) :
    ((g.without id).mapNodes Node.stored).obstacle? e
      = if e.sourceNode = id then some .sourceNode else none := by
  split
  · next starts =>
    have gone : e.sourceNode ∉ ((g.without id).mapNodes Node.stored).ids := by
      rw [ids_mapNodes, ids_without, starts]
      simp
    unfold obstacle? wiresAt
    cases found : ((g.without id).mapNodes Node.stored).node? e.sourceNode with
    | none => rfl
    | some n =>
      obtain ⟨there, same⟩ := node?_eq_some_iff.mp found
      exact absurd (List.mem_map.mpr ⟨n, there, same⟩) gone
  · next starts =>
    have kept : ((g.without id).mapNodes Node.stored).Sound :=
      (sound.without id).mapNodes (fun _ => rfl) fun _ => rfl
    refine drawable_iff_obstacle?_eq_none.mp (kept.drawable ?_)
    rw [edges_mapNodes_stored, edges_without]
    exact List.mem_filter.mpr ⟨he, by simp [starts, apart]⟩

/-- **What is left of a saved graph** once a descriptor was deleted: the graph without the
node, and a remark about every edge that the node fed. -/
theorem build_without (sound : g.Sound) (ofType : ∀ n ∈ g.nodes, n.OfType registry) (id : String) :
    build registry (g.toDefinition.without id)
      = ⟨(g.without id).mapNodes Node.stored,
        (g.edgesFrom id).map fun e => e.dangling .missingNode⟩ := by
  have kept : ((g.without id).mapNodes Node.stored).Sound :=
    (sound.without id).mapNodes (fun _ => rfl) fun _ => rfl
  have obstacle : ∀ e ∈ g.edges.filter fun e => e.targetNode != id,
      ((g.without id).mapNodes Node.stored).unwired.obstacle? e
        = if e.sourceNode = id then some .sourceNode else none := by
    intro e he
    obtain ⟨he, apart⟩ := List.mem_filter.mp he
    rw [obstacle?_unwired, sound.obstacle?_without he (by simpa using apart)]
  -- what can be drawn are the edges that are left
  have drawn : (g.edges.filter fun e => e.targetNode != id).filter
      (fun e => (((g.without id).mapNodes Node.stored).unwired.obstacle? e).isNone)
        = ((g.without id).mapNodes Node.stored).edges := by
    rw [edges_mapNodes_stored, edges_without, ← List.filter_filter]
    refine List.filter_congr fun e he => ?_
    rw [obstacle e he]
    by_cases starts : e.sourceNode = id <;> simp [starts]
  -- what cannot be drawn are the edges out of the node
  have reported : (g.edges.filter fun e => e.targetNode != id).filterMap
      (fun e => (((g.without id).mapNodes Node.stored).unwired.obstacle? e).map
        fun o => e.dangling o.toDanglingReason)
        = (g.edgesFrom id).map fun e => e.dangling .missingNode := by
    rw [edgesFrom, ← List.filter_filter, ← List.filterMap_eq_map,
      List.filterMap_filter (l := g.edges.filter _)]
    refine List.filterMap_congr fun e he => ?_
    rw [obstacle e he]
    by_cases starts : e.sourceNode = id
    · simp [starts, Obstacle.toDanglingReason]
    · simp [starts]
  rw [toDefinition_without,
    build_toDefinition_eq_wireAll fun n hn => ofType n (List.mem_filter.mp hn).1,
    ← unwired_without, edges_filterNodes, wireAll_eq_filter (tidy_unwired _), drawn,
    wireAll_edges kept, reported]

/-- **Removing a node is deleting its descriptor.** Take any graph that was built and edited,
and remove a node; or save the graph, delete the descriptor of the node, and load the rest.
The nodes are the same, each as it is stored, and so are the edges: all those that neither
start nor end at the node, in their order. What the editor answers is what is wrong with the
definition: every edge from the node to another one, in order, is missing its source. -/
theorem removing_is_deleting (registry : Registry) (named : registry.WellNamed)
    (definition : Definition) (edits : List Edit) :
    let g := (build registry definition).graph.editAll registry edits
    ∀ id ∈ g.ids,
      let deleted := build registry (g.toDefinition.without id)
      ∃ rest severed,
        g.removeNode id = .ok (rest, severed)
          ∧ deleted.graph = rest.mapNodes Node.stored
          ∧ deleted.graph.ids = rest.ids
          ∧ deleted.graph.edges = rest.edges
          ∧ deleted.diagnostics = severed
          ∧ severed = (g.edges.filter fun e => e.sourceNode = id ∧ e.targetNode ≠ id).map
            (fun e => e.dangling .missingNode)
          ∧ rest.edges = g.edges.filter (fun e => e.sourceNode ≠ id ∧ e.targetNode ≠ id)
          ∧ rest.ids = g.ids.filter (· ≠ id) := by
  intro g id there deleted
  have sound : g.Sound := (Sound.build registry definition).editAll registry edits
  have loaded : deleted = ⟨(g.without id).mapNodes Node.stored,
      (g.edgesFrom id).map fun e => e.dangling .missingNode⟩ :=
    build_without sound (ofType_editAll named definition edits) id
  have removed : g.removeNode id
      = .ok (g.without id, (g.edgesFrom id).map fun e => e.dangling .missingNode) :=
    if_pos (List.contains_iff_mem.mpr there)
  refine ⟨g.without id, _, removed, ?_, ?_, ?_, ?_, ?_, ?_, ?_⟩
  · rw [loaded]
  · rw [loaded, ids_mapNodes]
  · rw [loaded, edges_mapNodes_stored]
  · rw [loaded]
  · unfold edgesFrom
    refine congrArg (List.map _) (List.filter_congr fun e _ => ?_)
    rw [Bool.eq_iff_iff]
    simp
  · rw [edges_without]
    refine List.filter_congr fun e _ => ?_
    rw [Bool.eq_iff_iff]
    simp
  · rw [ids_without]
    refine List.filter_congr fun other _ => ?_
    rw [Bool.eq_iff_iff]
    simp

/-- The node that everything reads: each of the three edges is reported, and none is left. -/
theorem removing_is_deleting_source :
    let g := (build .withBuiltins twoSources).graph.editAll .withBuiltins mergeAdded
    let deleted := build .withBuiltins (g.toDefinition.without "in")
    Registry.withBuiltins.WellNamed ∧ "in" ∈ g.ids
      ∧ ∃ rest severed,
        g.removeNode "in" = .ok (rest, severed)
          ∧ deleted.graph.ids = rest.ids ∧ rest.ids = ["out", "merge"]
          ∧ deleted.graph.edges = rest.edges ∧ rest.edges = []
          ∧ deleted.diagnostics = severed
          ∧ severed = [.danglingEdge "out" "final_output" "in" "user_text" .missingNode,
            .danglingEdge "out" "final_output" "in" "tool_result" .missingNode,
            .danglingEdge "merge" "in2" "in" "user_text" .missingNode] := by
  have named : Registry.withBuiltins.WellNamed := .builtinsUnder (Or.inr ⟨"agent", by decide⟩)
  intro g deleted
  have there : "in" ∈ g.ids := by decide +kernel
  obtain ⟨rest, severed, removed, -, ids, edges, diagnostics, reported, left, others⟩ :=
    removing_is_deleting .withBuiltins named twoSources mergeAdded "in" there
  exact ⟨named, there, rest, severed, removed, ids, others.trans (by decide +kernel), edges,
    left.trans (by decide +kernel), diagnostics, reported.trans (by decide +kernel)⟩

end Graph

end AgentWorkflow
