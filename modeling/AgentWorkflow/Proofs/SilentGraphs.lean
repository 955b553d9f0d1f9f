import AgentWorkflow.Proofs.Instructions

/-!
# What answers depend on

What was said about the nodes of a graph, by whoever edits it or by a run that is
watched, has no part in what happens to its nodes and edges. Take all of it away, and
what is left is the *silent* graph (`Graph.silent`): nodes, slots and wires. An edit does
to it what it does to the graph (`Graph.silent_edit`), and is answered the same
(`Graph.answer_silent`). Edits that only show what a run says do nothing to it
(`Graph.silent_edit_of_displays`).

So two graphs of which the same is left when nothing was said are edited alike and give
the same answers, for good.
-/

namespace AgentWorkflow

namespace Graph

/-- The node, with nothing said about it. -/
def Node.silent (n : Node) : Node :=
  { n with properties := [], position := none, status := .plain }

/-- **The graph, with nothing said about its nodes.** -/
def silent (g : Graph) : Graph := g.mapNodes Node.silent

/-- **Whether an edit only shows something**: what a run says, or where the nodes stand. -/
def Edit.displays : Edit → Bool
  | .annotate .. | .resetStatuses | .applyLayout _ => true
  | _ => false

variable {registry : Registry} {g h : Graph}

/-! ## What was said does not matter -/

theorem nodes_silent (g : Graph) : g.silent.nodes = g.nodes.map Node.silent := rfl

theorem silent_silent (g : Graph) : g.silent.silent = g.silent := by
  refine eq_of_nodes ?_
  rw [nodes_silent, nodes_silent, List.map_map]
  rfl

theorem ids_silent (g : Graph) : g.silent.ids = g.ids := ids_mapNodes g Node.silent

theorem contains_silent (g : Graph) (id : String) : g.silent.contains id = g.contains id := by
  unfold contains
  rw [ids_silent]

theorem node?_silent (g : Graph) (id : String) :
    g.silent.node? id = (g.node? id).map Node.silent :=
  node?_mapNodes g Node.silent id

theorem edges_silent (g : Graph) : g.silent.edges = g.edges := by
  unfold edges
  rw [nodes_silent, List.flatMap_map]
  rfl

theorem wiresAt_silent (g : Graph) (e : Edge) : g.silent.wiresAt e = g.wiresAt e := by
  unfold wiresAt
  rw [node?_silent, node?_silent]
  cases g.node? e.sourceNode with
  | none => rfl
  | some source =>
    cases g.node? e.targetNode with
    | none => rfl
    | some target => rfl

theorem hasEdge_silent (g : Graph) (e : Edge) : g.silent.hasEdge e = g.hasEdge e := by
  unfold hasEdge
  rw [node?_silent]
  cases g.node? e.targetNode with
  | none => rfl
  | some target => rfl

/-- **An edit is answered the same**, whatever was said. -/
theorem answer_silent (registry : Registry) (g : Graph) (change : Edit) :
    g.silent.answer registry change = g.answer registry change := by
  cases change with
  | addNode id nodeType =>
    have same : g.silent.contains id = g.contains id := g.contains_silent id
    dsimp only [answer, addNode]
    by_cases taken : g.contains id = true
    · rw [dif_pos taken, dif_pos (same.trans taken)]
    · rw [dif_neg taken, dif_neg (same ▸ taken)]
      cases registry.get? nodeType <;> rfl
  | removeNode id =>
    dsimp only [answer, removeNode, edgesFrom]
    rw [contains_silent, edges_silent]
    split <;> rfl
  | connect e =>
    dsimp only [answer, connect, wire]
    rw [wiresAt_silent]
    cases g.wiresAt e <;> rfl
  | disconnect e => exact congrArg (fun new => Except.ok (Answer.changed new)) (g.hasEdge_silent e)
  | setProperty id key value | annotate id status output =>
    dsimp only [answer, setProperty, annotate, changeNode]
    rw [contains_silent]
    split <;> rfl
  | resetStatuses | applyLayout => rfl

/-! ## What is done to silent graphs -/

theorem silent_mapNodes {change : Node → Node} (quiet : ∀ n, (change n).silent = n.silent)
    (g : Graph) : (g.mapNodes change).silent = g.silent := by
  refine eq_of_nodes ?_
  rw [nodes_silent, nodes_silent, nodes_mapNodes, List.map_map]
  refine List.map_congr_left fun n _ => ?_
  show ({ (change n).silent with id := n.id } : Node) = n.silent
  rw [quiet]
  rfl

theorem silent_updateNode {change : Node → Node} (quiet : ∀ n, (change n).silent = n.silent)
    (g : Graph) (id : String) : (g.updateNode id change).silent = g.silent := by
  refine silent_mapNodes (fun n => ?_) g
  split
  · exact quiet n
  · rfl

theorem silent_push {n : Node} (new : n.id ∉ g.ids) (new' : n.id ∉ g.silent.ids) :
    (g.push n new).silent = (g.silent.push n new').silent := by
  have twice : g.silent.nodes.map Node.silent = g.nodes.map Node.silent :=
    congrArg Graph.nodes g.silent_silent
  refine eq_of_nodes ?_
  show (g.nodes ++ [n]).map Node.silent = (g.silent.nodes ++ [n]).map Node.silent
  rw [List.map_append, List.map_append, twice]

theorem silent_without (g : Graph) (id : String) :
    (g.without id).silent = g.silent.without id := by
  refine eq_of_nodes ?_
  unfold without
  rw [nodes_silent, nodes_mapNodes, nodes_mapNodes, List.map_map]
  show _ = ((g.nodes.map Node.silent).filter fun n => n.id != id).map _
  rw [List.filter_map, List.map_map]
  rfl

theorem silent_updateTarget (g : Graph) (e : Edge) (rewire : InputSlot → InputSlot) :
    (g.updateTarget e rewire).silent = g.silent.updateTarget e rewire := by
  refine eq_of_nodes ?_
  unfold updateTarget updateNode
  rw [nodes_silent, nodes_mapNodes, nodes_mapNodes, nodes_silent, List.map_map, List.map_map]
  refine List.map_congr_left fun n _ => ?_
  show Node.silent { (if n.id = e.targetNode then n.updateInput e.targetInput rewire else n) with
    id := n.id } = { (if n.id = e.targetNode then n.silent.updateInput e.targetInput rewire
      else n.silent) with id := n.id }
  split <;> rfl

/-- **What only shows something** leaves the silent graph alone. -/
theorem silent_edit_of_displays {change : Edit} (shows : change.displays = true)
    (registry : Registry) (g : Graph) : (g.edit registry change).silent = g.silent := by
  cases change with
  | annotate id status output =>
    have quiet (n : Node) : (n.setStatus status output).silent = n.silent := rfl
    rw [edit_annotate]
    exact silent_updateNode quiet g id
  | resetStatuses =>
    have quiet (n : Node) : (n.setStatus .plain none).silent = n.silent := rfl
    exact silent_mapNodes quiet g
  | applyLayout l =>
    have quiet (n : Node) :
        Node.silent { n with position := (l.position? n.id).or n.position } = n.silent := rfl
    exact silent_mapNodes quiet g
  | addNode | removeNode | connect | disconnect | setProperty => cases shows

/-- **An edit does to the silent graph** what it does to the graph. -/
theorem silent_edit (registry : Registry) (g : Graph) (change : Edit) :
    (g.edit registry change).silent = (g.silent.edit registry change).silent := by
  cases change with
  | addNode id nodeType =>
    by_cases taken : id ∈ g.ids
    · rw [edit_addNode_of_mem registry taken, edit_addNode_of_mem registry (g.ids_silent ▸ taken)]
      exact g.silent_silent.symm
    · rw [edit_addNode_of_notMem registry taken,
        edit_addNode_of_notMem registry (g.ids_silent ▸ taken)]
      cases registry.get? nodeType with
      | none => exact g.silent_silent.symm
      | some spec => exact silent_push taken (g.ids_silent ▸ taken)
  | removeNode id =>
    rw [edit_removeNode, edit_removeNode, contains_silent]
    split
    · rw [silent_without, silent_without, silent_silent]
    · exact g.silent_silent.symm
  | connect e =>
    dsimp only [edit, connect, wire]
    rw [wiresAt_silent]
    cases g.wiresAt e with
    | error obstacle => exact g.silent_silent.symm
    | ok links =>
      show (g.draw e).silent = (g.silent.draw e).silent
      unfold draw
      rw [silent_updateTarget, silent_updateTarget, silent_silent]
  | disconnect e =>
    dsimp only [edit, disconnect]
    rw [silent_updateTarget, silent_updateTarget, silent_silent]
  | setProperty id key value =>
    have quiet (n : Node) :
        Node.silent { n with properties := n.properties.set key value } = n.silent := rfl
    rw [edit_setProperty, edit_setProperty, silent_updateNode quiet, silent_updateNode quiet,
      silent_silent]
  | annotate | resetStatuses | applyLayout =>
    rw [silent_edit_of_displays rfl, silent_edit_of_displays rfl, silent_silent]

/-! ## Graphs of which the same is left -/

/-- Graphs of which the same is left are edited alike. -/
theorem silent_edit_congr (same : g.silent = h.silent) (registry : Registry) (change : Edit) :
    (g.edit registry change).silent = (h.edit registry change).silent := by
  rw [silent_edit, same, ← silent_edit]

/-- Graphs of which the same is left give the same answers. -/
theorem answer_congr (same : g.silent = h.silent) (registry : Registry) (change : Edit) :
    g.answer registry change = h.answer registry change := by
  rw [← answer_silent, same, answer_silent]

end Graph

end AgentWorkflow
