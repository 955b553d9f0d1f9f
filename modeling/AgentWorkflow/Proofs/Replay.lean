import AgentWorkflow.Proofs.Instructions
import AgentWorkflow.Proofs.Placement
import AgentWorkflow.Proofs.ProperValues

/-!
# Building is editing

A definition can be built, or it can be typed in: first every node that it describes is
added and its properties are set, one by one; then every edge that it asks for is drawn
(`Definition.replay`). Both ways lead to the same graph, and both find the same fault
with the same edges, each in words of its own (`Graph.building_is_editing`).

**Nodes.** The node is added bare, and what the editor does to it afterwards it does to
the node that came last. A property that is set there goes to the end of those that
were set before, since no key is there twice.

**Edges.** An edge that was drawn changes no bare node, so by the time an edge is asked
for, the node that asks for it is there. Of the four things that can be in the way of
an edge this rules out the one of which the two ways would speak differently.
-/

namespace AgentWorkflow

namespace NodeDescriptor

/-- The edits that put the node of a descriptor into a graph. -/
def placing (d : NodeDescriptor) : List Graph.Edit :=
  .addNode d.id d.nodeType
    :: (d.properties.filter fun m => !reservedKeys.contains m.1).map
      fun m => .setProperty d.id m.1 m.2

/-- The edits that wire its inputs: for each of them the direct connection, then what
the value refers to. -/
def wiring (d : NodeDescriptor) : List Graph.Edit :=
  d.inputs.flatMap fun i =>
    (i.connection.toList ++ i.value.elim [] Json.references).map
      fun c => .connect ⟨c.fromNode, c.fromOutput, d.id, i.name⟩

theorem wiring_eq (d : NodeDescriptor) : d.wiring = d.edges.map Graph.Edit.connect := by
  unfold wiring edges
  rw [List.map_flatMap]
  refine List.flatMap_congr fun i _ => ?_
  rw [List.map_map]
  rfl

theorem targetNode_of_mem_edges {d : NodeDescriptor} {e : Graph.Edge} (h : e ∈ d.edges) :
    e.targetNode = d.id := by
  obtain ⟨i, -, asked⟩ := List.mem_flatMap.mp h
  obtain ⟨c, -, rfl⟩ := List.mem_map.mp asked
  rfl

end NodeDescriptor

/-- The descriptors of a definition that are accepted when it is built. -/
def Definition.accepted (registry : Registry) (definition : Definition) : List NodeDescriptor :=
  ((Graph.acceptances registry [] definition.nodes).filter fun a => a.2.isOk).map Prod.fst

theorem Definition.accepted_eq_placed (registry : Registry) (definition : Definition) :
    definition.accepted registry = definition.placed registry := by
  unfold accepted
  rw [Graph.filter_acceptances_nodes, List.map_map]
  exact List.map_id _

/-- **The edits that type a definition in**: first all nodes, then all edges. -/
def Definition.replay (registry : Registry) (definition : Definition) : List Graph.Edit :=
  (definition.accepted registry).flatMap NodeDescriptor.placing
    ++ (definition.accepted registry).flatMap NodeDescriptor.wiring

/-- What the operator is told who draws the edge by hand. -/
def DanglingReason.refusal (e : Graph.Edge) : DanglingReason → Error
  | missingNode => .nodeNotFound e.sourceNode
  | missingOutput => .slotNotFound e.sourceNode e.sourceOutput
  | missingInputSlot => .slotNotFound e.targetNode e.targetInput

namespace Graph

variable {registry : Registry} {g : Graph}

/-- **The edits of a run that are refused**, in order, each with what is answered. -/
def refusals (registry : Registry) : Graph → List Edit → List (Edit × Error)
  | _, [] => []
  | g, change :: edits =>
    match g.answer registry change with
    | .error e => (change, e) :: refusals registry (g.edit registry change) edits
    | .ok _ => refusals registry (g.edit registry change) edits

theorem editAll_cons (registry : Registry) (g : Graph) (change : Edit) (edits : List Edit) :
    g.editAll registry (change :: edits) = (g.edit registry change).editAll registry edits := rfl

theorem editAll_append (registry : Registry) (g : Graph) (edits more : List Edit) :
    g.editAll registry (edits ++ more) = (g.editAll registry edits).editAll registry more :=
  List.foldl_append

theorem refusals_append (registry : Registry) (g : Graph) (edits more : List Edit) :
    refusals registry g (edits ++ more)
      = refusals registry g edits ++ refusals registry (g.editAll registry edits) more := by
  induction edits generalizing g with
  | nil => rfl
  | cons change edits ih =>
    rw [List.cons_append, refusals, refusals, ih]
    cases g.answer registry change with
    | error e => rfl
    | ok a => rfl

/-! ## Typing nodes in -/

theorem updateNode_push {n : Node} (free : n.id ∉ g.ids) (properties : Fields → Fields) :
    ((g.push n free).updateNode n.id fun m => { m with properties := properties m.properties })
      = g.push { n with properties := properties n.properties } free := by
  refine eq_of_nodes ?_
  unfold updateNode push
  rw [nodes_mapNodes, List.map_append]
  refine congrArg₂ (· ++ ·) ((List.map_congr_left fun m hm => ?_).trans (List.map_id _)) ?_
  · have other : m.id ≠ n.id := fun same => free (List.mem_map.mpr ⟨m, hm, same⟩)
    dsimp only
    rw [if_neg other]
    rfl
  · rw [List.map_singleton, if_pos rfl]

theorem contains_push (g : Graph) (n : Node) (new : n.id ∉ g.ids) :
    (g.push n new).contains n.id = true :=
  contains_iff.mpr ⟨n, List.mem_append_right _ List.mem_cons_self, rfl⟩

/-- **Properties are set** at the node that was just added, one after the other. -/
theorem editAll_setProperty (registry : Registry) {n : Node} (free : n.id ∉ g.ids)
    (members : List (String × Json)) :
    let edits := members.map fun m => Edit.setProperty n.id m.1 m.2
    (g.push n free).editAll registry edits
        = g.push { n with properties := members.foldl (fun fs m => fs.set m.1 m.2) n.properties }
          free
      ∧ refusals registry (g.push n free) edits = [] := by
  induction members generalizing n with
  | nil => exact ⟨rfl, rfl⟩
  | cons m members ih =>
    have first : (g.push n free).edit registry (.setProperty n.id m.1 m.2)
        = g.push { n with properties := n.properties.set m.1 m.2 } free := by
      rw [edit_setProperty]
      exact updateNode_push free fun fs => fs.set m.1 m.2
    have made : (g.push n free).answer registry (.setProperty n.id m.1 m.2) = .ok .made := by
      rw [answer, setProperty, changeNode, if_pos (g.contains_push n free)]
      rfl
    obtain ⟨rest, silent⟩ := ih (n := { n with properties := n.properties.set m.1 m.2 }) free
    intro edits
    dsimp only [edits]
    rw [List.map_cons, editAll_cons, refusals, made, first]
    exact ⟨rest, silent⟩

/-- **The node of a descriptor is typed in.** -/
theorem editAll_placing {d : NodeDescriptor} {spec : NodeTypeSpec} (free : d.id ∉ g.ids)
    (known : registry.get? d.nodeType = some spec) (distinct : d.properties.keys.Nodup) :
    g.editAll registry d.placing = g.push (d.toNode registry spec) free
      ∧ refusals registry g d.placing = [] := by
  have absent : ¬g.contains d.id = true := fun there => free (List.contains_iff_mem.mp there)
  have added : g.addNode registry d.id d.nodeType
      = .ok (g.push (Node.ofSpec d.id (registry.graphName d.nodeType) spec) free,
        Node.ofSpec d.id (registry.graphName d.nodeType) spec) := by
    unfold addNode
    rw [dif_neg absent, known]
  have first : g.edit registry (.addNode d.id d.nodeType)
      = g.push (Node.ofSpec d.id (registry.graphName d.nodeType) spec) free := by
    rw [edit_addNode_of_notMem registry free, known]
    rfl
  have made : ∃ n, g.answer registry (.addNode d.id d.nodeType) = .ok (.added n) := by
    rw [answer, added]
    exact ⟨_, rfl⟩
  have authored : (d.properties.filter fun m => !NodeDescriptor.reservedKeys.contains m.1).foldl
      (fun fs m => Fields.set fs m.1 m.2) []
        = d.properties.filter fun m => !NodeDescriptor.reservedKeys.contains m.1 :=
    Fields.ofMembers_of_nodup (distinct.sublist (List.filter_sublist.map Prod.fst))
  obtain ⟨n, made⟩ := made
  obtain ⟨rest, silent⟩ := editAll_setProperty registry
    (n := Node.ofSpec d.id (registry.graphName d.nodeType) spec) free
    (d.properties.filter fun m => !NodeDescriptor.reservedKeys.contains m.1)
  rw [NodeDescriptor.placing, editAll_cons, refusals, made, first]
  refine ⟨rest.trans ?_, silent⟩
  exact congrArg (fun fs => g.push
    { Node.ofSpec d.id (registry.graphName d.nodeType) spec with properties := fs } free) authored

/-- **The nodes of all descriptors are typed in**, if their ids are free and their types are
known. -/
theorem editAll_flatMap_placing {ds : List NodeDescriptor}
    (free : (g.ids ++ ds.map NodeDescriptor.id).Nodup)
    (known : ∀ d ∈ ds, ∃ spec, registry.get? d.nodeType = some spec)
    (distinct : ∀ d ∈ ds, d.properties.keys.Nodup) :
    (g.editAll registry (ds.flatMap NodeDescriptor.placing)).nodes
        = g.nodes ++ ds.filterMap (NodeDescriptor.node? registry)
      ∧ refusals registry g (ds.flatMap NodeDescriptor.placing) = [] := by
  induction ds generalizing g with
  | nil => exact ⟨(List.append_nil _).symm, rfl⟩
  | cons d ds ih =>
    obtain ⟨spec, ofType⟩ := known d List.mem_cons_self
    have new : d.id ∉ g.ids := fun old =>
      (List.nodup_append.mp free).2.2 d.id old d.id List.mem_cons_self rfl
    have node : d.node? registry = some (d.toNode registry spec) := by
      rw [NodeDescriptor.node?, ofType]
      rfl
    have ids : (g.push (d.toNode registry spec) new).ids = g.ids ++ [d.id] := ids_push ..
    obtain ⟨first, silent⟩ := editAll_placing new ofType (distinct d List.mem_cons_self)
    obtain ⟨rest, quiet⟩ := ih (g := g.push (d.toNode registry spec) new)
      (by rw [ids, List.append_assoc]; exact free)
      (fun later hl => known later (List.mem_cons_of_mem d hl))
      (fun later hl => distinct later (List.mem_cons_of_mem d hl))
    rw [List.flatMap_cons, editAll_append, refusals_append, first, silent, rest, quiet,
      List.filterMap_cons, node]
    exact ⟨List.append_assoc .., rfl⟩

/-! ## Typing edges in -/

/-- A report once one more edge was asked for. -/
def Report.ask (r : Report) (e : Edge) : Report :=
  match r.graph.wire e with
  | .ok (graph, _) => { r with graph }
  | .error obstacle =>
    { r with diagnostics := r.diagnostics ++ [e.dangling obstacle.toDanglingReason] }

/-- Drawing edges is asking for one after the other. -/
theorem wireAll_eq_foldl (g : Graph) (es : List Edge) :
    wireAll g es = es.foldl Report.ask ⟨g, []⟩ := rfl

theorem foldl_ask (r : Report) (es : List Edge) :
    es.foldl Report.ask r
      = ⟨(wireAll r.graph es).graph, r.diagnostics ++ (wireAll r.graph es).diagnostics⟩ := by
  induction es generalizing r with
  | nil => exact congrArg (Report.mk r.graph) (List.append_nil _).symm
  | cons e es ih =>
    rw [wireAll_eq_foldl, List.foldl_cons, List.foldl_cons, ih (r.ask e),
      ih (Report.ask ⟨r.graph, []⟩ e)]
    unfold Report.ask
    cases r.graph.wire e with
    | ok result => rfl
    | error obstacle => exact congrArg (Report.mk _) (List.append_assoc ..)

theorem wireAll_cons_of_ok {e : Edge} {h : Graph} {new : Bool} (drawn : g.wire e = .ok (h, new))
    (es : List Edge) : wireAll g (e :: es) = wireAll h es := by
  rw [wireAll_eq_foldl, List.foldl_cons, Report.ask, drawn]
  rfl

theorem wireAll_cons_of_error {e : Edge} {obstacle : Obstacle}
    (refused : g.wire e = .error obstacle) (es : List Edge) :
    wireAll g (e :: es)
      = ⟨(wireAll g es).graph,
        e.dangling obstacle.toDanglingReason :: (wireAll g es).diagnostics⟩ := by
  rw [wireAll_eq_foldl, List.foldl_cons, Report.ask, refused, foldl_ask]
  rfl

/-- **What is in the way of an edge into a node that is there** is told in two ways that
mean the same. -/
theorem toError_of_wire_eq_error {e : Edge} {obstacle : Obstacle}
    (target : g.contains e.targetNode = true) (refused : g.wire e = .error obstacle) :
    obstacle.toError e = obstacle.toDanglingReason.refusal e := by
  cases obstacle with
  | sourceNode | sourceOutput | targetInput => rfl
  | targetNode =>
    -- the target is there, so it is not what is missing
    exfalso
    obtain ⟨n, there, same⟩ := contains_iff.mp target
    have found : g.node? e.targetNode = some n := node?_eq_some_iff.mpr ⟨there, same⟩
    unfold wire wiresAt at refused
    rw [found] at refused
    revert refused
    cases g.node? e.sourceNode with
    | none => exact nofun
    | some source =>
      dsimp only
      split
      · cases n.input? e.targetInput with
        | none => exact nofun
        | some slot => exact nofun
      · exact nofun

/-- **Edges are typed in** as they are drawn in a build, and the same ones are
refused. -/
theorem editAll_connect (registry : Registry) {es : List Edge}
    (targets : ∀ e ∈ es, g.contains e.targetNode = true) :
    g.editAll registry (es.map Edit.connect) = (wireAll g es).graph
      ∧ ∃ missing : List (Edge × DanglingReason),
        (wireAll g es).diagnostics = missing.map (fun m => m.1.dangling m.2)
          ∧ refusals registry g (es.map Edit.connect)
            = missing.map fun m => (.connect m.1, m.2.refusal m.1) := by
  induction es generalizing g with
  | nil => exact ⟨rfl, [], rfl, rfl⟩
  | cons e es ih =>
    have later : ∀ e' ∈ es, g.contains e'.targetNode = true := fun e' he' =>
      targets e' (List.mem_cons_of_mem e he')
    rw [List.map_cons, editAll_cons, refusals]
    rcases g.wire_cases e with ⟨-, new, drawn⟩ | ⟨-, obstacle, refused⟩
    · have made : g.edit registry (.connect e) = g.draw e := by
        rw [edit, connect, drawn]
        rfl
      have answered : g.answer registry (.connect e) = .ok (.changed new) := by
        rw [answer, connect, drawn]
        rfl
      have there : ∀ e' ∈ es, (g.draw e).contains e'.targetNode = true := by
        intro e' he'
        show (g.draw e).ids.contains e'.targetNode = true
        rw [draw, updateTarget, ids_updateNode]
        exact later e' he'
      rw [answered, made, wireAll_cons_of_ok drawn]
      exact ih there
    · have answered : g.answer registry (.connect e)
          = .error (obstacle.toDanglingReason.refusal e) := by
        rw [answer, connect, refused,
          ← toError_of_wire_eq_error (targets e List.mem_cons_self) refused]
        rfl
      obtain ⟨graph, missing, diagnostics, refusals⟩ := ih later
      rw [answered, edit_of_refused answered, wireAll_cons_of_error refused]
      refine ⟨graph, (e, obstacle.toDanglingReason) :: missing, ?_, ?_⟩
      · rw [List.map_cons, diagnostics]
      · dsimp only
        rw [List.map_cons, refusals]

/-! ## Both ways -/

/-- **Building is editing.** Type a definition in, into a graph with nothing in it: add
the nodes of the descriptors that the build accepts and set their properties, then draw
the edges they ask for, whatever is refused. The result is the graph that is built. The
edges that are refused are those that the build reports as dangling, in the same order
and for the same reasons, and nothing else is refused. -/
theorem building_is_editing (registry : Registry) (definition : Definition)
    (distinct : ∀ d ∈ definition.nodes, d.properties.keys.Nodup) :
    let built := build registry definition
    let edits := definition.replay registry
    ({} : Graph).editAll registry edits = built.graph
      ∧ ∃ missing : List (Edge × DanglingReason),
        built.diagnostics.filter Error.isDanglingEdge = missing.map (fun m => m.1.dangling m.2)
          ∧ refusals registry {} edits
            = missing.map fun m => (.connect m.1, m.2.refusal m.1) := by
  intro built edits
  have accepted := definition.accepted_eq_placed registry
  have wiring : (definition.placed registry).flatMap NodeDescriptor.wiring
      = ((definition.placed registry).flatMap NodeDescriptor.edges).map Edit.connect := by
    rw [List.map_flatMap]
    exact List.flatMap_congr fun d _ => d.wiring_eq
  obtain ⟨placed, silent⟩ := editAll_flatMap_placing (g := {})
    (definition.nodup_ids_placed registry) (fun d hd => (Definition.of_mem_placed hd).2)
    fun d hd => distinct d (Definition.of_mem_placed hd).1
  have targets : ∀ e ∈ (definition.placed registry).flatMap NodeDescriptor.edges,
      (firstPass registry definition).contains e.targetNode = true := by
    intro e he
    obtain ⟨d, hd, asked⟩ := List.mem_flatMap.mp he
    show (firstPass registry definition).ids.contains e.targetNode = true
    rw [List.contains_iff_mem, ids_firstPass, NodeDescriptor.targetNode_of_mem_edges asked]
    exact List.mem_map.mpr ⟨d, hd, rfl⟩
  obtain ⟨graph, missing, diagnostics, refused⟩ := editAll_connect registry targets
  have dangling : ∀ e ∈ missing.map (fun m => m.1.dangling m.2), Error.isDanglingEdge e = true := by
    intro e he
    obtain ⟨m, -, rfl⟩ := List.mem_map.mp he
    rfl
  dsimp only [edits, built, Definition.replay]
  have first : ({} : Graph).editAll registry
      ((definition.placed registry).flatMap NodeDescriptor.placing)
        = firstPass registry definition := eq_of_nodes placed
  rw [accepted, wiring, editAll_append, refusals_append, first, silent, graph_build,
    filter_diagnostics_build]
  refine ⟨graph, missing, ?_, refused⟩
  rw [diagnostics, List.filter_eq_self.mpr dangling]

/-- A node with a note reads one that comes later and, inside a value, one that is not
there. -/
def halfWired : Definition :=
  ⟨[{ id := "out", nodeType := "OutputNode"
      properties := [("note", .str "last"), ("outputs", .null)]
      inputs := [{ name := "final_output", connection := some ⟨"in", "user_text"⟩
                   value := some (.arr [.obj [("from_node", .str "ghost"),
                     ("from_output", .str "answer")]]) }] },
    { id := "in", nodeType := "InputNode" }]⟩

/-- The edge from the node that is not there is refused, and reported. -/
theorem building_is_editing_half_wired :
    let built := build .withBuiltins halfWired
    let edits := halfWired.replay .withBuiltins
    (∀ d ∈ halfWired.nodes, d.properties.keys.Nodup)
      ∧ refusals .withBuiltins {} edits
        = [(.connect ⟨"ghost", "answer", "out", "final_output"⟩, .nodeNotFound "ghost")]
      ∧ ({} : Graph).editAll .withBuiltins edits = built.graph
      ∧ ∃ missing : List (Edge × DanglingReason),
        built.diagnostics.filter Error.isDanglingEdge = missing.map (fun m => m.1.dangling m.2)
          ∧ refusals .withBuiltins {} edits
            = missing.map fun m => (.connect m.1, m.2.refusal m.1) :=
  have distinct : ∀ d ∈ halfWired.nodes, d.properties.keys.Nodup := by decide
  ⟨distinct, rfl, building_is_editing .withBuiltins halfWired distinct⟩

end Graph

end AgentWorkflow
