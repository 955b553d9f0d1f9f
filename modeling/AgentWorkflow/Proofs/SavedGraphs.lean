import AgentWorkflow.Graph.RoundTrip
import AgentWorkflow.Proofs.TypeNames

/-!
# Saved graphs

A graph is saved by writing its definition, and loaded by building that
definition again. What comes back is the graph as it was, each node as
`Graph.Node.stored` leaves it: the editor's remarks are gone, and everything that
was wired is wired as before.

The two halves of this meet at the bare nodes. The first pass of a build puts
them there as they were, because every node is of the type it names
(`Graph.Node.OfType`). The second pass draws every edge that was written. It can
do so because the graph was sound, and it ends with the same wires in the same
order because no input was fed twice from one source (`Graph.wireAll_edges`).
Where a graph came from plays no part in this beyond those two invariants.
-/

namespace AgentWorkflow

namespace Graph

/-- **What is kept of a node** that is saved: all but its place, what a run says
about it, and the properties that belong to the editor or would be taken for
something else in a definition. -/
def Node.stored (n : Node) : Node :=
  { n with
    properties := n.properties.filter fun m =>
      !Node.isInternalKey m.1 && !NodeDescriptor.reservedKeys.contains m.1
    position := none
    status := .plain }

variable {registry : Registry} {g : Graph} {n : Node} {e : Edge} {es : List Edge}

/-! ## Edges that are drawn once more -/

/-- **Every edge of a sound graph can be drawn** in it. -/
theorem Sound.drawable (sound : g.Sound) (he : e ∈ g.edges) : g.Drawable e := by
  obtain ⟨n, hn, he⟩ := List.mem_flatMap.mp he
  obtain ⟨s, hs, he⟩ := List.mem_flatMap.mp he
  obtain ⟨c, hc, rfl⟩ := List.mem_map.mp he
  refine ⟨sound.sourced n hn s hs c hc, n, node?_eq_some_iff.mpr ⟨hn, rfl⟩, ?_⟩
  unfold Node.input?
  rw [List.find?_isSome]
  exact ⟨s, hs, decide_eq_true rfl⟩

theorem unwired_foldl_draw (g : Graph) (es : List Edge) : (es.foldl draw g).unwired = g.unwired :=
  List.foldlRecOn (motive := fun h : Graph => h.unwired = g.unwired) es draw rfl
    fun h same e _ => (h.unwired_draw e).trans same

/-- Edges are drawn **in their order**: what feeds an input comes to be fed by the
sources of those that lead there, one after the other. -/
theorem wires_foldl_draw (drawable : ∀ e ∈ es, g.Drawable e) (id name : String) :
    (es.foldl draw g).wires id name
      = ((es.filter fun e => e.leadsTo id name).map Edge.source).foldl InputSlot.added
          (g.wires id name) := by
  induction es generalizing g with
  | nil => rfl
  | cons e es ih =>
    have here : g.Drawable e := drawable e List.mem_cons_self
    have rest : ∀ e' ∈ es, (g.draw e).Drawable e' := fun e' he' =>
      (drawable e' (List.mem_cons_of_mem e he')).draw e
    rw [List.foldl_cons, ih rest, wires_draw here, List.filter_cons]
    split
    · rfl
    · rfl

/-- **Drawing the edges of a sound graph** among its bare nodes gives the graph
back, and nothing is wrong with them. -/
theorem wireAll_edges (sound : g.Sound) : wireAll g.unwired g.edges = ⟨g, []⟩ := by
  have drawable : ∀ e ∈ g.edges, g.unwired.Drawable e := fun e he =>
    drawable_unwired.mpr (sound.drawable he)
  have tidy : (g.edges.foldl draw g.unwired).Tidy := by
    refine List.foldlRecOn (motive := Graph.Tidy) g.edges draw (fun n hn => ?_)
      fun h tidy e _ => tidy.draw e
    obtain ⟨m, -, rfl⟩ := List.mem_map.mp hn
    refine .of_unwired fun s hs => ?_
    obtain ⟨t, -, rfl⟩ := List.mem_map.mp hs
    rfl
  have restored : g.edges.foldl draw g.unwired = g := by
    have bare := (g.unwired.unwired_foldl_draw g.edges).trans g.unwired_unwired
    refine eq_of_wires tidy sound.tidy bare fun id name => ?_
    -- nothing feeds the input at first, and its sources come one by one, all different
    rw [wires_foldl_draw drawable, map_source_filter_edges sound.tidy, wires_unwired]
    exact InputSlot.foldl_added [] (g.wires id name) (nodup_wires sound.tidy id name)
  rw [wireAll_of_drawable drawable, restored]

/-! ## Nodes that are built once more -/

/-- The properties that are kept are those that are written and not taken for
something else when they are read. -/
theorem Node.properties_stored (n : Node) :
    n.stored.properties
      = n.persisted.filter fun m => !NodeDescriptor.reservedKeys.contains m.1 := by
  unfold stored persisted
  rw [List.filter_filter]
  refine congrArg (fun keep => n.properties.filter keep) (funext fun m => ?_)
  exact Bool.and_comm _ _

/-- **The descriptor of a node describes what is kept of it**, wires apart. -/
theorem Node.accept_toDescriptor (ofType : n.OfType registry) {taken : List String}
    (free : n.id ∉ taken) : accept registry taken n.toDescriptor = .ok n.stored.unwired := by
  obtain ⟨spec, known, named, made⟩ := ofType
  have known : registry.get? n.toDescriptor.nodeType = some spec := known
  have named : registry.graphName n.toDescriptor.nodeType = n.nodeType := named
  have bare : n.toDescriptor.toNode registry spec = n.stored.unwired := by
    show _ = { n.frame with properties := n.stored.properties }
    rw [n.properties_stored, made, NodeDescriptor.toNode, named]
    rfl
  have new : ¬taken.contains n.toDescriptor.id = true := fun h => free (List.contains_iff_mem.mp h)
  rw [accept, if_neg new, known, ← bare]

theorem Node.edges_toDescriptor (n : Node) : n.toDescriptor.edges = n.edges := by
  show (n.inputs.flatMap fun s => s.links.map fun c =>
    ({ name := s.name, connection := some c } : InputDescriptor)).flatMap _ = _
  rw [List.flatMap_assoc]
  refine congrArg (fun f => n.inputs.flatMap f) (funext fun s => ?_)
  rw [List.flatMap_map]
  exact (List.map_eq_flatMap ..).symm

/-- **Nodes with ids of their own are all accepted.** -/
theorem acceptances_toDescriptor {ns : List Node} {taken : List String}
    (ofType : ∀ n ∈ ns, n.OfType registry) (distinct : (ns.map Node.id).Nodup)
    (free : ∀ n ∈ ns, n.id ∉ taken) :
    acceptances registry taken (ns.map Node.toDescriptor)
      = ns.map fun n => (n.toDescriptor, .ok n.stored.unwired) := by
  induction ns generalizing taken with
  | nil => rfl
  | cons n ns ih =>
    rw [List.map_cons, List.nodup_cons] at distinct
    have first := n.accept_toDescriptor (ofType n List.mem_cons_self) (free n List.mem_cons_self)
    have rest : ∀ m ∈ ns, m.id ∉ n.toDescriptor.id :: taken := by
      intro m hm used
      rcases List.mem_cons.mp used with same | before
      · exact distinct.1 (List.mem_map.mpr ⟨m, hm, same⟩)
      · exact free m (List.mem_cons_of_mem n hm) before
    rw [List.map_cons, List.map_cons, acceptances, first,
      ih (fun m hm => ofType m (List.mem_cons_of_mem n hm)) distinct.2 rest]

/-- **If every node of a definition is accepted**, only its edges can be wrong. -/
theorem build_of_accepted {definition : Definition} {ns : List Node}
    {describe : Node → NodeDescriptor} {place : Node → Node}
    (accepted : acceptances registry [] definition.nodes
      = ns.map fun n => (describe n, .ok (place n)))
    (among : g.nodes = ns.map place) :
    build registry definition = wireAll g (ns.flatMap fun n => (describe n).edges) := by
  have placed : (acceptances registry [] definition.nodes).filterMap (fun a => a.2.toOption)
      = ns.map place := by
    rw [accepted, List.filterMap_map]
    exact congrFun List.filterMap_eq_map' ns
  have asked : ((acceptances registry [] definition.nodes).filter fun a => a.2.isOk).flatMap
      (fun a => a.1.edges) = ns.flatMap fun n => (describe n).edges := by
    have all : ∀ a ∈ ns.map fun n => (describe n, (.ok (place n) : Except Error Node)),
        a.2.isOk = true := by
      intro a ha
      obtain ⟨n, -, rfl⟩ := List.mem_map.mp ha
      rfl
    rw [accepted, List.filter_eq_self.mpr all, List.flatMap_map]
  have first : (⟨(acceptances registry [] definition.nodes).filterMap fun a => a.2.toOption,
      (nodup_accepted registry [] definition.nodes).1⟩ : Graph) = g :=
    eq_of_nodes (placed.trans among.symm)
  rw [build, first, asked, accepted, List.filterMap_map, List.filterMap_eq_nil_iff.mpr ?_]
  · rfl
  · exact fun _ _ => rfl

/-! ## Saving and loading -/

theorem edges_mapNodes_stored (g : Graph) : (g.mapNodes Node.stored).edges = g.edges := by
  show (g.nodes.map _).flatMap Node.edges = g.nodes.flatMap Node.edges
  rw [List.flatMap_map]
  rfl

/-- **What is saved is built from its bare nodes**, if these are of the types they name: the
edges of the graph are drawn among them, or reported. -/
theorem build_toDefinition_eq_wireAll (ofType : ∀ n ∈ g.nodes, n.OfType registry) :
    build registry g.toDefinition = wireAll (g.mapNodes Node.stored).unwired g.edges := by
  have accepted : acceptances registry [] g.toDefinition.nodes
      = g.nodes.map fun n => (n.toDescriptor, .ok n.stored.unwired) :=
    acceptances_toDescriptor ofType g.distinct fun _ _ => List.not_mem_nil
  -- first pass: the nodes
  have nodes : (g.mapNodes Node.stored).unwired.nodes
      = g.nodes.map fun n => n.stored.unwired := by
    show (g.nodes.map _).map _ = g.nodes.map _
    rw [List.map_map]
    rfl
  -- second pass: the edges
  have edges : (g.nodes.flatMap fun n => n.toDescriptor.edges) = g.edges :=
    congrArg (fun f => g.nodes.flatMap f) (funext Node.edges_toDescriptor)
  rw [build_of_accepted accepted nodes, edges]

/-- **What is saved can be loaded**: a sound graph of nodes that are of the types
they name comes back as it was stored, and nothing is wrong with its
definition. -/
theorem build_toDefinition (sound : g.Sound) (ofType : ∀ n ∈ g.nodes, n.OfType registry) :
    build registry g.toDefinition = ⟨g.mapNodes Node.stored, []⟩ := by
  have kept : (g.mapNodes Node.stored).Sound := sound.mapNodes (fun _ => rfl) fun _ => rfl
  rw [build_toDefinition_eq_wireAll ofType, ← g.edges_mapNodes_stored, wireAll_edges kept]

/-- **A graph that comes back with all its nodes and edges** has survived. -/
theorem verifyRoundTrip_of_build (ids : (build registry g.toDefinition).graph.ids = g.ids)
    (edges : (build registry g.toDefinition).graph.edges = g.edges) :
    g.verifyRoundTrip registry = .ok () := by
  have nothing {α : Type} [BEq α] [LawfulBEq α] (key : α → List String) (l : List α) :
      missing key l l = [] := by
    have none : (l.filter fun a => !l.contains a) = [] := by
      rw [List.filter_eq_nil_iff]
      intro a ha
      simpa using ha
    rw [missing, none, List.eraseDups_nil, List.mergeSort_nil]
  rw [verifyRoundTrip, differences, ids, edges, nothing, nothing]
  rfl

/-- **What is written of a graph that was just built** is written of what is kept
of it: no property of a descriptor is taken for something else. -/
theorem toDefinition_mapNodes_stored (registry : Registry) (definition : Definition) :
    ((build registry definition).graph.mapNodes Node.stored).toDefinition
      = (build registry definition).graph.toDefinition := by
  refine congrArg Definition.mk ?_
  show ((build registry definition).graph.nodes.map _).map Node.toDescriptor = _
  rw [List.map_map]
  refine List.map_congr_left fun n hn => ?_
  obtain ⟨d, -, said⟩ := properties_of_mem_build hn
  -- the reserved keys were dropped when the node was built, so dropping them is idle
  have kept : n.stored.persisted = n.persisted := by
    rw [Node.persisted, Node.properties_stored, Node.persisted, said]
    simp only [List.filter_filter]
    refine congrArg (fun keep => d.properties.filter keep) (funext fun m => ?_)
    cases Node.isInternalKey m.1 <;> simp
  show { n.toDescriptor with properties := n.stored.persisted } = n.toDescriptor
  rw [kept]
  rfl

/-- **Saving and loading keeps a graph**, whatever was done to it. Nothing is wrong
with the definition that is written. The nodes that come back are those that were
there, in their order, each with what is kept of it; their slots are fed from the
same sources in the same order. The editor's own check therefore passes, and what
is written of a graph that was just built is its definition for good. -/
theorem saved_graphs_come_back (registry : Registry) (named : registry.WellNamed)
    (definition : Definition) (edits : List Edit) :
    let built := (build registry definition).graph
    let saved := built.editAll registry edits
    let loaded := build registry saved.toDefinition
    loaded.diagnostics = []
      ∧ loaded.graph.nodes = saved.nodes.map Node.stored
      ∧ saved.verifyRoundTrip registry = .ok ()
      ∧ (build registry built.toDefinition).graph.toDefinition = built.toDefinition := by
  intro built saved loaded
  have back : loaded = ⟨saved.mapNodes Node.stored, []⟩ :=
    build_toDefinition ((Sound.build registry definition).editAll registry edits)
      (ofType_editAll named definition edits)
  have again : build registry built.toDefinition = ⟨built.mapNodes Node.stored, []⟩ :=
    build_toDefinition (Sound.build registry definition) (ofType_editAll named definition [])
  refine ⟨by rw [back], by rw [back]; rfl, verifyRoundTrip_of_build ?_ ?_, ?_⟩
  · show loaded.graph.ids = saved.ids
    rw [back]
    exact ids_mapNodes saved Node.stored
  · show loaded.graph.edges = saved.edges
    rw [back]
    exact saved.edges_mapNodes_stored
  · rw [again]
    exact toDefinition_mapNodes_stored registry definition

/-- Two sources feed one input of a node, which reads a node that comes later. -/
def twoSources : Definition :=
  ⟨[{ id := "out", nodeType := "agent/OutputNode"
      inputs := [{ name := "final_output", connection := some ⟨"in", "user_text"⟩ },
        { name := "final_output", connection := some ⟨"in", "tool_result"⟩ }] },
    { id := "in", nodeType := "InputNode" }]⟩

/-- Another node is added and wired, and a property is set that is not kept. -/
def mergeAdded : List Edit :=
  [.addNode "merge" "MergeNode", .connect ⟨"in", "user_text", "merge", "in2"⟩,
    .setProperty "in" "type" .null]

/-- What was wired in the definition and what was wired by hand come back
together. -/
theorem saved_graphs_come_back_after_wiring :
    let built := (build .withBuiltins twoSources).graph
    let saved := built.editAll .withBuiltins mergeAdded
    let loaded := build .withBuiltins saved.toDefinition
    Registry.withBuiltins.WellNamed
      ∧ saved.edges = [⟨"in", "user_text", "out", "final_output"⟩,
        ⟨"in", "tool_result", "out", "final_output"⟩, ⟨"in", "user_text", "merge", "in2"⟩]
      ∧ loaded.diagnostics = []
      ∧ loaded.graph.nodes = saved.nodes.map Node.stored
      ∧ saved.verifyRoundTrip .withBuiltins = .ok ()
      ∧ (build .withBuiltins built.toDefinition).graph.toDefinition = built.toDefinition := by
  have named : Registry.withBuiltins.WellNamed := .builtinsUnder (Or.inr ⟨"agent", by decide⟩)
  exact ⟨named, by decide +kernel,
    saved_graphs_come_back .withBuiltins named twoSources mergeAdded⟩

end Graph

end AgentWorkflow
