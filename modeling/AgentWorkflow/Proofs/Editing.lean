import AgentWorkflow.Graph.Edit
import AgentWorkflow.Graph.Layout
import AgentWorkflow.Proofs.Wiring

/-!
# Edited graphs

Everything that can be done to a graph, as one type of edits. A run of edits is
any finite list of them; one that is refused changes nothing. This module says
what edits keep, and what the building of a graph begins with.

**Wires.** A graph is *sound* if its slots are tidy and every wire comes from an
output that some node offers (`Graph.Sound`). Graphs that were built are sound,
and edits keep them so. The edit that could break soundness is the removal of a
node, which takes an output away from whoever reads it; it cuts those wires in
the same step.

**Nodes.** What a node is made of, its type and its slots, never changes. A node
of an edited graph is one that was there before, with other wires and other
remarks, or one that was added (`Graph.mem_edit`). In this form it is easy to
say what is true of all nodes of a graph, whatever it went through.
-/

namespace AgentWorkflow

namespace Graph

/-- **What can be done to a graph.** -/
inductive Edit where
  /-- A node is added. -/
  | addNode (id nodeType : String)
  /-- A node is removed. -/
  | removeNode (id : String)
  /-- An edge is drawn. -/
  | connect (e : Edge)
  /-- An edge is cut. -/
  | disconnect (e : Edge)
  /-- A property of a node is set. -/
  | setProperty (id key : String) (value : Json)
  /-- What a run says about a node is recorded. -/
  | annotate (id : String) (status : NodeStatus) (output : Option Json)
  /-- What runs said about the nodes is forgotten. -/
  | resetStatuses
  /-- The nodes are moved to their places. -/
  | applyLayout (l : Layout)

/-- **One edit.** If it is refused, nothing changes. -/
def edit (registry : Registry) (g : Graph) : Edit → Graph
  | .addNode id nodeType => ((g.addNode registry id nodeType).toOption.map Prod.fst).getD g
  | .removeNode id => ((g.removeNode id).toOption.map Prod.fst).getD g
  | .connect e => ((g.connect e).toOption.map Prod.fst).getD g
  | .disconnect e => (g.disconnect e).1
  | .setProperty id key value => (g.setProperty id key value).toOption.getD g
  | .annotate id status output => (g.annotate id status output).toOption.getD g
  | .resetStatuses => g.resetStatuses
  | .applyLayout l => g.applyLayout l

/-- **A run of edits**: one after the other. -/
def editAll (registry : Registry) (g : Graph) (edits : List Edit) : Graph :=
  edits.foldl (edit registry) g

variable {registry : Registry} {g : Graph}

/-! ## What each edit does -/

/-- The graph without a node and without the edges it fed. -/
def without (g : Graph) (id : String) : Graph :=
  (g.filterNodes fun n => n.id != id).mapNodes fun n =>
    { n with inputs := n.inputs.map fun s => s.unlinkNode id }

theorem nodes_mapNodes (g : Graph) (change : Node → Node) :
    (g.mapNodes change).nodes = g.nodes.map fun n => { change n with id := n.id } := rfl

theorem updateNode_of_absent {id : String} (absent : g.contains id ≠ true)
    (change : Node → Node) : g.updateNode id change = g := by
  refine eq_of_nodes ?_
  unfold updateNode
  rw [nodes_mapNodes]
  refine (List.map_congr_left fun n hn => ?_).trans (List.map_id g.nodes)
  have other : n.id ≠ id := fun same => absent (contains_iff.mpr ⟨n, hn, same⟩)
  dsimp only
  rw [if_neg other]
  rfl

/-- A change to a node that must be there is the change to that node. -/
theorem toOption_changeNode (g : Graph) (id : String) (change : Node → Node) :
    (g.changeNode id change).toOption.getD g = g.updateNode id change := by
  unfold changeNode
  split
  · rfl
  · next absent => exact (updateNode_of_absent absent change).symm

theorem edit_setProperty (registry : Registry) (g : Graph) (id key : String) (value : Json) :
    g.edit registry (.setProperty id key value)
      = g.updateNode id fun n => { n with properties := n.properties.set key value } :=
  g.toOption_changeNode id _

theorem edit_annotate (registry : Registry) (g : Graph) (id : String) (status : NodeStatus)
    (output : Option Json) :
    g.edit registry (.annotate id status output)
      = g.updateNode id fun n => n.setStatus status output :=
  g.toOption_changeNode id _

theorem edit_addNode_cases (registry : Registry) (g : Graph) (id nodeType : String) :
    g.edit registry (.addNode id nodeType) = g
      ∨ ∃ (spec : NodeTypeSpec) (new : id ∉ g.ids), registry.get? nodeType = some spec
        ∧ g.edit registry (.addNode id nodeType)
          = g.push (Node.ofSpec id (registry.graphName nodeType) spec) new := by
  dsimp only [edit, addNode]
  split
  · exact Or.inl rfl
  · next free =>
    cases known : registry.get? nodeType with
    | none => exact Or.inl rfl
    | some spec =>
      exact Or.inr ⟨spec, fun there => free (List.contains_iff_mem.mpr there), rfl, rfl⟩

theorem edit_removeNode_cases (registry : Registry) (g : Graph) (id : String) :
    g.edit registry (.removeNode id) = g ∨ g.edit registry (.removeNode id) = g.without id := by
  dsimp only [edit, removeNode]
  split
  · exact Or.inr rfl
  · exact Or.inl rfl

theorem edit_connect_cases (registry : Registry) (g : Graph) (e : Edge) :
    g.edit registry (.connect e) = g
      ∨ g.Drawable e ∧ g.edit registry (.connect e) = g.draw e := by
  dsimp only [edit, connect]
  rcases g.wire_cases e with ⟨drawable, new, drawn⟩ | ⟨-, obstacle, refused⟩
  · rw [drawn]
    exact Or.inr ⟨drawable, rfl⟩
  · rw [refused]
    exact Or.inl rfl

/-! ## What a graph begins with -/

/-- A node that is accepted is the node of a descriptor whose type is known. -/
theorem of_mem_acceptances {taken : List String} {ds : List NodeDescriptor}
    {d : NodeDescriptor} {n : Node} (h : (d, .ok n) ∈ acceptances registry taken ds) :
    d ∈ ds ∧ ∃ spec, registry.get? d.nodeType = some spec ∧ n = d.toNode registry spec := by
  induction ds generalizing taken with
  | nil => cases h
  | cons d' ds ih =>
    rcases List.mem_cons.mp h with first | rest
    · obtain ⟨rfl, accepted⟩ := Prod.mk.inj first
      refine ⟨List.mem_cons_self, ?_⟩
      unfold accept at accepted
      split at accepted
      · cases accepted
      · cases known : registry.get? d.nodeType with
        | none =>
          rw [known] at accepted
          cases accepted
        | some spec =>
          rw [known] at accepted
          exact ⟨spec, rfl, Except.ok.inj accepted⟩
    · obtain ⟨hd, accepted⟩ := ih rest
      exact ⟨List.mem_cons_of_mem d' hd, accepted⟩

theorem of_mem_acceptedNodes {definition : Definition} {n : Node}
    (h : n ∈ (acceptances registry [] definition.nodes).filterMap fun a => a.2.toOption) :
    ∃ d ∈ definition.nodes, ∃ spec, registry.get? d.nodeType = some spec
      ∧ n = d.toNode registry spec := by
  obtain ⟨⟨d, accepted⟩, ha, here⟩ := List.mem_filterMap.mp h
  cases accepted with
  | error e => cases here
  | ok m =>
    obtain rfl : m = n := Option.some.inj here
    exact ⟨d, of_mem_acceptances ha⟩

/-! ## Sound graphs -/

/-- **All wires of the graph are in order**: its slots are tidy, and every wire
comes from an output that some node offers. -/
structure Sound (g : Graph) : Prop where
  /-- The slots are tidy. -/
  tidy : g.Tidy
  /-- Wires come from outputs that are there. -/
  sourced : ∀ n ∈ g.nodes, ∀ s ∈ n.inputs, ∀ c ∈ s.links, g.Offers c

namespace Sound

variable {change : Node → Node} {e : Edge}

theorem empty : Sound {} := ⟨nofun, nofun⟩

theorem mapNodes (sound : g.Sound) (inputs : ∀ n, (change n).inputs = n.inputs)
    (outputs : ∀ n, (change n).outputs = n.outputs) : (g.mapNodes change).Sound where
  tidy n hn := by
    obtain ⟨m, hm, rfl⟩ := List.mem_map.mp hn
    show InputSlot.Tidy (change m).inputs
    rw [inputs]
    exact sound.tidy m hm
  sourced n hn s hs c hc := by
    obtain ⟨m, hm, rfl⟩ := List.mem_map.mp hn
    have hs : s ∈ m.inputs := inputs m ▸ hs
    obtain ⟨source, found, output⟩ := sound.sourced m hm s hs c hc
    refine ⟨{ change source with id := source.id }, ?_, ?_⟩
    · rw [node?_mapNodes, found]
      rfl
    · show ((change source).outputs.any fun s => s.name = c.fromOutput) = true
      rw [outputs]
      exact output

theorem updateNode (sound : g.Sound) (id : String) (inputs : ∀ n, (change n).inputs = n.inputs)
    (outputs : ∀ n, (change n).outputs = n.outputs) : (g.updateNode id change).Sound := by
  refine sound.mapNodes (fun n => ?_) (fun n => ?_)
  · split
    · exact inputs n
    · rfl
  · split
    · exact outputs n
    · rfl

theorem offers_push {c : Connection} (offered : g.Offers c) (n : Node) (new : n.id ∉ g.ids) :
    (g.push n new).Offers c := by
  obtain ⟨source, found, output⟩ := offered
  obtain ⟨here, same⟩ := node?_eq_some_iff.mp found
  exact ⟨source, node?_eq_some_iff.mpr ⟨List.mem_append_left _ here, same⟩, output⟩

theorem of_bare (bare : ∀ n ∈ g.nodes, ∀ s ∈ n.inputs, s.links = []) : g.Sound := by
  refine ⟨fun n hn => .of_unwired (bare n hn), fun n hn s hs c hc => ?_⟩
  rw [bare n hn s hs] at hc
  cases hc

/-- **Adding a node** without wires keeps a graph sound. -/
theorem push (sound : g.Sound) {n : Node} (bare : ∀ s ∈ n.inputs, s.links = [])
    (new : n.id ∉ g.ids) : (g.push n new).Sound := by
  have old_or_new : ∀ m ∈ (g.push n new).nodes, m ∈ g.nodes ∨ m = n := fun m hm =>
    (List.mem_append.mp hm).imp_right List.mem_singleton.mp
  refine ⟨fun m hm => ?_, fun m hm s hs c hc => ?_⟩
  · rcases old_or_new m hm with old | rfl
    · exact sound.tidy m old
    · exact .of_unwired bare
  · rcases old_or_new m hm with old | rfl
    · exact offers_push (sound.sourced m old s hs c hc) n new
    · rw [bare s hs] at hc
      cases hc

/-- **Changing the wires into one input** keeps a graph sound, if what it feeds
there is offered. -/
theorem updateTarget (sound : g.Sound) {rewire : InputSlot → InputSlot}
    (rewires : InputSlot.Rewires rewire)
    (nodup : ∀ s : InputSlot, s.links.Nodup → (rewire s).links.Nodup)
    (offered : ∀ s : InputSlot, ∀ c ∈ (rewire s).links, c ∈ s.links ∨ g.Offers c) :
    (g.updateTarget e rewire).Sound := by
  refine ⟨sound.tidy.updateTarget rewires nodup e, fun n hn s hs c hc => ?_⟩
  rw [offers_congr (unwired_updateTarget rewires g e)]
  obtain ⟨m, hm, rfl⟩ := List.mem_map.mp hn
  dsimp only at hs
  split at hs
  · rcases InputSlot.mem_updateFirst hs with old | ⟨t, ht, -, rfl⟩
    · exact sound.sourced m hm s old c hc
    · rcases offered t c hc with old | new
      · exact sound.sourced m hm t ht c old
      · exact new
  · exact sound.sourced m hm s hs c hc

/-- **Drawing an edge** that can be drawn keeps a graph sound. -/
theorem draw (sound : g.Sound) (drawable : g.Drawable e) : (g.draw e).Sound := by
  refine sound.updateTarget (InputSlot.rewires_link e.source) (fun s nodup => ?_)
    (fun s c hc => ?_)
  · rw [InputSlot.links_link]
    exact InputSlot.nodup_added nodup e.source
  · rw [InputSlot.links_link] at hc
    refine (InputSlot.mem_added.mp hc).imp_right fun new => ?_
    rw [new]
    exact drawable.offered

/-- **Cutting an edge** keeps a graph sound. -/
theorem disconnect (sound : g.Sound) (e : Edge) : (g.disconnect e).1.Sound :=
  sound.updateTarget (InputSlot.rewires_unlink e.source)
    (fun _ nodup => nodup.sublist List.filter_sublist)
    (fun _ _ hc => Or.inl (List.mem_filter.mp hc).1)

/-- **Removing a node** keeps a graph sound, because what it fed is cut with
it. -/
theorem without (sound : g.Sound) (id : String) : (g.without id).Sound := by
  have rest : ∀ n ∈ (g.without id).nodes, ∃ m ∈ g.nodes, m.id ≠ id
      ∧ n = { m with inputs := m.inputs.map fun s => s.unlinkNode id } := by
    intro n hn
    obtain ⟨m, hm, rfl⟩ := List.mem_map.mp hn
    obtain ⟨hm, kept⟩ := List.mem_filter.mp hm
    exact ⟨m, hm, by simpa using kept, rfl⟩
  refine ⟨fun n hn => ?_, fun n hn s hs c hc => ?_⟩
  · obtain ⟨m, hm, -, rfl⟩ := rest n hn
    exact (sound.tidy m hm).map (InputSlot.rewires_unlinkNode id) fun _ => List.filter_sublist
  · obtain ⟨m, hm, -, rfl⟩ := rest n hn
    obtain ⟨t, ht, rfl⟩ := List.mem_map.mp hs
    obtain ⟨hc, apart⟩ := List.mem_filter.mp hc
    have apart : c.fromNode ≠ id := by simpa using apart
    obtain ⟨source, found, output⟩ := sound.sourced m hm t ht c hc
    obtain ⟨there, same⟩ := node?_eq_some_iff.mp found
    refine ⟨{ source with inputs := source.inputs.map fun s => s.unlinkNode id },
      node?_eq_some_iff.mpr ⟨?_, same⟩, output⟩
    refine List.mem_map.mpr ⟨source, List.mem_filter.mpr ⟨there, ?_⟩, rfl⟩
    simpa [same] using apart

/-- **Every edit keeps a graph sound.** -/
theorem edit (sound : g.Sound) (registry : Registry) (change : Edit) :
    (g.edit registry change).Sound := by
  cases change with
  | addNode id nodeType =>
    rcases g.edit_addNode_cases registry id nodeType with refused | ⟨spec, new, -, added⟩
    · rwa [refused]
    · rw [added]
      refine sound.push (fun s hs => ?_) new
      obtain ⟨slot, -, rfl⟩ := List.mem_map.mp hs
      rfl
  | removeNode id =>
    rcases g.edit_removeNode_cases registry id with refused | removed
    · rwa [refused]
    · rw [removed]
      exact sound.without id
  | connect e =>
    rcases g.edit_connect_cases registry e with refused | ⟨drawable, drawn⟩
    · rwa [refused]
    · rw [drawn]
      exact sound.draw drawable
  | disconnect e => exact sound.disconnect e
  | setProperty id key value =>
    rw [edit_setProperty]
    exact sound.updateNode id (fun _ => rfl) fun _ => rfl
  | annotate id status output =>
    rw [edit_annotate]
    exact sound.updateNode id (fun _ => rfl) fun _ => rfl
  | resetStatuses => exact sound.mapNodes (fun _ => rfl) fun _ => rfl
  | applyLayout l => exact sound.mapNodes (fun _ => rfl) fun _ => rfl

/-- **Every run of edits keeps a graph sound.** -/
theorem editAll (sound : g.Sound) (registry : Registry) (edits : List Edit) :
    (g.editAll registry edits).Sound :=
  List.foldlRecOn edits (Graph.edit registry) sound fun _ h change _ => h.edit registry change

/-- **Every graph that was built is sound.** -/
theorem build (registry : Registry) (definition : Definition) :
    (build registry definition).graph.Sound := by
  unfold Graph.build
  refine wireAll_preserves (fun _ _ drawable sound => sound.draw drawable) _ ?_
  refine of_bare fun n hn s hs => ?_
  obtain ⟨d, -, spec, -, rfl⟩ := of_mem_acceptedNodes hn
  obtain ⟨slot, -, rfl⟩ := List.mem_map.mp hs
  rfl

end Sound

/-! ## The nodes of an edited graph -/

namespace Node

/-- **What a node is made of**: its type and its slots, without wires, and
without anything that was said about it. -/
def frame (n : Node) : Node :=
  { n.unwired with properties := [], position := none, status := .plain }

/-- The properties of a node after an edit. -/
def remarked (n : Node) : Edit → Fields
  | .setProperty id key value => if n.id = id then n.properties.set key value else n.properties
  | .annotate id status output =>
    if n.id = id then (n.setStatus status output).properties else n.properties
  | .resetStatuses => (n.setStatus .plain none).properties
  | _ => n.properties

/-- Nodes that are the same without their wires are made of the same. -/
theorem frame_congr {n m : Node} (same : n.unwired = m.unwired) : n.frame = m.frame := by
  unfold frame
  rw [same]

theorem properties_congr {n m : Node} (same : n.unwired = m.unwired) :
    n.properties = m.properties := by
  show n.unwired.properties = m.unwired.properties
  rw [same]

end Node

/-- A node of a graph whose bare nodes are known is one of them, but for its
wires. -/
theorem exists_of_unwired_eq {h : Graph} (same : h.unwired = g.unwired) {n : Node}
    (hn : n ∈ h.nodes) : ∃ m ∈ g.nodes, n.unwired = m.unwired := by
  have bare : n.unwired ∈ g.unwired.nodes := same ▸ List.mem_map.mpr ⟨n, hn, rfl⟩
  obtain ⟨m, hm, alike⟩ := List.mem_map.mp bare
  exact ⟨m, hm, alike.symm⟩

/-- **A node of an edited graph** was added, or is one that was there before, made
of the same. -/
theorem mem_edit {change : Edit} {n : Node} (hn : n ∈ (g.edit registry change).nodes) :
    (∃ id nodeType spec, registry.get? nodeType = some spec
        ∧ n = Node.ofSpec id (registry.graphName nodeType) spec)
      ∨ ∃ m ∈ g.nodes, n.frame = m.frame ∧ n.properties = m.remarked change := by
  have rewired {h : Graph} (same : h.unwired = g.unwired) (hn : n ∈ h.nodes)
      (silent : ∀ m : Node, m.remarked change = m.properties) :
      ∃ m ∈ g.nodes, n.frame = m.frame ∧ n.properties = m.remarked change := by
    obtain ⟨m, hm, alike⟩ := exists_of_unwired_eq same hn
    exact ⟨m, hm, Node.frame_congr alike, (Node.properties_congr alike).trans (silent m).symm⟩
  cases change with
  | addNode id nodeType =>
    rcases g.edit_addNode_cases registry id nodeType with refused | ⟨spec, _, known, added⟩
    · rw [refused] at hn
      exact Or.inr ⟨n, hn, rfl, rfl⟩
    · rw [added] at hn
      rcases List.mem_append.mp hn with old | new
      · exact Or.inr ⟨n, old, rfl, rfl⟩
      · exact Or.inl ⟨id, nodeType, spec, known, List.mem_singleton.mp new⟩
  | removeNode id =>
    rcases g.edit_removeNode_cases registry id with refused | removed
    · rw [refused] at hn
      exact Or.inr ⟨n, hn, rfl, rfl⟩
    · rw [removed] at hn
      obtain ⟨m, hm, rfl⟩ := List.mem_map.mp hn
      have bare := m.unwired_map_inputs (InputSlot.rewires_unlinkNode id)
      exact Or.inr ⟨m, (List.mem_filter.mp hm).1, Node.frame_congr bare, rfl⟩
  | connect e =>
    rcases g.edit_connect_cases registry e with refused | ⟨-, drawn⟩
    · rw [refused] at hn
      exact Or.inr ⟨n, hn, rfl, rfl⟩
    · rw [drawn] at hn
      exact Or.inr (rewired (g.unwired_draw e) hn fun _ => rfl)
  | disconnect e =>
    exact Or.inr (rewired (unwired_updateTarget (InputSlot.rewires_unlink e.source) g e) hn
      fun _ => rfl)
  | setProperty id key value =>
    rw [edit_setProperty] at hn
    obtain ⟨m, hm, rfl⟩ := List.mem_map.mp hn
    refine Or.inr ⟨m, hm, ?_, ?_⟩
    · dsimp only
      split <;> rfl
    · dsimp only [Node.remarked]
      split <;> rfl
  | annotate id status output =>
    rw [edit_annotate] at hn
    obtain ⟨m, hm, rfl⟩ := List.mem_map.mp hn
    refine Or.inr ⟨m, hm, ?_, ?_⟩
    · dsimp only
      split <;> rfl
    · dsimp only [Node.remarked]
      split <;> rfl
  | resetStatuses =>
    obtain ⟨m, hm, rfl⟩ := List.mem_map.mp hn
    exact Or.inr ⟨m, hm, rfl, rfl⟩
  | applyLayout l =>
    obtain ⟨m, hm, rfl⟩ := List.mem_map.mp hn
    exact Or.inr ⟨m, hm, rfl, rfl⟩

/-- **What is true of all nodes** is so after any edits, if it is true of nodes
that are added, and kept for a node that is made of the same and whose properties
are edited. -/
theorem forall_mem_editAll {P : Node → Prop} {edits : List Edit}
    (added : ∀ id nodeType spec, registry.get? nodeType = some spec →
      P (Node.ofSpec id (registry.graphName nodeType) spec))
    (kept : ∀ change ∈ edits, ∀ m n : Node, n.frame = m.frame →
      n.properties = m.remarked change → P m → P n)
    (hg : ∀ n ∈ g.nodes, P n) : ∀ n ∈ (g.editAll registry edits).nodes, P n := by
  have step : ∀ h : Graph, (∀ n ∈ h.nodes, P n) → ∀ change ∈ edits,
      ∀ n ∈ (h.edit registry change).nodes, P n := by
    intro h before change hchange n hn
    rcases mem_edit hn with ⟨id, nodeType, spec, known, rfl⟩ | ⟨m, hm, frame, properties⟩
    · exact added id nodeType spec known
    · exact kept change hchange m n frame properties (before m hm)
  exact List.foldlRecOn (motive := fun h : Graph => ∀ n ∈ h.nodes, P n) edits (edit registry) hg
    step

theorem unwired_wireAll (g : Graph) (es : List Edge) : (wireAll g es).graph.unwired = g.unwired :=
  wireAll_preserves (P := fun h => h.unwired = g.unwired)
    (fun h e _ same => (h.unwired_draw e).trans same) es rfl

theorem unwired_toNode (d : NodeDescriptor) (registry : Registry)
    (spec : NodeTypeSpec) : (d.toNode registry spec).unwired = d.toNode registry spec := by
  have bare := Node.unwired_ofSpec d.id (registry.graphName d.nodeType) spec
  show { (Node.ofSpec d.id (registry.graphName d.nodeType) spec).unwired with
    properties := (d.toNode registry spec).properties } = _
  rw [bare]
  rfl

/-- **A node of a graph that was built** is that of a descriptor, but for its
wires. -/
theorem mem_build {definition : Definition} {n : Node}
    (hn : n ∈ (build registry definition).graph.nodes) :
    ∃ d ∈ definition.nodes, ∃ spec, registry.get? d.nodeType = some spec
      ∧ n.unwired = d.toNode registry spec := by
  obtain ⟨m, hm, alike⟩ := exists_of_unwired_eq (unwired_wireAll _ _) hn
  obtain ⟨d, hd, spec, known, rfl⟩ := of_mem_acceptedNodes hm
  exact ⟨d, hd, spec, known, alike.trans (unwired_toNode d registry spec)⟩

/-- **The properties of a node that was built** are those of its descriptor, without the
reserved ones. -/
theorem properties_of_mem_build {definition : Definition} {n : Node}
    (hn : n ∈ (build registry definition).graph.nodes) :
    ∃ d ∈ definition.nodes,
      n.properties = d.properties.filter fun m => !NodeDescriptor.reservedKeys.contains m.1 := by
  obtain ⟨d, hd, spec, -, made⟩ := mem_build hn
  refine ⟨d, hd, ?_⟩
  show n.unwired.properties = _
  rw [made]
  rfl

end Graph

end AgentWorkflow
