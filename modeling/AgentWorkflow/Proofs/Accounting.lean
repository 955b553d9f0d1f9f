import AgentWorkflow.Proofs.Replay
import AgentWorkflow.Proofs.WellFormed

/-!
# Building accounts for everything

A build leaves out what it cannot place and reports it. This module says of every
definition what is left out and what is reported, without going through the build.

**Descriptors.** What becomes of a descriptor depends on its type and on whether its id
stands earlier in the definition (`NodeDescriptor.fault?`), whether or not the earlier
descriptor was accepted. So each descriptor can be judged where it stands
(`Definition.verdicts`).

**References.** While edges are drawn the graph changes, and each edge is tried on the graph
as it is by then. But what can be in the way of an edge is a matter of the bare nodes, which
drawing leaves alone (`Graph.obstacle?_unwired`), and so of the types of the descriptors that
were accepted (`Definition.missing?`). A reference therefore becomes an edge or is reported,
never both, whatever the others are, and asking twice for one edge draws it once
(`Graph.building_accounts_for_everything`).
-/

namespace AgentWorkflow

/-- **What is wrong with a descriptor** that comes after some others: its id was used by one
of them, or else its type is not known. -/
def NodeDescriptor.fault? (registry : Registry) (before : List NodeDescriptor)
    (d : NodeDescriptor) : Option Error :=
  if d.id ∈ before.map NodeDescriptor.id then some (.duplicateNodeId d.id)
  else if registry.contains d.nodeType then none
  else some (.unknownNodeType d.id d.nodeType)

namespace Definition

/-- **The descriptors of a definition**, in order, each with what is wrong with it. -/
def verdicts (registry : Registry) (definition : Definition) :
    List (NodeDescriptor × Option Error) :=
  definition.nodes.mapIdx fun i d => (d, d.fault? registry (definition.nodes.take i))

/-- The descriptors with which nothing is wrong. -/
def faultless (registry : Registry) (definition : Definition) : List NodeDescriptor :=
  ((definition.verdicts registry).filter fun v => v.2.isNone).map Prod.fst

/-- **The references of these descriptors**, each as the edge that it asks for: input by input,
first the direct connection, then what the value refers to. -/
def references (registry : Registry) (definition : Definition) : List Graph.Edge :=
  (definition.faultless registry).flatMap fun d =>
    d.inputs.flatMap fun i =>
      (i.connection.toList ++ i.value.elim [] Json.references).map
        fun c => ⟨c.fromNode, c.fromOutput, d.id, i.name⟩

/-- The type of the node that one of these descriptors puts under an id. -/
def type? (registry : Registry) (definition : Definition) (id : String) : Option NodeTypeSpec :=
  ((definition.faultless registry).find? fun d => d.id = id).bind fun d =>
    registry.get? d.nodeType

/-- **What is missing for an edge**: the node that it comes from, or else the output of that
node, or else the input that it leads into. -/
def missing? (registry : Registry) (definition : Definition) (e : Graph.Edge) :
    Option DanglingReason :=
  match definition.type? registry e.sourceNode with
  | none => some .missingNode
  | some source =>
    if source.outputs.any fun s => s.name = e.sourceOutput then
      if (definition.type? registry e.targetNode).any fun target =>
          target.inputs.any fun s => s.name = e.targetInput then none
      else some .missingInputSlot
    else some .missingOutput

end Definition

namespace Graph

variable {registry : Registry} {definition : Definition} {g h : Graph} {e : Edge}
  {es : List Edge}

/-! ## Descriptors -/

/-- Why a descriptor is refused, if it is. -/
def refusal? : Except Error Node → Option Error
  | .error e => some e
  | .ok _ => none

/-- **A descriptor is refused for what is wrong with it**, if the ids that are taken are those
of the descriptors before it. -/
theorem refusal?_accept {taken : List String} {before : List NodeDescriptor}
    (ids : ∀ id, id ∈ taken ↔ id ∈ before.map NodeDescriptor.id) (d : NodeDescriptor) :
    refusal? (accept registry taken d) = d.fault? registry before := by
  unfold accept NodeDescriptor.fault? Registry.contains
  by_cases used : d.id ∈ before.map NodeDescriptor.id
  · rw [if_pos (List.contains_iff_mem.mpr ((ids d.id).mpr used)), if_pos used]
    rfl
  · rw [if_neg fun there => used ((ids d.id).mp (List.contains_iff_mem.mp there)), if_neg used]
    cases registry.get? d.nodeType <;> rfl

theorem map_refusal?_acceptances {taken : List String} (before : List NodeDescriptor)
    (ids : ∀ id, id ∈ taken ↔ id ∈ before.map NodeDescriptor.id) (ds : List NodeDescriptor) :
    (acceptances registry taken ds).map (fun a => (a.1, refusal? a.2))
      = ds.mapIdx fun i d => (d, d.fault? registry (before ++ ds.take i)) := by
  induction ds generalizing taken before with
  | nil => rfl
  | cons d ds ih =>
    have ids' : ∀ id, id ∈ d.id :: taken ↔ id ∈ (before ++ [d]).map NodeDescriptor.id := by
      intro id
      rw [List.mem_cons, ids, List.map_append, List.mem_append, List.map_singleton,
        List.mem_singleton, or_comm]
    rw [acceptances, List.map_cons, ih _ ids', List.mapIdx_cons, refusal?_accept ids]
    simp [List.append_assoc]

/-- **What becomes of the descriptors** is what is said of each. -/
theorem verdicts_eq (registry : Registry) (definition : Definition) :
    definition.verdicts registry
      = (acceptances registry [] definition.nodes).map fun a => (a.1, refusal? a.2) :=
  (map_refusal?_acceptances [] (fun _ => Iff.rfl) definition.nodes).symm

/-- The descriptors with which nothing is wrong become nodes. -/
theorem faultless_eq_placed (registry : Registry) (definition : Definition) :
    definition.faultless registry = definition.placed registry := by
  rw [← definition.accepted_eq_placed registry]
  unfold Definition.faultless Definition.accepted
  rw [verdicts_eq, List.filter_map, List.map_map]
  refine congrArg (List.map Prod.fst) (List.filter_congr fun a _ => ?_)
  obtain ⟨d, result⟩ := a
  cases result <;> rfl

/-! ## Obstacles -/

/-- What is in the way of an edge. -/
def obstacle? (g : Graph) (e : Edge) : Option Obstacle :=
  match g.wiresAt e with
  | .error obstacle => some obstacle
  | .ok _ => none

theorem obstacle?_unwired (g : Graph) (e : Edge) : g.unwired.obstacle? e = g.obstacle? e := by
  unfold obstacle? wiresAt
  rw [node?_unwired, node?_unwired]
  cases g.node? e.sourceNode with
  | none => rfl
  | some source =>
    have output : source.unwired.hasOutput e.sourceOutput = source.hasOutput e.sourceOutput := rfl
    simp only [Option.map_some, output]
    cases source.hasOutput e.sourceOutput with
    | false => rfl
    | true =>
      cases g.node? e.targetNode with
      | none => rfl
      | some target =>
        simp only [Option.map_some, Node.input?_unwired]
        cases target.input? e.targetInput <;> rfl

theorem obstacle?_congr (same : g.unwired = h.unwired) (e : Edge) :
    g.obstacle? e = h.obstacle? e := by
  rw [← obstacle?_unwired, same, obstacle?_unwired]

theorem drawable_iff_obstacle?_eq_none : g.Drawable e ↔ g.obstacle? e = none := by
  unfold obstacle?
  obtain ⟨drawable, fed⟩ | ⟨blocked, obstacle, missing⟩ := g.wiresAt_cases e
  · rw [fed]
    exact iff_of_true drawable rfl
  · rw [missing]
    exact iff_of_false blocked nofun

theorem obstacle?_of_wire_eq_error {obstacle : Obstacle} (refused : g.wire e = .error obstacle) :
    g.obstacle? e = some obstacle := by
  unfold wire at refused
  unfold obstacle?
  cases fed : g.wiresAt e with
  | error o =>
    rw [fed] at refused
    exact congrArg some (Except.error.inj refused)
  | ok links =>
    rw [fed] at refused
    cases refused

/-! ## Drawing edges -/

/-- An edge is known by its source and by the input it leads into. -/
theorem Edge.eq_of_source {e' : Edge} (source : e.source = e'.source)
    (leads : e.leadsTo e'.targetNode e'.targetInput = true) : e = e' := by
  obtain ⟨node, input⟩ := of_decide_eq_true leads
  obtain ⟨sourceNode, sourceOutput⟩ := Connection.mk.inj source
  cases e
  cases e'
  cases sourceNode
  cases sourceOutput
  cases node
  cases input
  rfl

theorem Edge.leadsTo_target (e : Edge) : e.leadsTo e.targetNode e.targetInput = true :=
  decide_eq_true ⟨rfl, rfl⟩

/-- The edges of a tidy graph are told by what feeds their targets. -/
theorem Tidy.mem_edges_iff (tidy : g.Tidy) :
    e ∈ g.edges ↔ e.source ∈ g.wires e.targetNode e.targetInput := by
  rw [← map_source_filter_edges tidy, List.mem_map]
  constructor
  · exact fun there => ⟨e, List.mem_filter.mpr ⟨there, e.leadsTo_target⟩, rfl⟩
  · rintro ⟨e', mem, source⟩
    obtain ⟨there, leads⟩ := List.mem_filter.mp mem
    exact Edge.eq_of_source source leads ▸ there

/-- **Drawing an edge** adds it to those there are. -/
theorem mem_edges_draw (tidy : g.Tidy) {new : Edge} (drawable : g.Drawable new) :
    e ∈ (g.draw new).edges ↔ e ∈ g.edges ∨ e = new := by
  rw [(tidy.draw new).mem_edges_iff, wires_draw drawable, tidy.mem_edges_iff]
  split
  · next leads =>
    rw [InputSlot.mem_added]
    refine or_congr_right ⟨fun source => ?_, congrArg Edge.source⟩
    exact (Edge.eq_of_source source.symm leads).symm
  · next apart =>
    refine (or_iff_left ?_).symm
    rintro rfl
    exact apart e.leadsTo_target

/-- **Of many edges those are drawn that can be**, and each of the others is reported for what
is in its way in the graph as it was at first. -/
theorem wireAll_accounts (tidy : g.Tidy) (es : List Edge) :
    (∀ e, e ∈ (wireAll g es).graph.edges ↔ e ∈ g.edges ∨ e ∈ es ∧ g.obstacle? e = none)
      ∧ (wireAll g es).diagnostics
        = es.filterMap fun e => (g.obstacle? e).map fun o => e.dangling o.toDanglingReason := by
  induction es generalizing g with
  | nil => exact ⟨fun e => by simp [wireAll], rfl⟩
  | cons first es ih =>
    rw [List.filterMap_cons]
    obtain ⟨drawable, new, drawn⟩ | ⟨blocked, obstacle, refused⟩ := g.wire_cases first
    · have free : g.obstacle? first = none := drawable_iff_obstacle?_eq_none.mp drawable
      have same : ∀ e, (g.draw first).obstacle? e = g.obstacle? e :=
        obstacle?_congr (g.unwired_draw first)
      obtain ⟨edges, diagnostics⟩ := ih (tidy.draw first)
      rw [wireAll_cons_of_ok drawn, free, diagnostics]
      refine ⟨fun e => ?_, ?_⟩
      · rw [edges, mem_edges_draw tidy drawable, same, List.mem_cons, or_assoc, or_and_right]
        refine or_congr_right (or_congr_left ⟨fun here => ⟨here, here ▸ free⟩, And.left⟩)
      · simp only [same, Option.map_none]
    · have missing := obstacle?_of_wire_eq_error refused
      obtain ⟨edges, diagnostics⟩ := ih tidy
      rw [wireAll_cons_of_error refused, missing, diagnostics]
      refine ⟨fun e => ?_, rfl⟩
      rw [edges, List.mem_cons, or_and_right]
      refine or_congr_right (or_iff_right ?_).symm
      rintro ⟨rfl, free⟩
      cases free.symm.trans missing

/-! ## The graph before edges are drawn -/

theorem unwired_firstPass (registry : Registry) (definition : Definition) :
    (firstPass registry definition).unwired = firstPass registry definition := by
  refine eq_of_nodes ?_
  rw [nodes_unwired, nodes_firstPass, List.map_filterMap]
  refine List.filterMap_congr fun d _ => ?_
  unfold NodeDescriptor.node?
  rw [Option.map_map]
  exact Option.map_congr fun spec _ => unwired_toNode d registry spec

theorem edges_unwired (g : Graph) : g.unwired.edges = [] := by
  unfold edges
  rw [nodes_unwired, List.flatMap_map, List.flatMap_eq_nil_iff]
  intro n _
  show (n.inputs.map InputSlot.unwired).flatMap _ = []
  rw [List.flatMap_map, List.flatMap_eq_nil_iff]
  exact fun _ _ => rfl

theorem tidy_unwired (g : Graph) : g.unwired.Tidy := by
  intro n hn
  rw [nodes_unwired] at hn
  obtain ⟨m, -, rfl⟩ := List.mem_map.mp hn
  refine .of_unwired fun s hs => ?_
  obtain ⟨t, -, rfl⟩ := List.mem_map.mp hs
  rfl

/-- **The node of an id** is that of a descriptor with which nothing is wrong, and so are its
slots. -/
theorem node?_firstPass_cases (registry : Registry) (definition : Definition) (id : String) :
    (definition.type? registry id = none ∧ (firstPass registry definition).node? id = none)
      ∨ ∃ (d : NodeDescriptor) (spec : NodeTypeSpec), definition.type? registry id = some spec
        ∧ (firstPass registry definition).node? id = some (d.toNode registry spec) := by
  have find : (firstPass registry definition).node? id
      = ((definition.placed registry).find? fun d => d.id = id).bind
        (NodeDescriptor.node? registry) := by
    unfold node?
    rw [nodes_firstPass, List.find?_filterMap, ← List.head?_filter, ← List.head?_filter]
    refine congrArg (fun ds => Option.bind ds.head? _) (List.filter_congr fun d hd => ?_)
    obtain ⟨-, spec, known⟩ := Definition.of_mem_placed hd
    unfold NodeDescriptor.node?
    rw [known]
    rfl
  unfold Definition.type?
  rw [find, faultless_eq_placed]
  cases first : (definition.placed registry).find? fun d => d.id = id with
  | none => exact Or.inl ⟨rfl, rfl⟩
  | some d =>
    obtain ⟨-, spec, known⟩ := Definition.of_mem_placed (List.mem_of_find?_eq_some first)
    refine Or.inr ⟨d, spec, known, ?_⟩
    rw [Option.bind_some, NodeDescriptor.node?, known]
    rfl

theorem isSome_input?_toNode (d : NodeDescriptor) (registry : Registry) (spec : NodeTypeSpec)
    (name : String) :
    ((d.toNode registry spec).input? name).isSome = spec.inputs.any fun s => s.name = name := by
  show ((spec.inputs.map InputSlot.ofSlot).find? _).isSome = _
  rw [List.isSome_find?, List.any_map]
  rfl

/-- **What is missing for an edge** is what is in its way before edges are drawn. -/
theorem missing?_eq (registry : Registry) (definition : Definition) (e : Edge) :
    definition.missing? registry e
      = ((firstPass registry definition).obstacle? e).map Obstacle.toDanglingReason := by
  unfold Definition.missing? obstacle? wiresAt
  obtain ⟨unknown, absent⟩ | ⟨d, source, known, found⟩ :=
    node?_firstPass_cases registry definition e.sourceNode
  · rw [unknown, absent]
    rfl
  · rw [known, found]
    have output : (d.toNode registry source).hasOutput e.sourceOutput
        = source.outputs.any fun s => s.name = e.sourceOutput := rfl
    simp only [output]
    cases source.outputs.any fun s => s.name = e.sourceOutput with
    | false => rfl
    | true =>
      obtain ⟨unknown, absent⟩ | ⟨d', target, known, found⟩ :=
        node?_firstPass_cases registry definition e.targetNode
      · rw [unknown, absent]
        rfl
      · rw [known, found, Option.any_some, ← isSome_input?_toNode d' registry target]
        simp only
        cases (d'.toNode registry target).input? e.targetInput <;> rfl

/-! ## The whole build -/

/-- The references are the edges that the descriptors ask for. -/
theorem references_eq (registry : Registry) (definition : Definition) :
    definition.references registry
      = (definition.placed registry).flatMap NodeDescriptor.edges := by
  unfold Definition.references
  rw [faultless_eq_placed]
  rfl

/-- **What is reported** is first what is wrong with descriptors, then what the second pass
finds wrong. -/
theorem diagnostics_build (registry : Registry) (definition : Definition) :
    (build registry definition).diagnostics
      = (definition.verdicts registry).filterMap Prod.snd
        ++ (wireAll (firstPass registry definition)
          (definition.references registry)).diagnostics := by
  unfold build
  dsimp only
  rw [accepted_eq_firstPass, filter_acceptances_nodes, List.flatMap_map, references_eq,
    verdicts_eq, List.filterMap_map]
  refine congrArg (· ++ _) (List.filterMap_congr fun a _ => ?_)
  obtain ⟨d, result⟩ := a
  cases result <;> rfl

/-- **Drawing edges leaves the nodes as they were placed.** -/
theorem unwired_build (registry : Registry) (definition : Definition) :
    (build registry definition).graph.unwired = firstPass registry definition := by
  rw [graph_build, unwired_wireAll, unwired_firstPass]

/-- **The nodes are those of the descriptors with which nothing is wrong**, in order: each of
these has one. -/
theorem nodes_build (registry : Registry) (definition : Definition) :
    (build registry definition).graph.nodes.map (fun n => some n.unwired)
      = (definition.faultless registry).map (NodeDescriptor.node? registry) := by
  have nodes := congrArg Graph.nodes (unwired_build registry definition)
  rw [nodes_unwired, nodes_firstPass] at nodes
  rw [← Function.comp_def some, ← List.map_map, nodes, faultless_eq_placed, List.map_filterMap,
    ← List.filterMap_eq_map]
  refine List.filterMap_congr fun d hd => ?_
  obtain ⟨-, spec, known⟩ := Definition.of_mem_placed hd
  rw [Function.comp_apply, NodeDescriptor.node?, known]
  rfl

/-- **What is drawn and what is reported** in the second pass is a matter of the references and
of the nodes that were placed. -/
theorem wireAll_firstPass (registry : Registry) (definition : Definition) (es : List Edge) :
    (∀ e, e ∈ (wireAll (firstPass registry definition) es).graph.edges
        ↔ e ∈ es ∧ definition.missing? registry e = none)
      ∧ (wireAll (firstPass registry definition) es).diagnostics
        = es.filterMap fun e => (definition.missing? registry e).map e.dangling := by
  have bare := unwired_firstPass registry definition
  have tidy : (firstPass registry definition).Tidy := bare ▸ tidy_unwired _
  have none : (firstPass registry definition).edges = [] := bare ▸ edges_unwired _
  obtain ⟨edges, diagnostics⟩ := wireAll_accounts tidy es
  refine ⟨fun e => ?_, ?_⟩
  · rw [edges, none, missing?_eq, Option.map_eq_none_iff]
    simp
  · rw [diagnostics]
    refine List.filterMap_congr fun e _ => ?_
    rw [missing?_eq, Option.map_map]
    rfl

/-- **Building accounts for everything.** The nodes are those of the descriptors with which
nothing is wrong, in document order. What is reported is, first, what is wrong with the other
descriptors, in document order; then, reference by reference, what is missing for it, if
something is. The edges are the other references and nothing else, each of them once. -/
theorem building_accounts_for_everything (registry : Registry) (definition : Definition) :
    let report := build registry definition
    report.graph.nodes.map (fun n => some n.unwired)
        = (definition.faultless registry).map (NodeDescriptor.node? registry)
      ∧ report.diagnostics
        = (definition.verdicts registry).filterMap Prod.snd
          ++ (definition.references registry).filterMap
            (fun e => (definition.missing? registry e).map e.dangling)
      ∧ (∀ e, e ∈ report.graph.edges
          ↔ e ∈ definition.references registry ∧ definition.missing? registry e = none)
      ∧ report.graph.edges.Nodup := by
  have graph : (build registry definition).graph
      = (wireAll (firstPass registry definition) (definition.references registry)).graph := by
    rw [references_eq]
    exact graph_build registry definition
  obtain ⟨edges, diagnostics⟩ :=
    wireAll_firstPass registry definition (definition.references registry)
  refine ⟨nodes_build registry definition, ?_, ?_, (Sound.build registry definition).nodup_edges⟩
  · rw [diagnostics_build, diagnostics]
  · exact fun e => graph ▸ edges e

/-- The id of a descriptor that was refused stays used. -/
example : (build { types := [{ name := "note", title := "Note" }] }
      { nodes := [⟨"a", "lost", [], []⟩, ⟨"a", "note", [], []⟩] }).diagnostics
    = [.unknownNodeType "a" "lost", .duplicateNodeId "a"] := by
  decide

end Graph

end AgentWorkflow
