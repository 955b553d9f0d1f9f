import AgentWorkflow.Proofs.SavedGraphs
import Mathlib.Data.List.Basic

/-!
# Which descriptors become nodes

The first pass of a build goes through the descriptors of a definition and keeps a
list of the ids it has met. What comes out can be said without that list: of the
descriptors of one id the first one counts, and it becomes a node if its type is known
(`Definition.placed`). No two of them have one id, so every node that is made is put
into the graph, in document order (`Graph.firstPass`). The second pass draws the
edges that exactly these descriptors ask for (`Graph.graph_build`), and adds to what
was wrong only edges that cannot be drawn (`Graph.filter_diagnostics_build`).
-/

namespace AgentWorkflow

namespace NodeDescriptor

/-- Of the descriptors of one id, the first one. -/
def firstOfEach : List NodeDescriptor → List NodeDescriptor
  | [] => []
  | d :: ds => d :: (firstOfEach ds).filter fun later => later.id != d.id

/-- The node of a descriptor, if its type is known. -/
def node? (registry : Registry) (d : NodeDescriptor) : Option Graph.Node :=
  (registry.get? d.nodeType).map (d.toNode registry)

theorem nodup_ids_firstOfEach (ds : List NodeDescriptor) :
    ((firstOfEach ds).map NodeDescriptor.id).Nodup := by
  induction ds with
  | nil => exact List.nodup_nil
  | cons d ds ih =>
    refine List.nodup_cons.mpr ⟨fun again => ?_, ih.sublist (List.filter_sublist.map _)⟩
    obtain ⟨later, mem, same⟩ := List.mem_map.mp again
    exact (bne_iff_ne.mp (List.mem_filter.mp mem).2) same

theorem firstOfEach_sublist (ds : List NodeDescriptor) : (firstOfEach ds).Sublist ds := by
  induction ds with
  | nil => exact List.Sublist.slnil
  | cons d ds ih => exact (List.filter_sublist.trans ih).cons_cons d

theorem mem_of_mem_firstOfEach {ds : List NodeDescriptor} {d : NodeDescriptor}
    (h : d ∈ firstOfEach ds) : d ∈ ds :=
  (firstOfEach_sublist ds).subset h

end NodeDescriptor

/-- **The descriptors that become nodes**: of those of one id the first one, if its
type is known. -/
def Definition.placed (registry : Registry) (definition : Definition) : List NodeDescriptor :=
  (NodeDescriptor.firstOfEach definition.nodes).filter fun d => registry.contains d.nodeType

theorem Definition.nodup_ids_placed (registry : Registry) (definition : Definition) :
    ((definition.placed registry).map NodeDescriptor.id).Nodup :=
  (NodeDescriptor.nodup_ids_firstOfEach definition.nodes).sublist (List.filter_sublist.map _)

theorem Definition.of_mem_placed {registry : Registry} {definition : Definition}
    {d : NodeDescriptor} (h : d ∈ definition.placed registry) :
    d ∈ definition.nodes ∧ ∃ spec, registry.get? d.nodeType = some spec := by
  obtain ⟨first, known⟩ := List.mem_filter.mp h
  exact ⟨NodeDescriptor.mem_of_mem_firstOfEach first, Option.isSome_iff_exists.mp known⟩

/-- Whether a fault is an edge that could not be drawn. -/
def Error.isDanglingEdge : Error → Bool
  | .danglingEdge .. => true
  | _ => false

namespace Graph

variable {registry : Registry} {definition : Definition} {g : Graph}

/-! ## The first pass -/

theorem ids_push (g : Graph) (n : Node) (new : n.id ∉ g.ids) :
    (g.push n new).ids = g.ids ++ [n.id] := List.map_append

/-- Whether a descriptor whose id is free is accepted is a matter of its type. -/
theorem accept_of_free {taken : List String} {d : NodeDescriptor}
    (free : taken.contains d.id = false) :
    accept registry taken d
      = (d.node? registry).elim (.error (.unknownNodeType d.id d.nodeType)) .ok := by
  unfold accept NodeDescriptor.node?
  rw [free, if_neg Bool.false_ne_true]
  cases registry.get? d.nodeType <;> rfl

theorem accept_nil (registry : Registry) (d : NodeDescriptor) :
    accept registry [] d
      = (d.node? registry).elim (.error (.unknownNodeType d.id d.nodeType)) .ok :=
  accept_of_free rfl

/-- **What is accepted**, of the descriptors whose ids are not taken yet, is the first
one of each id, if its type is known. -/
theorem filter_acceptances (registry : Registry) (taken : List String)
    (ds : List NodeDescriptor) :
    (acceptances registry taken ds).filter (fun a => a.2.isOk)
      = ((NodeDescriptor.firstOfEach ds).filter fun d =>
          !taken.contains d.id && registry.contains d.nodeType).map
        fun d => (d, accept registry [] d) := by
  induction ds generalizing taken with
  | nil => rfl
  | cons d ds ih =>
    have rest : (NodeDescriptor.firstOfEach ds).filter (fun later =>
          !(d.id :: taken).contains later.id && registry.contains later.nodeType)
        = ((NodeDescriptor.firstOfEach ds).filter fun later => later.id != d.id).filter
          fun later => !taken.contains later.id && registry.contains later.nodeType := by
      rw [List.filter_filter]
      refine List.filter_congr fun later _ => ?_
      rw [List.contains_cons, Bool.not_or, bne, Bool.and_comm (!(later.id == d.id)),
        Bool.and_right_comm]
    rw [acceptances, NodeDescriptor.firstOfEach, List.filter_cons, List.filter_cons, ih, rest]
    cases used : taken.contains d.id with
    | true =>
      have refused : accept registry taken d = .error (.duplicateNodeId d.id) := if_pos used
      rw [refused]
      rfl
    | false =>
      have same : accept registry taken d = accept registry [] d := by
        rw [accept_of_free used, accept_nil]
      have known : (accept registry [] d).isOk = registry.contains d.nodeType := by
        rw [accept_nil, NodeDescriptor.node?, Registry.contains]
        cases registry.get? d.nodeType <;> rfl
      rw [same, known, Bool.not_false, Bool.true_and]
      split <;> rfl

theorem map_id_filterMap_node? (registry : Registry) (definition : Definition) :
    ((definition.placed registry).filterMap (NodeDescriptor.node? registry)).map Node.id
      = (definition.placed registry).map NodeDescriptor.id := by
  rw [List.map_filterMap, ← List.filterMap_eq_map]
  refine List.filterMap_congr fun d hd => ?_
  obtain ⟨-, spec, known⟩ := Definition.of_mem_placed hd
  rw [NodeDescriptor.node?, known]
  rfl

/-- **The graph after the first pass**, of all nodes that are made. -/
def firstPass (registry : Registry) (definition : Definition) : Graph where
  nodes := (definition.placed registry).filterMap (NodeDescriptor.node? registry)
  distinct := by
    rw [map_id_filterMap_node?]
    exact definition.nodup_ids_placed registry

theorem nodes_firstPass (registry : Registry) (definition : Definition) :
    (firstPass registry definition).nodes
      = (definition.placed registry).filterMap (NodeDescriptor.node? registry) := rfl

theorem ids_firstPass (registry : Registry) (definition : Definition) :
    (firstPass registry definition).ids = (definition.placed registry).map NodeDescriptor.id := by
  unfold ids
  rw [nodes_firstPass, map_id_filterMap_node?]

/-! ## The second pass -/

theorem filter_acceptances_nodes (registry : Registry) (definition : Definition) :
    (acceptances registry [] definition.nodes).filter (fun a => a.2.isOk)
      = (definition.placed registry).map fun d => (d, accept registry [] d) :=
  filter_acceptances registry [] definition.nodes

theorem filterMap_toOption_acceptances (registry : Registry) (definition : Definition) :
    (acceptances registry [] definition.nodes).filterMap (fun a => a.2.toOption)
      = (definition.placed registry).filterMap (NodeDescriptor.node? registry) := by
  have accepted : (acceptances registry [] definition.nodes).filterMap (fun a => a.2.toOption)
      = ((acceptances registry [] definition.nodes).filter fun a => a.2.isOk).filterMap
        fun a => a.2.toOption := by
    rw [List.filterMap_filter]
    refine List.filterMap_congr fun a _ => ?_
    obtain ⟨d, result⟩ := a
    cases result <;> rfl
  rw [accepted, filter_acceptances_nodes, List.filterMap_map]
  refine List.filterMap_congr fun d _ => ?_
  show (accept registry [] d).toOption = _
  rw [accept_nil]
  cases d.node? registry <;> rfl

/-- What is accepted is what the first pass puts into the graph. -/
theorem accepted_eq_firstPass (registry : Registry) (definition : Definition) :
    (⟨(acceptances registry [] definition.nodes).filterMap fun a => a.2.toOption,
      (nodup_accepted registry [] definition.nodes).1⟩ : Graph) = firstPass registry definition :=
  eq_of_nodes (filterMap_toOption_acceptances registry definition)

/-- **What is built** is what the second pass makes of the first. -/
theorem graph_build (registry : Registry) (definition : Definition) :
    (build registry definition).graph
      = (wireAll (firstPass registry definition)
          ((definition.placed registry).flatMap NodeDescriptor.edges)).graph := by
  unfold build
  dsimp only
  rw [accepted_eq_firstPass, filter_acceptances_nodes, List.flatMap_map]

/-- What the first pass finds wrong with a descriptor is no edge. -/
theorem isDanglingEdge_of_mem_acceptances {taken : List String} {ds : List NodeDescriptor}
    {d : NodeDescriptor} {e : Error} (h : (d, .error e) ∈ acceptances registry taken ds) :
    e.isDanglingEdge = false := by
  induction ds generalizing taken with
  | nil => cases h
  | cons first ds ih =>
    rcases List.mem_cons.mp h with here | later
    · have refused : accept registry taken first = .error e := (congrArg Prod.snd here).symm
      unfold accept at refused
      split at refused
      · cases refused
        rfl
      · split at refused
        · cases refused
          rfl
        · cases refused
    · exact ih later

/-- **The edges that could not be drawn** are what the second pass finds wrong. -/
theorem filter_diagnostics_build (registry : Registry) (definition : Definition) :
    (build registry definition).diagnostics.filter Error.isDanglingEdge
      = (wireAll (firstPass registry definition)
          ((definition.placed registry).flatMap NodeDescriptor.edges)).diagnostics.filter
        Error.isDanglingEdge := by
  unfold build
  dsimp only
  rw [accepted_eq_firstPass, filter_acceptances_nodes, List.flatMap_map, List.filter_append]
  -- nothing that the first pass finds wrong counts
  refine (congrArg (· ++ _) (List.filter_eq_nil_iff.mpr fun e he => ?_)).trans (List.nil_append _)
  obtain ⟨⟨d, result⟩, mem, refused⟩ := List.mem_filterMap.mp he
  cases result with
  | ok n => cases refused
  | error e' =>
    obtain rfl : e' = e := Option.some.inj refused
    exact Bool.eq_false_iff.mp (isDanglingEdge_of_mem_acceptances mem)

end Graph

end AgentWorkflow
