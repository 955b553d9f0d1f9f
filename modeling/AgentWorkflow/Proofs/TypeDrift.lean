import AgentWorkflow.AgentRuntime.InMemory
import AgentWorkflow.Monitor
import AgentWorkflow.Proofs.Namespaces
import AgentWorkflow.Proofs.Placement
import AgentWorkflow.Proofs.WellFormed
import Mathlib.Data.List.Perm.Subperm

/-!
# What the check before saving does not see

Before a graph is saved it is written, built again, and compared with what was built. The
comparison is of ids and edges (`Graph.verifyRoundTrip_eq_ok_iff`), so nodes and wires that
pass it do come back. Types are not compared. A node writes what follows the last slash of its
type, the registry reads this as a name of its own, and the two names need not be one.

They are one exactly if the name has no slash and the namespace has none either, or ends in one
(`Registry.TellsApart`). A name with a slash always comes back as another one: if that is
registered too, and its slots fit the wires, the check passes and the node is of another type
when it is loaded (`Graph.strict_check_sees_types_iff`).
-/

namespace AgentWorkflow

/-! ## Names that are found again -/

/-- **A name is found again behind a namespace**: it has no slash, and the namespace either has
none or ends in one. -/
def Registry.TellsApart (typeNamespace name : String) : Prop :=
  '/' ∉ name.toList ∧ ('/' ∉ typeNamespace.toList ∨ ∃ front, typeNamespace = front ++ "/")

namespace Graph

variable {registry : Registry} {spec : NodeTypeSpec} {g : Graph} {n : Node}

theorem Node.slash_notMem_bareType (n : Node) : '/' ∉ n.bareType.toList := by
  rw [bareType, String.toList_ofList]
  exact slash_notMem_bareName _

/-- **A registry finds the type of a node again**, from what the node writes, if and only if
name and namespace are told apart. -/
theorem Node.Named.graphName_bareType_eq_iff (named : n.Named registry spec) :
    registry.graphName n.bareType = n.nodeType
      ↔ Registry.TellsApart registry.typeNamespace spec.name := by
  have behind : registry.graphName n.bareType = n.nodeType
      ↔ registry.bareName n.bareType = spec.name := by
    rw [Registry.graphName, named.2, String.append_right_inj]
  rw [behind]
  constructor
  · intro found
    unfold Registry.bareName at found
    cases cut : Text.dropStart? registry.typeNamespace.toList n.bareType.toList with
    | none =>
      rw [cut] at found
      obtain ⟨bare, none | ends⟩ := named.bareType_eq_iff.mp found
      · exact ⟨bare, Or.inl (by rw [none]; exact List.not_mem_nil)⟩
      · exact ⟨bare, Or.inr ends⟩
    | some rest =>
      -- the node writes the namespace too, so that there is no slash in either
      rw [cut] at found
      have whole := n.slash_notMem_bareType
      rw [Text.eq_append_of_dropStart? cut, List.mem_append, not_or] at whole
      rw [← found, Registry.TellsApart, String.toList_ofList]
      exact ⟨whole.2, Or.inl whole.1⟩
  · rintro ⟨bare, plain | ends⟩
    · have whole : '/' ∉ n.nodeType.toList := by
        rw [named.2, String.toList_append, List.mem_append, not_or]
        exact ⟨plain, bare⟩
      rw [Node.bareType, Node.bareName_of_notMem whole, String.ofList_toList, named.2,
        registry.bareName_append]
    · rw [named.bareType_eq_iff.mpr ⟨bare, Or.inr ends⟩]
      unfold Registry.bareName
      cases cut : Text.dropStart? registry.typeNamespace.toList spec.name.toList with
      | none => rfl
      | some rest =>
        obtain ⟨front, ends⟩ := ends
        have whole := Text.eq_append_of_dropStart? cut
        rw [ends, String.toList_append] at whole
        exact absurd (by rw [whole]; simp) bare

/-! ## What the check says -/

theorem missing_eq_nil_iff {α : Type} [BEq α] [LawfulBEq α] {key : α → List String}
    {before after : List α} : missing key before after = [] ↔ ∀ a ∈ before, a ∈ after := by
  have listed (a : α) : a ∈ missing key before after ↔ a ∈ before ∧ a ∉ after := by
    rw [missing, List.mem_mergeSort, List.mem_eraseDups, List.mem_filter, Bool.not_eq_true',
      ← Bool.not_eq_true, List.contains_iff_mem]
  rw [List.eq_nil_iff_forall_not_mem]
  refine forall_congr' fun a => ?_
  rw [listed, not_and_not_right]

/-- **The check passes** if and only if the same ids and the same edges come back. -/
theorem verifyRoundTrip_eq_ok_iff :
    g.verifyRoundTrip registry = .ok () ↔
      (∀ id, id ∈ (build registry g.toDefinition).graph.ids ↔ id ∈ g.ids) ∧
      ∀ e, e ∈ (build registry g.toDefinition).graph.edges ↔ e ∈ g.edges := by
  have passes : g.verifyRoundTrip registry = .ok ()
      ↔ g.differences (build registry g.toDefinition).graph = [] := by
    unfold verifyRoundTrip
    split
    · next same => exact ⟨fun _ => same, fun _ => rfl⟩
    · next differs => exact ⟨nofun, fun same => absurd same differs⟩
  have bothWays {α : Type} {before after : List α} :
      ((∀ a ∈ before, a ∈ after) ∧ ∀ a ∈ after, a ∈ before) ↔ ∀ a, a ∈ after ↔ a ∈ before := by
    constructor
    · exact fun ⟨lost, appeared⟩ a => ⟨appeared a, lost a⟩
    · exact fun same => ⟨fun a => (same a).mpr, fun a => (same a).mp⟩
  rw [passes]
  simp only [differences, List.append_eq_nil_iff, List.map_eq_nil_iff, missing_eq_nil_iff]
  rw [and_assoc, bothWays, bothWays]

/-! ## What comes back -/

/-- **The ids of what is built** are ids of the definition, in their order. -/
theorem ids_build_sublist (registry : Registry) (definition : Definition) :
    (build registry definition).graph.ids.Sublist (definition.nodes.map NodeDescriptor.id) := by
  rw [graph_build, ids_congr (unwired_wireAll _ _), ids_firstPass]
  exact (List.filter_sublist.trans (NodeDescriptor.firstOfEach_sublist _)).map _

theorem map_id_toDefinition (g : Graph) : g.toDefinition.nodes.map NodeDescriptor.id = g.ids := by
  show (g.nodes.map Node.toDescriptor).map NodeDescriptor.id = g.nodes.map Node.id
  rw [List.map_map]
  rfl

/-- **If no id is lost, none has moved.** -/
theorem ids_rebuilt (kept : ∀ id ∈ g.ids, id ∈ (build registry g.toDefinition).graph.ids) :
    (build registry g.toDefinition).graph.ids = g.ids := by
  have among := ids_build_sublist registry g.toDefinition
  rw [map_id_toDefinition] at among
  exact among.eq_of_length_le (List.Nodup.subperm g.distinct kept).length_le

/-- **The type of a node that comes back** is what the registry makes of what was written. -/
theorem nodeType_of_rebuilt {m : Node} (hm : m ∈ (build registry g.toDefinition).graph.nodes) :
    ∃ n ∈ g.nodes, n.id = m.id ∧ m.nodeType = registry.graphName n.bareType := by
  obtain ⟨d, hd, spec, -, alike⟩ := mem_build hm
  obtain ⟨n, hn, rfl⟩ := List.mem_map.mp hd
  have id : m.unwired.id = n.id := by rw [alike]; rfl
  have type : m.unwired.nodeType = registry.graphName n.bareType := by rw [alike]; rfl
  exact ⟨n, hn, id.symm, type⟩

/-- **How a graph comes back** from a definition under a configuration: with its nodes and its
edges, and with the types whose names are told apart from the namespace. -/
structure ComesBack (config : AppConfig) (g : Graph) (definition : Definition) : Prop where
  /-- The same nodes are there, in their order. -/
  ids : (build (Registry.ofConfig config) definition).graph.ids = g.ids
  /-- The same edges are there. -/
  edges : ∀ e, e ∈ (build (Registry.ofConfig config) definition).graph.edges ↔ e ∈ g.edges
  /-- Each node is of the type that it was of if and only if the name of the type is told
  apart. -/
  types : ∀ n ∈ g.nodes, ∃ spec m, n.Named (Registry.ofConfig config) spec ∧
    (build (Registry.ofConfig config) definition).graph.node? n.id = some m ∧
    (m.nodeType = n.nodeType ↔ Registry.TellsApart config.editor.typeNamespace spec.name)

/-- **A graph passes the check if and only if it comes back.** -/
theorem verifyRoundTrip_eq_ok_iff_comesBack {config : AppConfig}
    (named : ∀ n ∈ g.nodes, ∃ spec, n.Named (Registry.ofConfig config) spec) :
    g.verifyRoundTrip (Registry.ofConfig config) = .ok ()
      ↔ ComesBack config g g.toDefinition := by
  rw [verifyRoundTrip_eq_ok_iff]
  constructor
  · rintro ⟨sameIds, sameEdges⟩
    refine ⟨ids_rebuilt fun id => (sameIds id).mpr, sameEdges, fun n hn => ?_⟩
    obtain ⟨spec, known⟩ := named n hn
    obtain ⟨m, hm, same⟩ := List.mem_map.mp ((sameIds n.id).mpr (List.mem_map_of_mem hn))
    obtain ⟨n', hn', id, type⟩ := nodeType_of_rebuilt hm
    -- no two nodes have one id, so what came back is what was written for this one
    have one : n' = n := by
      have first := node?_eq_some_iff.mpr ⟨hn', id.trans same⟩
      rw [node?_eq_some_iff.mpr ⟨hn, rfl⟩] at first
      exact (Option.some.inj first).symm
    have told := known.graphName_bareType_eq_iff
    rw [Registry.typeNamespace_ofConfig] at told
    exact ⟨spec, m, known, node?_eq_some_iff.mpr ⟨hm, same⟩, by rw [type, one, told]⟩
  · exact fun back => ⟨fun id => by rw [back.ids], back.edges⟩

end Graph

/-! ## What is stored -/

/-- **A runtime that notes what it is asked to store**, the earliest first. It answers like the
runtime it is made from. -/
def AgentRuntime.storing {σ : Type} (rt : AgentRuntime σ) :
    AgentRuntime (σ × List Definition) where
  fetchDefinition name s := ((rt.fetchDefinition name s.1).1, (rt.fetchDefinition name s.1).2, s.2)
  fetchActive s := ((rt.fetchActive s.1).1, (rt.fetchActive s.1).2, s.2)
  fetchHistory limit s := ((rt.fetchHistory limit s.1).1, (rt.fetchHistory limit s.1).2, s.2)
  fetchRun runId s := ((rt.fetchRun runId s.1).1, (rt.fetchRun runId s.1).2, s.2)
  saveDefinition name definition s :=
    ((rt.saveDefinition name definition s.1).1, (rt.saveDefinition name definition s.1).2,
      s.2 ++ [definition])
  approveGate requestId s :=
    ((rt.approveGate requestId s.1).1, (rt.approveGate requestId s.1).2, s.2)

namespace Monitor

variable {σ : Type} {rt : AgentRuntime σ} {m : Monitor} {name : String} {s : σ}

/-- **What a runtime is asked to store** when the graph that is shown is saved. -/
def stored (rt : AgentRuntime σ) (m : Monitor) (name : String) (s : σ) : List Definition :=
  (save rt.storing m name (s, [])).value.2.2

/-- **A monitor that checks stores what passed**, and nothing but the definition of the graph
that is shown. -/
theorem mem_stored_iff (strict : m.strictRoundTrip = true) {definition : Definition} :
    definition ∈ m.stored rt name s ↔
      definition = m.session.graph.toDefinition ∧
        m.session.graph.verifyRoundTrip m.registry = .ok () := by
  unfold stored save
  rw [strict]
  cases verified : m.session.graph.verifyRoundTrip m.registry with
  | error e =>
    refine iff_of_false List.not_mem_nil fun passed => ?_
    cases passed.2
  | ok => exact List.mem_singleton.trans (and_iff_left rfl).symm

/-- What passed is stored, whether it was to be checked or not. -/
theorem stored_of_verified (verified : m.session.graph.verifyRoundTrip m.registry = .ok ()) :
    m.stored rt name s = [m.session.graph.toDefinition] := by
  unfold stored save
  rw [verified]
  rfl

/-- A monitor that checks what it saves, and shows a graph. -/
def checking (config : AppConfig) (g : Graph) : Monitor :=
  { ofConfig config with
    strictRoundTrip := true
    session := { gateType := config.sync.gateType, graph := g } }

theorem stored_checking {config : AppConfig} {g : Graph}
    (verified : g.verifyRoundTrip (Registry.ofConfig config) = .ok ()) :
    (checking config g).stored rt name s = [g.toDefinition] :=
  stored_of_verified (m := checking config g) verified

end Monitor

namespace Graph

/-- **What the check before saving sees.** Take any configuration, and any graph that was built
and edited under it. The graph passes the check if and only if it comes back from its definition
with its nodes and its edges; then each node is of its type again exactly if the name of that
type is told apart from the namespace. A monitor that shows the graph and refuses what does not
pass stores its definition if and only if it comes back so, and nothing else. -/
theorem strict_check_sees_types_iff (config : AppConfig) (definition : Definition)
    (edits : List Edit) :
    let registry := Registry.ofConfig config
    let g := (build registry definition).graph.editAll registry edits
    (g.verifyRoundTrip registry = .ok () ↔ ComesBack config g g.toDefinition) ∧
    ∀ {σ : Type} (rt : AgentRuntime σ) (s : σ) (m : Monitor) (name : String),
      m.registry = registry → m.strictRoundTrip = true → m.session.graph = g →
        ∀ stored, stored ∈ m.stored rt name s ↔
          stored = g.toDefinition ∧ ComesBack config g stored := by
  intro registry g
  have passes : g.verifyRoundTrip registry = .ok () ↔ ComesBack config g g.toDefinition :=
    verifyRoundTrip_eq_ok_iff_comesBack (named_editAll registry definition edits)
  refine ⟨passes, fun rt s m name known strict shown stored => ?_⟩
  rw [Monitor.mem_stored_iff strict, known, shown, passes]
  constructor
  · rintro ⟨rfl, back⟩
    exact ⟨rfl, back⟩
  · rintro ⟨rfl, back⟩
    exact ⟨rfl, back⟩

/-- A gate is stored, and comes back as a gate. -/
theorem strict_check_sees_types_at_gate :
    let g := (build (Registry.ofConfig {}) .singleGate).graph.editAll (Registry.ofConfig {}) []
    g.verifyRoundTrip (Registry.ofConfig {}) = .ok () ∧
    ComesBack {} g g.toDefinition ∧
    g.toDefinition ∈ (Monitor.checking {} g).stored InMemory.runtime "gate.yaml" {} := by
  intro g
  have verified : g.verifyRoundTrip (Registry.ofConfig {}) = .ok () := by decide +kernel
  obtain ⟨passes, kept⟩ := strict_check_sees_types_iff {} .singleGate []
  have back : ComesBack {} g g.toDefinition := passes.mp verified
  exact ⟨verified, back,
    (kept InMemory.runtime {} (Monitor.checking {} g) "gate.yaml" rfl rfl rfl _).mpr ⟨rfl, back⟩⟩

/-- **A type whose name has a slash comes back as another one.** The check passes, the
definition is stored, and what is loaded from it is a node of the type of gates. -/
theorem slashed_type_comes_back_as_gate :
    let config : AppConfig := { nodeTypes := [{ name := "x/GateNode" }] }
    let registry := Registry.ofConfig config
    let g := (build registry ⟨[{ id := "n", nodeType := "x/GateNode" }]⟩).graph
    let m := Monitor.checking config g
    g.verifyRoundTrip registry = .ok () ∧
    m.stored InMemory.runtime "gate.yaml" {} = [g.toDefinition] ∧
    g.nodes.map Node.nodeType = ["agent/x/GateNode"] ∧
    (build registry g.toDefinition).graph.nodes.map Node.nodeType = ["agent/GateNode"] := by
  intro config registry g m
  have verified : g.verifyRoundTrip registry = .ok () := by decide +kernel
  exact ⟨verified, Monitor.stored_checking verified, by decide +kernel, by decide +kernel⟩

end Graph

end AgentWorkflow
