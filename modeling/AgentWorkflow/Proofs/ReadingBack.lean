import AgentWorkflow.Proofs.Editing
import AgentWorkflow.Proofs.WrittenDefinitions
import AgentWorkflow.Graph.RoundTrip

/-!
# Reading back what the editor saved

The editor saves the definition of a graph as text. The text can be read again,
and gives that definition, if no node has a property that goes by the name of a
structural member; and only then (`Graph.saved_definition_reads_back_iff`).

Such a property never comes out of a definition, since whoever reads one has
taken the structural members out, and the build drops what is reserved. The
operator can set one, however, because setting a property asks nothing about its
key. A property named after the id or the type makes the text unreadable
(`Graph.saved_definition_unreadable_after_id`). A check that compares graphs does
not notice, as it builds the definition without writing it.
-/

namespace AgentWorkflow

namespace Graph

variable {registry : Registry} {g : Graph}

/-! ## What the properties of a node went through -/

namespace Node

variable {n : Node} {m : String × Json}

/-- What a run says about a node adds nothing but the output reported. -/
theorem mem_properties_setStatus {status : NodeStatus} {output : Option Json}
    (h : m ∈ (n.setStatus status output).properties) :
    m ∈ n.properties ∨ m.1 = lastOutputKey := by
  cases output with
  | none => exact Or.inl (Fields.mem_of_mem_swapRemove h)
  | some value =>
    rcases Fields.mem_set h with old | rfl
    · exact Or.inl old
    · exact Or.inr rfl

theorem nodup_keys_setStatus (distinct : n.properties.keys.Nodup) (status : NodeStatus)
    (output : Option Json) : (n.setStatus status output).properties.keys.Nodup := by
  cases output with
  | none => exact Fields.nodup_keys_swapRemove distinct lastOutputKey
  | some value => exact Fields.nodup_keys_set distinct lastOutputKey value

theorem nodup_keys_remarked (distinct : n.properties.keys.Nodup) (change : Edit) :
    (n.remarked change).keys.Nodup := by
  cases change with
  | setProperty id key value =>
    dsimp only [remarked]
    split
    · exact Fields.nodup_keys_set distinct key value
    · exact distinct
  | annotate id status output =>
    dsimp only [remarked]
    split
    · exact nodup_keys_setStatus distinct status output
    · exact distinct
  | resetStatuses => exact nodup_keys_setStatus distinct .plain none
  | addNode | removeNode | connect | disconnect | applyLayout => exact distinct

/-- **A property after an edit** was there before, was set, or is the output
reported. -/
theorem mem_remarked {change : Edit} (h : m ∈ n.remarked change) :
    m ∈ n.properties ∨ (∃ id, change = .setProperty id m.1 m.2) ∨ m.1 = lastOutputKey := by
  cases change with
  | setProperty id key value =>
    dsimp only [remarked] at h
    split at h
    · rcases Fields.mem_set h with old | rfl
      · exact Or.inl old
      · exact Or.inr (Or.inl ⟨id, rfl⟩)
    · exact Or.inl h
  | annotate id status output =>
    dsimp only [remarked] at h
    split at h
    · exact (mem_properties_setStatus h).imp_right Or.inr
    · exact Or.inl h
  | resetStatuses => exact (mem_properties_setStatus h).imp_right Or.inr
  | addNode | removeNode | connect | disconnect | applyLayout => exact Or.inl h

end Node

/-- **The properties of the node that are written can be read.** -/
structure Node.Writable (n : Node) : Prop where
  /-- No two properties have one key. -/
  distinct : n.properties.keys.Nodup
  /-- What is written of them is proper. -/
  each : ∀ m ∈ n.persisted, m.2.Proper

/-- The node has no property that goes by the name of a structural member. -/
def Node.Apart (n : Node) : Prop :=
  ∀ key ∈ NodeDescriptor.structuralKeys, n.properties.get? key = none

theorem Node.isInternalKey_lastOutputKey : Node.isInternalKey Node.lastOutputKey = true := by decide

theorem Node.isInternalKey_of_structural {key : String} (h : key ∈ NodeDescriptor.structuralKeys) :
    Node.isInternalKey key = false := by
  have all : ∀ key ∈ NodeDescriptor.structuralKeys, Node.isInternalKey key = false := by decide
  exact all key h

/-- The properties of a node of a graph that was built from a definition that was
read. -/
theorem proper_of_mem_build {doc : Document} {definition : Definition}
    (read : Definition.ofDocument? doc = some definition) {n : Node}
    (hn : n ∈ (build registry definition).graph.nodes) : n.properties.Proper ∧ n.Apart := by
  obtain ⟨d, hd, said⟩ := properties_of_mem_build hn
  obtain ⟨proper, apart⟩ := Definition.of_ofDocument? read d hd
  have fewer : n.properties.Sublist d.properties := said ▸ List.filter_sublist
  refine ⟨⟨proper.distinct.sublist (fewer.map Prod.fst),
    fun m hm => proper.each m (fewer.subset hm)⟩, fun key structural => ?_⟩
  exact Fields.get?_eq_none_iff.mpr fun here =>
    apart key structural ((fewer.map Prod.fst).subset here)

/-- **What the nodes of an edited graph say can be read**, if this is so for
everything that was set. -/
theorem writable_editAll {doc : Document} {definition : Definition} {edits : List Edit}
    (read : Definition.ofDocument? doc = some definition)
    (values : ∀ id key value, Edit.setProperty id key value ∈ edits → value.Proper) :
    ∀ n ∈ ((build registry definition).graph.editAll registry edits).nodes, n.Writable := by
  refine forall_mem_editAll (fun _ _ _ _ => ⟨List.nodup_nil, nofun⟩) ?_ fun n hn => ?_
  · intro change hchange m n _ properties before
    refine ⟨properties ▸ Node.nodup_keys_remarked before.distinct change, fun x hx => ?_⟩
    obtain ⟨hx, written⟩ := List.mem_filter.mp hx
    rw [properties] at hx
    rcases Node.mem_remarked hx with old | ⟨id, rfl⟩ | own
    · exact before.each x (List.mem_filter.mpr ⟨old, written⟩)
    · exact values id x.1 x.2 hchange
    · -- the output reported is not written, so it may be anything
      rw [own, Node.isInternalKey_lastOutputKey] at written
      cases written
  · obtain ⟨proper, -⟩ := proper_of_mem_build read hn
    exact ⟨proper.distinct, fun m hm => proper.each m (List.mem_filter.mp hm).1⟩

/-- **Nobody goes by the name of a structural member** unless it was set so. -/
theorem apart_editAll {doc : Document} {definition : Definition} {edits : List Edit}
    (read : Definition.ofDocument? doc = some definition)
    (keys : ∀ id key value, Edit.setProperty id key value ∈ edits →
      key ∉ NodeDescriptor.structuralKeys) :
    ∀ n ∈ ((build registry definition).graph.editAll registry edits).nodes, n.Apart := by
  refine forall_mem_editAll (fun _ _ _ _ _ _ => rfl) ?_ fun n hn =>
    (proper_of_mem_build read hn).2
  intro change hchange m n _ properties before key structural
  refine Fields.get?_eq_none_iff.mpr fun here => ?_
  obtain ⟨x, hx, rfl⟩ := List.mem_map.mp here
  rw [properties] at hx
  rcases Node.mem_remarked hx with old | ⟨id, rfl⟩ | own
  · exact Fields.get?_eq_none_iff.mp (before x.1 structural) (List.mem_map.mpr ⟨x, old, rfl⟩)
  · exact keys id x.1 x.2 hchange structural
  · have internal := Node.isInternalKey_of_structural structural
    rw [own, Node.isInternalKey_lastOutputKey] at internal
    cases internal

/-! ## What is saved of a graph -/

theorem Node.mem_keys_persisted {n : Node} {key : String} (shown : Node.isInternalKey key = false) :
    key ∈ n.persisted.keys ↔ key ∈ n.properties.keys := by
  constructor
  · exact fun h => (List.filter_sublist.map Prod.fst).subset h
  · intro h
    obtain ⟨m, hm, rfl⟩ := List.mem_map.mp h
    exact List.mem_map.mpr ⟨m, List.mem_filter.mpr ⟨hm, by rw [shown]; rfl⟩, rfl⟩

/-- The structural members are apart from the properties of a node if they are so
from those that are written. -/
theorem Node.apart_iff {n : Node} :
    n.Apart ↔ ∀ key ∈ NodeDescriptor.structuralKeys, key ∉ n.toDescriptor.properties.keys := by
  refine forall₂_congr fun key structural => ?_
  rw [Fields.get?_eq_none_iff]
  exact not_congr (Node.mem_keys_persisted (Node.isInternalKey_of_structural structural)).symm

/-- **What is saved of a node is proper**, if nothing in it goes by the name of a
structural member. -/
theorem Node.Writable.proper {n : Node} (writable : n.Writable) (apart : n.Apart) :
    n.toDescriptor.Proper where
  properties := ⟨writable.distinct.sublist (List.filter_sublist.map Prod.fst), writable.each⟩
  apart := Node.apart_iff.mp apart
  inputs i hi v hv := by
    obtain ⟨s, -, hi⟩ := List.mem_flatMap.mp hi
    obtain ⟨c, -, rfl⟩ := List.mem_map.mp hi
    cases hv

/-- **What was saved can be read back if and only if** no node has a property that
goes by the name of a structural member. A property that goes by the name of the
id or the type makes all of it unreadable. Nothing but setting such a property
brings this about. -/
theorem saved_definition_reads_back_iff (registry : Registry) (edits : List Edit) {doc : Document}
    {definition : Definition} (read : Definition.ofDocument? doc = some definition)
    (values : ∀ id key value, Edit.setProperty id key value ∈ edits → value.Proper) :
    let g := (build registry definition).graph.editAll registry edits
    let back := Definition.ofDocument? g.toDefinition.toJson.toDocument
    (back = some g.toDefinition
        ↔ ∀ n ∈ g.nodes, ∀ key ∈ NodeDescriptor.structuralKeys, n.properties.get? key = none)
      ∧ (∀ n ∈ g.nodes, ∀ key ∈ ["id", "type"], n.properties.get? key ≠ none → back = none)
      ∧ ((∀ id key value, Edit.setProperty id key value ∈ edits →
          key ∉ NodeDescriptor.structuralKeys) → back = some g.toDefinition) := by
  intro g back
  have writable : ∀ n ∈ g.nodes, n.Writable := writable_editAll read values
  have readable (apart : ∀ n ∈ g.nodes, n.Apart) : back = some g.toDefinition := by
    refine Definition.ofDocument?_toJson fun d hd => ?_
    obtain ⟨n, hn, rfl⟩ := List.mem_map.mp hd
    exact (writable n hn).proper (apart n hn)
  refine ⟨⟨fun same n hn => ?_, readable⟩, fun n hn key named set => ?_,
    fun keys => readable (apart_editAll read keys)⟩
  · exact Node.apart_iff.mpr (Definition.of_ofDocument? same n.toDescriptor
      (List.mem_map.mpr ⟨n, hn, rfl⟩)).2
  · have structural : key ∈ NodeDescriptor.structuralKeys :=
      List.mem_append_left ["inputs"] named
    have here : key ∈ n.properties.keys :=
      Classical.byContradiction fun absent => set (Fields.get?_eq_none_iff.mpr absent)
    exact Definition.ofDocument?_of_clash (List.mem_map.mpr ⟨n, hn, rfl⟩) named
      ((Node.mem_keys_persisted (Node.isInternalKey_of_structural structural)).mpr here)

/-- The text of a definition of one node, as it is read. -/
def oneInputText : Document :=
  .obj [("nodes", .arr [.obj [("id", .str "in"), ("type", .str "InputNode")]])]

/-- The definition it stands for. -/
def oneInput : Definition := ⟨[{ id := "in", nodeType := "InputNode" }]⟩

/-- A note does no harm. -/
theorem saved_definition_reads_back_after_note :
    let g := (build .withBuiltins oneInput).graph.editAll .withBuiltins
      [.setProperty "in" "note" (.str "first")]
    Definition.ofDocument? oneInputText = some oneInput
      ∧ (∀ id key value, Edit.setProperty id key value
          ∈ [Edit.setProperty "in" "note" (.str "first")] → value.Proper)
      ∧ Definition.ofDocument? g.toDefinition.toJson.toDocument = some g.toDefinition := by
  intro g
  have read : Definition.ofDocument? oneInputText = some oneInput := rfl
  have only {id key value} (h : Edit.setProperty id key value
      ∈ [Edit.setProperty "in" "note" (.str "first")]) : key = "note" ∧ value = .str "first" := by
    cases List.mem_singleton.mp h
    exact ⟨rfl, rfl⟩
  have values : ∀ id key value, Edit.setProperty id key value
      ∈ [Edit.setProperty "in" "note" (.str "first")] → value.Proper := by
    intro id key value h
    rw [(only h).2]
    exact .str "first"
  refine ⟨read, values, (saved_definition_reads_back_iff _ _ read values).2.2 ?_⟩
  intro id key value h
  rw [(only h).1]
  decide

/-- **A property named after the id** makes what is saved unreadable. -/
theorem saved_definition_unreadable_after_id :
    let g := (build .withBuiltins oneInput).graph.editAll .withBuiltins
      [.setProperty "in" "id" (.str "x")]
    Definition.ofDocument? oneInputText = some oneInput
      ∧ (Json.str "x").Proper
      ∧ Definition.ofDocument? g.toDefinition.toJson.toDocument = none :=
  ⟨rfl, .str "x", rfl⟩

end Graph

end AgentWorkflow
