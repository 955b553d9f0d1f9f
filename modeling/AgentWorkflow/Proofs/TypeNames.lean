import AgentWorkflow.Proofs.Editing

/-!
# Names of types

A type goes by two names. Definitions write the bare name; inside a graph the
namespace of the registry stands in front of it. There are also two ways back
from the second to the first, which know nothing of each other. A node takes
what follows the last slash of the name it carries (`Graph.Node.bareName`). A
registry cuts off its namespace, if it finds it (`Registry.bareName`).

They agree if the namespace is empty or ends in a slash and the names of types
have no slash (`Registry.WellNamed`). Then the type of every node is known to the
registry under the bare name that the node writes, and it is the type the node
was made from (`Graph.Node.OfType`). Building and editing keep this.
-/

namespace AgentWorkflow

/-! ## Cutting names -/

theorem Text.eq_append_of_dropStart? {front s rest : List Char}
    (cut : Text.dropStart? front s = some rest) : s = front ++ rest := by
  fun_induction Text.dropStart? front s with
  | case1 s => exact Option.some.inj cut
  | case2 => cases cut
  | case3 a front s ih => rw [List.cons_append, ih cut]
  | case4 => cases cut

namespace Graph.Node

theorem bareName_of_notMem {name : List Char} (bare : '/' ∉ name) : bareName name = name := by
  have all : name.reverse.takeWhile (· ≠ '/') = name.reverse := by
    rw [← List.append_nil name.reverse, List.takeWhile_append_of_pos]
    · rfl
    · intro c hc
      exact decide_eq_true fun slash => bare (slash ▸ List.mem_reverse.mp hc)
  rw [bareName, all, List.reverse_reverse]

/-- Whatever stands in front of the last slash is not part of the bare name. -/
theorem bareName_append_slash (front : List Char) {name : List Char} (bare : '/' ∉ name) :
    bareName (front ++ '/' :: name) = name := by
  have behind : (front ++ '/' :: name).reverse.takeWhile (· ≠ '/') = name.reverse := by
    rw [List.reverse_append, List.reverse_cons, List.append_assoc, List.takeWhile_append_of_pos]
    · show name.reverse ++ [] = name.reverse
      exact List.append_nil _
    · intro c hc
      exact decide_eq_true fun slash => bare (slash ▸ List.mem_reverse.mp hc)
  rw [bareName, behind, List.reverse_reverse]

end Graph.Node

/-! ## Well-named registries -/

namespace Registry

/-- **The two ways back to a bare name agree**: the namespace is empty or ends in
a slash, and no type has a slash in its name. -/
structure WellNamed (r : Registry) : Prop where
  /-- The namespace is set apart from what follows it. -/
  apart : r.typeNamespace = "" ∨ ∃ front, r.typeNamespace = front ++ "/"
  /-- The names of types are bare. -/
  bare : ∀ t ∈ r.types, '/' ∉ t.name.toList

variable {r : Registry} {spec : NodeTypeSpec} {name : String}

theorem mem_insertType {t : NodeTypeSpec} {types : List NodeTypeSpec}
    (h : t ∈ insertType spec types) : t = spec ∨ t ∈ types := by
  induction types with
  | nil => exact Or.inl (List.mem_singleton.mp h)
  | cons u types ih =>
    unfold insertType at h
    split at h
    · exact (List.mem_cons.mp h).imp_right (List.mem_cons_of_mem u)
    · rcases List.mem_cons.mp h with rfl | rest
      · exact Or.inr List.mem_cons_self
      · exact (ih rest).imp_right (List.mem_cons_of_mem u)

/-- A type that is found is registered, under the name it was looked up by. -/
theorem of_get?_eq_some (known : r.get? name = some spec) :
    spec ∈ r.types ∧ r.bareName name = spec.name := by
  unfold get? at known
  have here : decide (spec.name = r.bareName name) = true :=
    List.find?_some (p := fun t : NodeTypeSpec => decide (t.name = r.bareName name)) known
  exact ⟨List.mem_of_find?_eq_some known, (of_decide_eq_true here).symm⟩

/-- What is found depends on the bare name only. -/
theorem get?_congr {other : String} (same : r.bareName name = r.bareName other) :
    r.get? name = r.get? other := by
  unfold get?
  rw [same]

namespace WellNamed

theorem register (named : r.WellNamed) (bare : '/' ∉ spec.name.toList) :
    (r.register spec).WellNamed where
  apart := named.apart
  bare t ht := by
    rcases mem_insertType ht with rfl | old
    · exact bare
    · exact named.bare t old

/-- **The builtin types are well named** under every namespace that is. -/
theorem builtinsUnder {typeNamespace : String}
    (apart : typeNamespace = "" ∨ ∃ front, typeNamespace = front ++ "/") :
    (Registry.builtinsUnder typeNamespace).WellNamed := by
  have bare : ∀ t ∈ NodeTypeSpec.builtins, '/' ∉ t.name.toList := by decide
  exact List.foldlRecOn NodeTypeSpec.builtins Registry.register ⟨apart, nofun⟩
    fun _ named t ht => named.register (bare t ht)

theorem bareName_of_notMem (named : r.WellNamed) (bare : '/' ∉ name.toList) :
    r.bareName name = name := by
  unfold Registry.bareName
  rcases named.apart with none | ⟨front, ends⟩
  · rw [none]
    show String.ofList name.toList = name
    exact String.ofList_toList
  · cases cut : Text.dropStart? r.typeNamespace.toList name.toList with
    | none => rfl
    | some rest =>
      -- the slash that ends the namespace would be in the name
      have whole := Text.eq_append_of_dropStart? cut
      rw [ends, String.toList_append] at whole
      exact absurd (by rw [whole]; simp) bare

/-- The bare name of what a registry calls a type is its name. -/
theorem bareName_append (named : r.WellNamed) (bare : '/' ∉ name.toList) :
    String.ofList (Graph.Node.bareName (r.typeNamespace ++ name).toList) = name := by
  rw [String.toList_append]
  rcases named.apart with none | ⟨front, ends⟩
  · rw [none]
    show String.ofList (Graph.Node.bareName name.toList) = name
    rw [Graph.Node.bareName_of_notMem bare, String.ofList_toList]
  · rw [ends, String.toList_append, List.append_assoc]
    show String.ofList (Graph.Node.bareName (front.toList ++ '/' :: name.toList)) = name
    rw [Graph.Node.bareName_append_slash front.toList bare, String.ofList_toList]

end WellNamed

end Registry

/-! ## Nodes and their types -/

namespace Graph

namespace Node

/-- **The node is of the type it names**: under the bare name of its type the
registry knows what the node is made of. -/
def OfType (registry : Registry) (n : Node) : Prop :=
  ∃ spec, registry.get? n.bareType = some spec ∧ registry.graphName n.bareType = n.nodeType
    ∧ n.frame = Node.ofSpec n.id n.nodeType spec

variable {registry : Registry} {n m : Node}

theorem OfType.congr (ofType : m.OfType registry) (same : n.frame = m.frame) :
    n.OfType registry := by
  obtain ⟨spec, known, named, made⟩ := ofType
  have type : n.frame.nodeType = m.frame.nodeType := by rw [same]
  have id : n.frame.id = m.frame.id := by rw [same]
  change n.nodeType = m.nodeType at type
  change n.id = m.id at id
  have bare : n.bareType = m.bareType := by
    unfold bareType
    rw [type]
  exact ⟨spec, bare ▸ known, by rw [bare, type, named], by rw [same, id, type, made]⟩

/-- **A node that was made from a registered type** is of the type it names. -/
theorem ofType_of_frame (named : registry.WellNamed) {id nodeType : String} {spec : NodeTypeSpec}
    (known : registry.get? nodeType = some spec)
    (made : n.frame = Node.ofSpec id (registry.graphName nodeType) spec) : n.OfType registry := by
  obtain ⟨registered, bare⟩ := Registry.of_get?_eq_some known
  have noSlash : '/' ∉ spec.name.toList := named.bare spec registered
  have type : n.nodeType = registry.typeNamespace ++ spec.name := by
    rw [← bare]
    exact congrArg Node.nodeType made
  -- both ways back lead to the name the type was registered under
  have bareType : n.bareType = spec.name := by
    rw [Node.bareType, type, named.bareName_append noSlash]
  have name : registry.bareName spec.name = spec.name := named.bareName_of_notMem noSlash
  refine ⟨spec, ?_, ?_, ?_⟩
  · rw [bareType, Registry.get?_congr (name.trans bare.symm), known]
  · rw [bareType, Registry.graphName, name, type]
  · have id : n.id = id := congrArg Node.id made
    have type : n.nodeType = registry.graphName nodeType := congrArg Node.nodeType made
    rw [made, id, type]

end Node

/-- **Every node of an edited graph is of the type it names.** -/
theorem ofType_editAll {registry : Registry} (named : registry.WellNamed) (definition : Definition)
    (edits : List Edit) :
    ∀ n ∈ ((build registry definition).graph.editAll registry edits).nodes, n.OfType registry := by
  refine forall_mem_editAll (fun id nodeType spec known => ?_) (fun _ _ m n frame _ ofType => ?_)
    fun n hn => ?_
  · have made : (Node.ofSpec id (registry.graphName nodeType) spec).frame
        = Node.ofSpec id (registry.graphName nodeType) spec := by
      unfold Node.frame
      rw [Node.unwired_ofSpec]
      rfl
    exact Node.ofType_of_frame named known made
  · exact ofType.congr frame
  · obtain ⟨d, -, spec, known, bare⟩ := mem_build hn
    have made : n.frame = Node.ofSpec d.id (registry.graphName d.nodeType) spec := by
      unfold Node.frame
      rw [bare]
      rfl
    exact Node.ofType_of_frame named known made

end Graph

end AgentWorkflow
