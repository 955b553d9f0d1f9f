import AgentWorkflow.Proofs.Namespaces
import Mathlib.Data.List.Nodup

/-!
# Which declared types can be used

A configuration means one type by each name: the last one that it declares under the name, or
else the builtin (`AppConfig.meant?`). Its registry holds these types and no others. Types are
kept under the names they were declared with, and `Registry.find?_foldl_register` says what is
found under a name once any number of them were registered.

**Looking up is another matter.** A name is looked up without the namespace, whether the
namespace was put in front of it by a graph or stands there because the name is like that. The
first case is what the cut is for: a name behind the namespace always leads to the type that is
meant by it. In the second case the name loses its beginning, and what is found, if anything, is
the type of another name. So a type is found under its own name, and under the name that graphs
have for it, exactly if the name does not begin with the namespace, or if there is nothing to
begin with (`Registry.declared_types_are_found_iff`).
-/

namespace AgentWorkflow

/-- Of the types of a name, the last one. -/
def NodeTypeSpec.lastNamed (name : String) (types : List NodeTypeSpec) : Option NodeTypeSpec :=
  (types.filter fun t => t.name = name).getLast?

/-- **The type that a configuration means by a name**: the last one it declares, or else the
builtin. -/
def AppConfig.meant? (config : AppConfig) (name : String) : Option NodeTypeSpec :=
  (NodeTypeSpec.lastNamed name (config.nodeTypes.map NodeTypeDeclaration.toSpec)).or
    (NodeTypeSpec.lastNamed name NodeTypeSpec.builtins)

variable {config : AppConfig} {types : List NodeTypeSpec} {spec : NodeTypeSpec} {name : String}

namespace NodeTypeSpec

theorem lastNamed_cons (spec : NodeTypeSpec) (types : List NodeTypeSpec) (name : String) :
    lastNamed name (spec :: types)
      = (lastNamed name types).or (if spec.name = name then some spec else none) := by
  unfold lastNamed
  by_cases here : spec.name = name
  · rw [List.filter_cons_of_pos (by simpa using here), if_pos here, List.getLast?_cons]
    cases (types.filter fun t => t.name = name).getLast? <;> rfl
  · rw [List.filter_cons_of_neg (by simpa using here), if_neg here, Option.or_none]

theorem name_of_lastNamed (last : lastNamed name types = some spec) : spec.name = name := by
  simpa using (List.mem_filter.mp (List.mem_of_getLast? last)).2

end NodeTypeSpec

theorem AppConfig.name_of_meant? (meant : config.meant? name = some spec) : spec.name = name := by
  obtain declared | ⟨-, builtin⟩ := Option.or_eq_some_iff.mp meant
  · exact NodeTypeSpec.name_of_lastNamed declared
  · exact NodeTypeSpec.name_of_lastNamed builtin

namespace Registry

/-! ## What a registry holds -/

/-- A type that is registered is found under its name, and hides no other. -/
theorem find?_insertType (spec : NodeTypeSpec) (types : List NodeTypeSpec) (name : String) :
    (insertType spec types).find? (fun t => t.name = name)
      = if spec.name = name then some spec else types.find? fun t => t.name = name := by
  induction types with
  | nil => by_cases here : spec.name = name <;> simp [insertType, here]
  | cons t types ih =>
    unfold insertType
    by_cases same : t.name = spec.name
    · by_cases here : spec.name = name <;> simp [same, here]
    · rw [if_neg same, List.find?_cons, ih, List.find?_cons]
      by_cases here : t.name = name
      · have other : spec.name ≠ name := fun there => same (here.trans there.symm)
        simp [here, other]
      · simp [here]

/-- **Types that are registered one after the other** are found under their names, the last one
of each name, and hide no others. -/
theorem find?_foldl_register (registry : Registry) (specs : List NodeTypeSpec) (name : String) :
    (specs.foldl register registry).types.find? (fun t => t.name = name)
      = (NodeTypeSpec.lastNamed name specs).or (registry.types.find? fun t => t.name = name) := by
  induction specs generalizing registry with
  | nil => rfl
  | cons spec specs ih =>
    rw [List.foldl_cons, ih, NodeTypeSpec.lastNamed_cons, Option.or_assoc, register,
      find?_insertType]
    split <;> rfl

/-- **A registry holds what its configuration means.** -/
theorem find?_ofConfig (config : AppConfig) (name : String) :
    (ofConfig config).types.find? (fun t => t.name = name) = config.meant? name := by
  unfold ofConfig builtinsUnder
  rw [find?_foldl_register, find?_foldl_register]
  exact congrArg _ (Option.or_none)

theorem map_name_insertType (spec : NodeTypeSpec) (types : List NodeTypeSpec) :
    (insertType spec types).map NodeTypeSpec.name
      = if spec.name ∈ types.map NodeTypeSpec.name then types.map NodeTypeSpec.name
        else types.map NodeTypeSpec.name ++ [spec.name] := by
  induction types with
  | nil => simp [insertType]
  | cons t types ih =>
    unfold insertType
    by_cases same : t.name = spec.name
    · simp [same]
    · rw [if_neg same, List.map_cons, ih, List.map_cons]
      by_cases known : spec.name ∈ types.map NodeTypeSpec.name
      · rw [if_pos known, if_pos (List.mem_cons_of_mem _ known)]
      · have new : spec.name ∉ t.name :: types.map NodeTypeSpec.name := by
          simpa [Ne.symm same] using known
        rw [if_neg known, if_neg new]
        rfl

theorem nodup_names_foldl_register {registry : Registry}
    (distinct : (registry.types.map NodeTypeSpec.name).Nodup) (specs : List NodeTypeSpec) :
    ((specs.foldl register registry).types.map NodeTypeSpec.name).Nodup := by
  refine List.foldlRecOn (motive := fun r : Registry => (r.types.map NodeTypeSpec.name).Nodup)
    specs register distinct fun r distinct spec _ => ?_
  show ((insertType spec r.types).map NodeTypeSpec.name).Nodup
  rw [map_name_insertType]
  split
  · exact distinct
  · next new => simpa using distinct.concat new

theorem nodup_names_ofConfig (config : AppConfig) :
    ((ofConfig config).types.map NodeTypeSpec.name).Nodup := by
  have none : (({ typeNamespace := config.editor.typeNamespace } : Registry).types.map
      NodeTypeSpec.name).Nodup := List.nodup_nil
  have builtins : ((builtinsUnder config.editor.typeNamespace).types.map
      NodeTypeSpec.name).Nodup := nodup_names_foldl_register none NodeTypeSpec.builtins
  exact nodup_names_foldl_register builtins _

/-- Among types with distinct names, each one is found under its own. -/
theorem find?_eq_some_iff_mem (distinct : (types.map NodeTypeSpec.name).Nodup) :
    types.find? (fun t => t.name = spec.name) = some spec ↔ spec ∈ types := by
  refine ⟨List.mem_of_find?_eq_some, fun known => ?_⟩
  induction types with
  | nil => cases known
  | cons t types ih =>
    obtain ⟨apart, distinct⟩ := List.nodup_cons.mp distinct
    obtain rfl | later := List.mem_cons.mp known
    · simp
    · have other : t.name ≠ spec.name := fun same =>
        apart (List.mem_map.mpr ⟨spec, later, same.symm⟩)
      rw [List.find?_cons_of_neg (by simpa using other), ih distinct later]

/-! ## What is found -/

variable {registry : Registry}

/-- **Nothing is cut off** a name that does not begin with the namespace. -/
theorem bareName_eq_self_iff :
    registry.bareName name = name
      ↔ registry.typeNamespace = "" ∨ ∀ rest, name ≠ registry.typeNamespace ++ rest := by
  constructor
  · intro whole
    refine or_iff_not_imp_right.mpr fun begins => ?_
    obtain ⟨rest, rfl⟩ := not_forall_not.mp begins
    rw [bareName_append] at whole
    have same := congrArg String.toList whole
    rw [String.toList_append] at same
    exact String.toList_eq_nil_iff.mp (List.append_left_eq_self.mp same.symm)
  · rintro (empty | apart)
    · have cut := registry.bareName_append name
      rwa [empty, String.empty_append] at cut
    · unfold bareName
      split
      · next rest cut =>
        refine absurd ?_ (apart (String.ofList rest))
        rw [← String.toList_inj, String.toList_append, String.toList_ofList]
        exact Text.eq_append_of_dropStart? cut
      · rfl

/-- What is found under a name is what is meant by the name without the namespace. -/
theorem get?_ofConfig (config : AppConfig) (name : String) :
    (ofConfig config).get? name = config.meant? ((ofConfig config).bareName name) :=
  find?_ofConfig config _

/-- **Every type can be found behind the namespace.** -/
theorem get?_append (config : AppConfig) (name : String) :
    (ofConfig config).get? (config.editor.typeNamespace ++ name) = config.meant? name := by
  rw [get?_ofConfig, ← typeNamespace_ofConfig, bareName_append]

/-- **A type is found under its name** if nothing is cut off the name. -/
theorem get?_eq_some_iff_bareName (meant : config.meant? name = some spec) :
    (ofConfig config).get? name = some spec ↔ (ofConfig config).bareName name = name := by
  rw [get?_ofConfig]
  constructor
  · intro found
    rw [← AppConfig.name_of_meant? found, AppConfig.name_of_meant? meant]
  · intro whole
    rw [whole, meant]

/-- **Which declared types can be used.** Take any configuration. Its registry holds each type
that the configuration means by a name, and no others, under distinct names. Each of them is found
under its name, and under the name that graphs have for it, if and only if the name does not begin
with the namespace or the namespace is empty; and each of them is found behind the namespace. -/
theorem declared_types_are_found_iff (config : AppConfig) :
    let registry := ofConfig config
    let front := config.editor.typeNamespace
    (registry.types.map NodeTypeSpec.name).Nodup
      ∧ (∀ spec, spec ∈ registry.types ↔ config.meant? spec.name = some spec)
      ∧ ∀ name spec, config.meant? name = some spec →
          let apart := front = "" ∨ ∀ rest, name ≠ front ++ rest
          (registry.get? name = some spec ↔ apart)
            ∧ (registry.get? (registry.graphName name) = some spec ↔ apart)
            ∧ registry.get? (front ++ name) = some spec := by
  intro registry front
  have distinct : (registry.types.map NodeTypeSpec.name).Nodup := nodup_names_ofConfig config
  refine ⟨distinct, fun spec => ?_, fun name spec meant => ?_⟩
  · rw [← find?_eq_some_iff_mem distinct, find?_ofConfig]
  · have whole : registry.get? name = some spec
        ↔ front = "" ∨ ∀ rest, name ≠ front ++ rest := by
      rw [get?_eq_some_iff_bareName meant, bareName_eq_self_iff, typeNamespace_ofConfig]
    -- the name that graphs have is cut to the same bare name
    have same : registry.get? (registry.graphName name) = registry.get? name :=
      get?_congr (registry.bareName_append (registry.bareName name))
    exact ⟨whole, same ▸ whole, (get?_append config name).trans meant⟩

/-- A configuration that declares the type of gates twice. -/
def reviewing : AppConfig where
  nodeTypes := [{ name := "GateNode", title := some "Pause" }, { name := "RerankNode" },
    { name := "GateNode", title := some "Review" }]

/-- What was declared last replaces the builtin, and is found under both names. -/
theorem declared_types_are_found_once_replaced :
    let registry := ofConfig reviewing
    let review : NodeTypeSpec := { name := "GateNode", title := "Review" }
    registry.get? "GateNode" = some review
      ∧ registry.get? (registry.graphName "GateNode") = some review
      ∧ review ∈ registry.types := by
  intro registry review
  obtain ⟨-, held, found⟩ := declared_types_are_found_iff reviewing
  have meant : reviewing.meant? "GateNode" = some review := rfl
  have apart : ∀ rest : String, "GateNode" ≠ "agent/" ++ rest := fun rest same => by
    have first := congrArg (fun s : String => s.toList.head?) same
    simp at first
  obtain ⟨bare, behind, -⟩ := found "GateNode" review meant
  exact ⟨bare.mpr (.inr apart), behind.mpr (.inr apart), (held review).mpr meant⟩

/-- **A type that is declared with the namespace in its name cannot be used.** The registry holds
it, and finds it neither under that name nor under the one that graphs have for it; a node of the
type is refused. The same happens to a builtin whose name begins with what was
configured as the namespace. -/
theorem declared_type_is_lost_behind_namespace :
    let config : AppConfig := { nodeTypes := [{ name := "agent/RerankNode" }] }
    let registry := ofConfig config
    (config.meant? "agent/RerankNode").isSome = true
      ∧ "agent/RerankNode" ∈ registry.types.map NodeTypeSpec.name
      ∧ (registry.get? "agent/RerankNode").isSome = false
      ∧ (registry.get? (registry.graphName "agent/RerankNode")).isSome = false
      ∧ (Graph.build registry ⟨[{ id := "n", nodeType := "agent/RerankNode" }]⟩).diagnostics
        = [.unknownNodeType "n" "agent/RerankNode"]
      ∧ ((ofConfig { editor := { typeNamespace := "Gate" } }).get? "GateNode").isSome = false := by
  decide +kernel

end Registry

end AgentWorkflow
