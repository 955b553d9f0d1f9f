import AgentWorkflow.Graph.RoundTrip
import AgentWorkflow.Proofs.GateDetection
import AgentWorkflow.Proofs.TypeNames
import Mathlib.Data.List.TakeWhile

/-!
# When the two ways back to a bare name agree

The registry that a node was made with always finds the name its type was
registered under, because it cuts off exactly what it has put in front
(`Registry.bareName_append`). The node itself does not know the namespace. It
takes what follows the last slash of its type, and this is the registered name
only if the namespace sets names apart by a slash and the name has none of its
own.

**What hangs on it.** The name the node finds is the one that is written into
definitions, and the one that is compared with the type of gates. Where it is
not the registered name, what is saved is not the type that was declared, and a
node of the gate type is never waited at. Nothing says so: the namespace and the
names are whatever the configuration makes them.

`Graph.bare_names_agree_iff` is an equivalence, for every configuration and
every graph that was built and edited under it. That a registry is well named
(`Registry.WellNamed`) is its right hand side, asked of all types at once.
-/

namespace AgentWorkflow

/-! ## Names behind a namespace -/

theorem Text.dropStart?_append (front s : List Char) :
    Text.dropStart? front (front ++ s) = some s := by
  induction front with
  | nil => rfl
  | cons c front ih =>
    rw [List.cons_append, Text.dropStart?, if_pos rfl, ih]

namespace Graph.Node

theorem slash_notMem_bareName (name : List Char) : '/' ∉ bareName name := by
  intro slash
  have kept := List.mem_takeWhile_imp (List.mem_reverse.mp slash)
  exact absurd rfl (of_decide_eq_true kept)

/-- Behind a namespace, a name without a slash keeps what follows the last slash
of the namespace. -/
theorem bareName_append (front : List Char) {name : List Char} (bare : '/' ∉ name) :
    bareName (front ++ name) = bareName front ++ name := by
  have passes : ∀ c ∈ name.reverse, decide (c ≠ '/') = true := fun c hc =>
    decide_eq_true fun slash => bare (slash ▸ List.mem_reverse.mp hc)
  rw [bareName, List.reverse_append, List.takeWhile_append_of_pos passes, List.reverse_append,
    List.reverse_reverse]
  rfl

/-- Nothing follows the last slash of a text that is empty or ends in one. -/
theorem bareName_eq_nil_iff (front : List Char) :
    bareName front = [] ↔ front = [] ∨ ∃ rest, front = rest ++ ['/'] := by
  rw [bareName, List.reverse_eq_nil_iff]
  cases reversed : front.reverse with
  | nil => simp [List.reverse_eq_nil_iff.mp reversed]
  | cons c rest =>
    have whole : front = rest.reverse ++ [c] := by
      rw [← List.reverse_reverse front, reversed, List.reverse_cons]
    rw [whole]
    by_cases slash : c = '/'
    · subst slash
      simp
    · simp [slash]

/-- **A name is found behind a namespace** if the namespace is empty or ends in a
slash and the name has none. -/
theorem bareName_append_eq_iff (front name : List Char) :
    bareName (front ++ name) = name
      ↔ '/' ∉ name ∧ (front = [] ∨ ∃ rest, front = rest ++ ['/']) := by
  constructor
  · intro found
    have bare : '/' ∉ name := found ▸ slash_notMem_bareName (front ++ name)
    rw [bareName_append front bare] at found
    exact ⟨bare, (bareName_eq_nil_iff front).mp (List.append_left_eq_self.mp found)⟩
  · rintro ⟨bare, apart⟩
    rw [bareName_append front bare, (bareName_eq_nil_iff front).mpr apart, List.nil_append]

end Graph.Node

namespace Registry

variable {registry : Registry} {spec : NodeTypeSpec}

/-- **A registry finds the name** that it has put its namespace in front of. -/
theorem bareName_append (registry : Registry) (name : String) :
    registry.bareName (registry.typeNamespace ++ name) = name := by
  unfold bareName
  rw [String.toList_append, Text.dropStart?_append]
  exact String.ofList_toList

/-- A type is found under the name that graphs have for it. -/
theorem get?_graphName {nodeType : String} (known : registry.get? nodeType = some spec) :
    registry.get? (registry.graphName nodeType) = some spec :=
  (get?_congr (registry.bareName_append (registry.bareName nodeType))).trans known

theorem typeNamespace_foldl_register (registry : Registry) (specs : List NodeTypeSpec) :
    (specs.foldl register registry).typeNamespace = registry.typeNamespace :=
  List.foldlRecOn (motive := fun r : Registry => r.typeNamespace = registry.typeNamespace) specs
    register rfl fun _ same _ _ => same

theorem typeNamespace_ofConfig (config : AppConfig) :
    (ofConfig config).typeNamespace = config.editor.typeNamespace := by
  unfold ofConfig builtinsUnder
  rw [typeNamespace_foldl_register, typeNamespace_foldl_register]

end Registry

/-! ## The nodes of a graph -/

namespace Graph

variable {registry : Registry} {spec : NodeTypeSpec}

/-- **The node carries a registered name** behind the namespace. -/
def Node.Named (registry : Registry) (spec : NodeTypeSpec) (n : Node) : Prop :=
  registry.get? n.nodeType = some spec ∧ n.nodeType = registry.typeNamespace ++ spec.name

theorem Node.named_of_nodeType {n : Node} {nodeType : String}
    (known : registry.get? nodeType = some spec)
    (made : n.nodeType = registry.graphName nodeType) : n.Named registry spec := by
  refine ⟨made ▸ Registry.get?_graphName known, ?_⟩
  rw [made, Registry.graphName, (Registry.of_get?_eq_some known).2]

/-- **Every node of an edited graph** is named after a registered type. -/
theorem named_editAll (registry : Registry) (definition : Definition) (edits : List Edit) :
    ∀ n ∈ ((build registry definition).graph.editAll registry edits).nodes,
      ∃ spec, n.Named registry spec := by
  refine forall_mem_editAll (fun id nodeType spec known => ?_) (fun _ _ m n frame _ named => ?_)
    fun n hn => ?_
  · exact ⟨spec, Node.named_of_nodeType known rfl⟩
  · obtain ⟨spec, known, behind⟩ := named
    have same : n.frame.nodeType = m.frame.nodeType := by rw [frame]
    change n.nodeType = m.nodeType at same
    exact ⟨spec, same ▸ known, same.trans behind⟩
  · obtain ⟨d, -, spec, known, bare⟩ := mem_build hn
    have made : n.nodeType = registry.graphName d.nodeType := congrArg Node.nodeType bare
    exact ⟨spec, Node.named_of_nodeType known made⟩

/-- The node finds the name it was registered under if the namespace sets it
apart. -/
theorem Node.Named.bareType_eq_iff {n : Node} (named : n.Named registry spec) :
    n.bareType = spec.name
      ↔ '/' ∉ spec.name.toList
        ∧ (registry.typeNamespace = "" ∨ ∃ front, registry.typeNamespace = front ++ "/") := by
  have empty : registry.typeNamespace.toList = [] ↔ registry.typeNamespace = "" :=
    String.toList_eq_nil_iff
  have ends : (∃ rest, registry.typeNamespace.toList = rest ++ ['/'])
      ↔ ∃ front, registry.typeNamespace = front ++ "/" := by
    constructor
    · rintro ⟨rest, whole⟩
      refine ⟨String.ofList rest, String.toList_inj.mp ?_⟩
      rw [whole, String.toList_append, String.toList_ofList]
      rfl
    · rintro ⟨front, whole⟩
      exact ⟨front.toList, by rw [whole, String.toList_append]; rfl⟩
  rw [← empty, ← ends, ← Node.bareName_append_eq_iff, ← String.toList_append, ← named.2, bareType]
  constructor
  · intro found
    rw [← found, String.toList_ofList]
  · intro found
    rw [found, String.ofList_toList]

theorem hasGate_iff_of_mem {g : Graph} {n : Node} (hn : n ∈ g.nodes) (gateType : String) :
    g.HasGate gateType n.id ↔ n.bareType = gateType := by
  have found : g.node? n.id = some n := node?_eq_some_iff.mpr ⟨hn, rfl⟩
  rw [← map_bareType_eq_some_iff, found]
  exact Option.some_inj

/-- **Where the two ways back to a bare name agree.** Take any configuration, and
any graph that was built and edited under it. The registry finds for every node
the name its type was registered under. The node finds that name, and with it
definitions that are saved and sessions that look for gates, if and only if the
configured namespace is empty or ends in a slash and the name has none. -/
theorem bare_names_agree_iff (config : AppConfig) (definition : Definition) (edits : List Edit)
    (n : Node) :
    let registry := Registry.ofConfig config
    let g := (build registry definition).graph.editAll registry edits
    n ∈ g.nodes → ∃ spec, registry.get? n.nodeType = some spec
      ∧ registry.bareName n.nodeType = spec.name
      ∧ let apart := '/' ∉ spec.name.toList ∧ (config.editor.typeNamespace = ""
          ∨ ∃ front, config.editor.typeNamespace = front ++ "/")
        (n.bareType = registry.bareName n.nodeType ↔ apart)
          ∧ (n.toDescriptor.nodeType = spec.name ↔ apart)
          ∧ ∀ (s : Session) (snapshot : Snapshot), s.graph = g → s.gateType = spec.name →
              snapshot.lastExecuted = some n.id →
              (s.waitingGate? snapshot = some n.id ↔ apart) := by
  intro registry g hn
  obtain ⟨spec, named⟩ := named_editAll registry definition edits n hn
  have cut : registry.bareName n.nodeType = spec.name := by
    rw [named.2, registry.bareName_append]
  have agree := named.bareType_eq_iff
  rw [Registry.typeNamespace_ofConfig] at agree
  refine ⟨spec, named.1, cut, ?_, agree, fun s snapshot shown gates ran => ?_⟩
  · rw [cut]
    exact agree
  · rw [Session.waitingGate?_eq_some_iff, shown, gates, hasGate_iff_of_mem hn, agree]
    exact and_iff_right ran

/-- Under the namespace that is there unless another one is configured, a gate that
is added to an empty graph is known as a gate and waited at. -/
theorem bare_names_agree_iff_at_gate :
    let registry := Registry.ofConfig {}
    let g := (build registry {}).graph.editAll registry [.addNode "gate" "GateNode"]
    ∃ n ∈ g.nodes, n.bareType = registry.bareName n.nodeType
      ∧ ({ gateType := "GateNode", graph := g } : Session).waitingGate? .atGate
        = some n.id := by
  intro registry g
  let n := g.nodes.head (by decide +kernel)
  have hn : n ∈ g.nodes := List.head_mem (by decide +kernel)
  obtain ⟨spec, -, cut, agree, -, waits⟩ := bare_names_agree_iff {} {}
    [.addNode "gate" "GateNode"] n hn
  have name : spec.name = "GateNode" := by
    rw [← cut]
    decide +kernel
  have apart : '/' ∉ spec.name.toList
      ∧ ("agent/" = "" ∨ ∃ front : String, "agent/" = front ++ "/") := by
    rw [name]
    exact ⟨by decide, Or.inr ⟨"agent", rfl⟩⟩
  have ran : Snapshot.atGate.lastExecuted = some n.id := by decide +kernel
  have shown : g = g := rfl
  exact ⟨n, hn, agree.mpr apart, (waits _ .atGate shown name.symm ran).mpr apart⟩

/-- **Under a namespace that ends in a dot, gates are not recognised.** The
registry knows the node by the name of gates, the node itself does not, and no
session waits at it. -/
theorem gate_unrecognised_under_dotted_namespace :
    let config : AppConfig := { editor := { typeNamespace := "agent." } }
    let registry := Registry.ofConfig config
    let g := (build registry .singleGate).graph
    (g.nodes.map fun n => (registry.bareName n.nodeType, n.bareType, n.toDescriptor.nodeType))
        = [("GateNode", "agent.GateNode", "agent.GateNode")]
      ∧ ({ gateType := "GateNode", graph := g } : Session).waitingGate? .atGate = none := by
  decide +kernel

end Graph

end AgentWorkflow
