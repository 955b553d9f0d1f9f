import AgentWorkflow.Graph.RoundTrip
import AgentWorkflow.Proofs.PropertyOrder
import AgentWorkflow.Proofs.Publishing
import AgentWorkflow.Proofs.SilentGraphs
import Mathlib.Data.List.Forall2

/-!
# Saving while watching

A graph is edited while a run is watched: what the run says about the nodes is recorded
and forgotten between the edits, and the nodes are moved about. What if nobody had
watched, and the edits alone had been made?

The edits would have been answered the same, and the same would be saved but for one
thing: the order of the properties of a node. It is another one exactly if at some time
an output was dropped while the properties of its node were unsettled, and the node was
not removed since (`Graph.watching_keeps_order_iff`). To set two properties after an
output was recorded, and to forget the output then, is enough to see it
(`Graph.watching_changes_order`).

**The two runs** are compared node by node. What is there besides properties is the
silent graph, which is the same in both. The properties of a node can be worked out from
the instructions alone (`Graph.properties?_edit`), and those in the one run follow those
in the other (`Fields.Follows`).
-/

namespace AgentWorkflow

namespace Graph

/-- **Whether an edit drops the output** that was reported for a node. -/
def Edit.dropsOutput (id : String) : Edit → Bool
  | .annotate other _ none => other == id
  | .resetStatuses => true
  | _ => false

/-- The instructions that do more than to show something. -/
def Instruction.editing (instructions : List Instruction) : List Instruction :=
  instructions.filter fun i => !i.edit.displays

theorem Instruction.editing_cons_of_displays {i : Instruction} (shows : i.edit.displays = true)
    (instructions : List Instruction) : editing (i :: instructions) = editing instructions :=
  List.filter_cons_of_neg (by rw [shows]; exact Bool.false_ne_true)

theorem Instruction.editing_cons_of_edits {i : Instruction} (edits : i.edit.displays = false)
    (instructions : List Instruction) : editing (i :: instructions) = i :: editing instructions :=
  List.filter_cons_of_pos (by rw [edits]; rfl)

/-- **Instructions with what they are answered**, one after the other. -/
def answers : Graph → List Instruction → List (Instruction × Except Error Answer)
  | _, [] => []
  | g, i :: instructions => (i, g.answer i.registry i.edit) :: answers (g.carryOut i) instructions

/-- The properties of a node are unsettled. -/
def Unsettled (g : Graph) (id : String) : Prop :=
  ∃ n ∈ g.nodes, n.id = id ∧ Fields.Unsettled n.properties

/-- **What was said about a node**, if it is there. -/
def properties? (g : Graph) (id : String) : Option Fields := (g.node? id).map Node.properties

/-- **What is said about a node after an edit**, worked out from what was said before. -/
def Edit.said (registry : Registry) (id : String) (before : Option Fields) :
    Edit → Option Fields
  | .addNode other nodeType =>
    if other = id ∧ registry.contains nodeType = true then before.or (some []) else before
  | .removeNode other => if other = id then none else before
  | .setProperty other key value =>
    if other = id then before.map fun fs => fs.set key value else before
  | .annotate other _ output => if other = id then before.map (Fields.report output) else before
  | .resetStatuses => before.map (Fields.report none)
  | .connect _ | .disconnect _ | .applyLayout _ => before

variable {registry : Registry} {g h : Graph} {id : String}

/-! ## What is said about one node -/

theorem properties?_eq_some_iff {fs : Fields} :
    g.properties? id = some fs ↔ ∃ n ∈ g.nodes, n.id = id ∧ n.properties = fs := by
  unfold properties?
  rw [Option.map_eq_some_iff]
  constructor
  · rintro ⟨n, found, rfl⟩
    obtain ⟨there, same⟩ := node?_eq_some_iff.mp found
    exact ⟨n, there, same, rfl⟩
  · rintro ⟨n, there, same, rfl⟩
    exact ⟨n, node?_eq_some_iff.mpr ⟨there, same⟩, rfl⟩

theorem properties?_eq_none_iff : g.properties? id = none ↔ g.contains id ≠ true := by
  unfold properties?
  rw [Option.map_eq_none_iff, Option.eq_none_iff_forall_ne_some, Ne, contains_iff, not_exists]
  exact forall_congr' fun n => not_congr node?_eq_some_iff

theorem properties?_mapNodes (g : Graph) (change : Node → Node) (id : String) :
    (g.mapNodes change).properties? id = (g.node? id).map fun n => (change n).properties := by
  unfold properties?
  rw [node?_mapNodes, Option.map_map]
  rfl

theorem properties?_updateNode {change : Node → Node} {remark : Fields → Fields}
    (remarks : ∀ n, (change n).properties = remark n.properties) (g : Graph) (other id : String) :
    (g.updateNode other change).properties? id
      = if other = id then (g.properties? id).map remark else g.properties? id := by
  unfold updateNode
  rw [properties?_mapNodes, properties?, Option.map_map]
  cases found : g.node? id with
  | none => exact (ite_self _).symm
  | some n =>
    obtain rfl : n.id = id := (node?_eq_some_iff.mp found).2
    by_cases here : n.id = other
    · rw [Option.map_some, if_pos here, if_pos here.symm, remarks]
      rfl
    · rw [Option.map_some, if_neg here, if_neg (Ne.symm here)]
      rfl

theorem properties?_congr (same : g.unwired = h.unwired) (id : String) :
    g.properties? id = h.properties? id := by
  have unwired (g : Graph) : g.unwired.properties? id = g.properties? id :=
    g.properties?_mapNodes Node.unwired id
  rw [← unwired g, same, unwired]

theorem properties?_push (g : Graph) (n : Node) (new : n.id ∉ g.ids) (id : String) :
    (g.push n new).properties? id
      = if n.id = id then (g.properties? id).or (some n.properties) else g.properties? id := by
  unfold properties? node? push
  rw [List.find?_append]
  by_cases here : n.id = id
  · rw [if_pos here, List.find?_cons_of_pos (by simpa using here)]
    cases g.nodes.find? fun m => m.id = id <;> rfl
  · rw [if_neg here, List.find?_cons_of_neg (by simpa using here), List.find?_nil,
      Option.or_none]

theorem properties?_without (g : Graph) (other id : String) :
    (g.without other).properties? id = if other = id then none else g.properties? id := by
  unfold without
  rw [properties?_mapNodes]
  show (((g.nodes.filter fun n => n.id != other).find? fun n => n.id = id).map Node.properties) = _
  rw [List.find?_filter]
  by_cases here : other = id
  · subst here
    have gone : g.nodes.find? (fun n => (n.id != other) = true ∧ decide (n.id = other) = true)
        = none := List.find?_eq_none.mpr fun n _ => by simp
    rw [gone, if_pos rfl]
    rfl
  · have kept : (fun n : Node => decide ((n.id != other) = true ∧ decide (n.id = id) = true))
        = fun n => decide (n.id = id) := by
      funext n
      by_cases same : n.id = id
      · simp [same, Ne.symm here]
      · simp [same]
    rw [kept, if_neg here]
    rfl

/-- **What is said about a node** can be worked out. -/
theorem properties?_edit (registry : Registry) (g : Graph) (change : Edit) (id : String) :
    (g.edit registry change).properties? id = change.said registry id (g.properties? id) := by
  cases change with
  | addNode other nodeType =>
    by_cases taken : other ∈ g.ids
    · rw [edit_addNode_of_mem registry taken, Edit.said]
      split
      · next added =>
        cases said : g.properties? id with
        | none =>
          have absent := properties?_eq_none_iff.mp said
          exact absurd (List.contains_iff_mem.mpr (added.1 ▸ taken)) absent
        | some fs => rfl
      · rfl
    · rw [edit_addNode_of_notMem registry taken, Edit.said,
        show registry.contains nodeType = (registry.get? nodeType).isSome from rfl]
      cases registry.get? nodeType with
      | none =>
        rw [Option.elim_none, Option.isSome_none, if_neg fun added => Bool.false_ne_true added.2]
      | some spec =>
        rw [Option.elim_some, Option.isSome_some]
        refine (g.properties?_push (.ofSpec other (registry.graphName nodeType) spec)
          taken id).trans ?_
        simp only [and_true]
        rfl
  | removeNode other =>
    rw [edit_removeNode, Edit.said]
    by_cases known : g.contains other = true
    · rw [if_pos known]
      exact g.properties?_without other id
    · rw [if_neg known]
      split
      · next here => exact here ▸ properties?_eq_none_iff.mpr known
      · rfl
  | connect e =>
    rcases g.edit_connect_cases registry e with refused | ⟨-, drawn⟩
    · rw [refused]
      rfl
    · rw [drawn]
      exact properties?_congr (g.unwired_draw e) id
  | disconnect e =>
    exact properties?_congr (unwired_updateTarget (InputSlot.rewires_unlink e.source) g e) id
  | setProperty other key value =>
    rw [edit_setProperty]
    exact properties?_updateNode (fun _ => rfl) g other id
  | annotate other status output =>
    rw [edit_annotate]
    refine properties?_updateNode (fun n => ?_) g other id
    cases output <;> rfl
  | resetStatuses =>
    show (g.mapNodes fun n => n.setStatus .plain none).properties? id = _
    rw [properties?_mapNodes, properties?, Edit.said, Option.map_map]
    rfl
  | applyLayout l => exact g.properties?_mapNodes _ id

/-! ## One instruction in two runs -/

section Step

variable {shown alone : Option Fields} {change : Edit}

/-- **What only shows something** changes the order of what is written if it drops the
output of unsettled properties, and only then. -/
theorem Edit.said_of_displays (follows : Option.Rel Fields.Follows shown alone)
    (shows : change.displays = true) (registry : Registry) (id : String) :
    Option.Rel Fields.Follows (change.said registry id shown) alone
      ∧ ((change.said registry id shown).map Fields.authored = alone.map Fields.authored
        ↔ ¬(change.dropsOutput id = true ∧ ∃ fs, shown = some fs ∧ fs.Unsettled)
          ∧ shown.map Fields.authored = alone.map Fields.authored) := by
  have reported (output : Option Json) :
      Option.Rel Fields.Follows (shown.map (Fields.report output)) alone
        ∧ ((shown.map (Fields.report output)).map Fields.authored = alone.map Fields.authored
          ↔ ¬(output = none ∧ ∃ fs, shown = some fs ∧ fs.Unsettled)
            ∧ shown.map Fields.authored = alone.map Fields.authored) := by
    cases follows with
    | none => exact ⟨.none, ⟨fun _ => ⟨nofun, rfl⟩, fun _ => rfl⟩⟩
    | some here =>
      obtain ⟨after, order⟩ := here.report output
      refine ⟨.some after, ?_⟩
      simpa only [Option.map_some, Option.some.injEq, exists_eq_left'] using order
  have unchanged : Option.Rel Fields.Follows shown alone
      ∧ (shown.map Fields.authored = alone.map Fields.authored
        ↔ ¬(false = true ∧ ∃ fs, shown = some fs ∧ fs.Unsettled)
          ∧ shown.map Fields.authored = alone.map Fields.authored) :=
    ⟨follows, ⟨fun same => ⟨nofun, same⟩, And.right⟩⟩
  cases change with
  | annotate other status output =>
    dsimp only [Edit.said]
    split
    · next here =>
      have drops : Edit.dropsOutput id (.annotate other status output) = true ↔ output = none := by
        cases output with
        | none => exact iff_of_true (beq_iff_eq.mpr here) rfl
        | some value => exact iff_of_false Bool.false_ne_true nofun
      rw [drops]
      exact reported output
    · next apart =>
      have keeps : Edit.dropsOutput id (.annotate other status output) = false := by
        cases output with
        | none => exact beq_eq_false_iff_ne.mpr apart
        | some value => rfl
      rw [keeps]
      exact unchanged
  | resetStatuses =>
    have drops : Edit.dropsOutput id .resetStatuses = true ↔ (none : Option Json) = none :=
      iff_of_true rfl rfl
    rw [drops]
    exact reported none
  | applyLayout l => exact unchanged
  | addNode | removeNode | connect | disconnect | setProperty => cases shows

/-- **What does more than to show something**, and does it in both runs, changes nothing
about the order, unless it removes the node. -/
theorem Edit.said_of_edits (follows : Option.Rel Fields.Follows shown alone)
    (edits : change.displays = false)
    (authored : ∀ other key value, change = .setProperty other key value →
      Node.isInternalKey key = false) (registry : Registry) (id : String) :
    Option.Rel Fields.Follows (change.said registry id shown) (change.said registry id alone)
      ∧ ((change.said registry id shown).map Fields.authored
          = (change.said registry id alone).map Fields.authored
        ↔ change = .removeNode id ∨ shown.map Fields.authored = alone.map Fields.authored) := by
  have unchanged {P : Prop} (stays : ¬P) : Option.Rel Fields.Follows shown alone
      ∧ (shown.map Fields.authored = alone.map Fields.authored
        ↔ P ∨ shown.map Fields.authored = alone.map Fields.authored) :=
    ⟨follows, (or_iff_right stays).symm⟩
  cases change with
  | addNode other nodeType =>
    dsimp only [Edit.said]
    split
    · cases follows with
      | none => exact ⟨.some (.refl List.nodup_nil), iff_of_true rfl (Or.inr rfl)⟩
      | some here => exact unchanged nofun
    · exact unchanged nofun
  | removeNode other =>
    dsimp only [Edit.said]
    split
    · next here => exact ⟨.none, iff_of_true rfl (Or.inl (congrArg Edit.removeNode here))⟩
    · next apart => exact unchanged fun same => apart (Edit.removeNode.inj same)
  | setProperty other key value =>
    dsimp only [Edit.said]
    split
    · cases follows with
      | none => exact ⟨.none, iff_of_true rfl (Or.inr rfl)⟩
      | some here =>
        obtain ⟨after, order⟩ := here.set (authored other key value rfl) value
        refine ⟨.some after, ?_⟩
        simpa only [Option.map_some, Option.some.injEq, reduceCtorEq, false_or] using order
    · exact unchanged nofun
  | connect | disconnect => exact unchanged nofun
  | annotate | resetStatuses | applyLayout => cases edits

end Step

/-! ## The two runs -/

/-- **A graph that is watched**, and the same graph edited alone. -/
structure Watched (g h : Graph) : Prop where
  /-- The two graphs are the same but for what was said. -/
  silent : g.silent = h.silent
  /-- What was said in the one follows what was said in the other. -/
  follows : ∀ id, Option.Rel Fields.Follows (g.properties? id) (h.properties? id)

/-- The properties of a node are written in another order. -/
def Differ (id : String) (g h : Graph) : Prop :=
  (g.properties? id).map Fields.authored ≠ (h.properties? id).map Fields.authored

/-- An instruction in two runs: in the second one only if it does more than to show
something. -/
def watch (s : Graph × Graph) (i : Instruction) : Graph × Graph :=
  (s.1.carryOut i, if i.edit.displays then s.2 else s.2.carryOut i)

theorem foldl_watch (g h : Graph) (instructions : List Instruction) :
    instructions.foldl watch (g, h)
      = (g.carryOutAll instructions, h.carryOutAll (Instruction.editing instructions)) := by
  induction instructions generalizing g h with
  | nil => rfl
  | cons i instructions ih =>
    rw [List.foldl_cons, watch, ih]
    cases shows : i.edit.displays with
    | true =>
      rw [Instruction.editing_cons_of_displays shows]
      rfl
    | false =>
      rw [Instruction.editing_cons_of_edits shows]
      rfl

/-- The properties of a node are unsettled if what was said about it is. -/
theorem unsettled_iff : g.Unsettled id ↔ ∃ fs, g.properties? id = some fs ∧ fs.Unsettled := by
  simp only [properties?_eq_some_iff]
  constructor
  · rintro ⟨n, there, same, unsettled⟩
    exact ⟨n.properties, ⟨n, there, same, rfl⟩, unsettled⟩
  · rintro ⟨fs, ⟨n, there, same, rfl⟩, unsettled⟩
    exact ⟨n, there, same, unsettled⟩

/-- **One instruction in two runs**: the graphs go on as before. The order of what is
written of a node is another one afterwards if the output of unsettled properties was
dropped, or if it was before and the node was not removed. -/
theorem Watched.watch {s : Graph × Graph} {i : Instruction} (watched : Watched s.1 s.2)
    (authored : ∀ other key value, i.edit = .setProperty other key value →
      Node.isInternalKey key = false) (id : String) :
    Watched (watch s i).1 (watch s i).2
      ∧ (Differ id (Graph.watch s i).1 (Graph.watch s i).2
        ↔ (i.edit.dropsOutput id = true ∧ s.1.Unsettled id)
          ∨ Differ id s.1 s.2 ∧ ¬i.edit = .removeNode id) := by
  obtain ⟨g, h⟩ := s
  obtain ⟨registry, change⟩ := i
  unfold Graph.watch Differ carryOut
  dsimp only at *
  simp only [properties?_edit, unsettled_iff]
  cases shows : change.displays with
  | true =>
    have step (id : String) := Edit.said_of_displays (watched.follows id) shows registry id
    refine ⟨⟨(silent_edit_of_displays shows registry g).trans watched.silent, fun id => ?_⟩, ?_⟩
    · rw [properties?_edit, if_pos rfl]
      exact (step id).1
    · have stays : ¬change = .removeNode id := by
        rintro rfl
        cases shows
      rw [if_pos rfl, Ne, (step id).2, not_and_or, not_not, and_iff_left stays]
  | false =>
    have step (id : String) :=
      Edit.said_of_edits (watched.follows id) shows authored registry id
    refine ⟨⟨silent_edit_congr watched.silent registry change, fun id => ?_⟩, ?_⟩
    · rw [if_neg Bool.false_ne_true, properties?_edit, properties?_edit]
      exact (step id).1
    · have keeps : change.dropsOutput id = false := by
        cases change with
        | annotate | resetStatuses | applyLayout => cases shows
        | addNode | removeNode | connect | disconnect | setProperty => rfl
      rw [if_neg Bool.false_ne_true, properties?_edit, Ne, (step id).2, keeps, not_or, and_comm]
      exact (or_iff_right fun drops => Bool.false_ne_true drops.1).symm

/-- The graphs go on together through any instructions. -/
theorem Watched.foldl_watch (watched : Watched g h) {instructions : List Instruction}
    (authored : ∀ i ∈ instructions, ∀ other key value, i.edit = .setProperty other key value →
      Node.isInternalKey key = false) :
    Watched (instructions.foldl Graph.watch (g, h)).1 (instructions.foldl Graph.watch (g, h)).2 :=
  List.foldlRecOn (motive := fun s => Watched s.1 s.2) instructions Graph.watch watched
    fun _ watched i hi => (watched.watch (authored i hi) "").1

/-- **The order of what is written of a node differs after two runs** if the output of
unsettled properties was dropped in the course of the first one, and the node was not
removed since; or if it did before, and the node was not removed at all. -/
theorem Watched.differ_iff (watched : Watched g h) {instructions : List Instruction}
    (authored : ∀ i ∈ instructions, ∀ other key value, i.edit = .setProperty other key value →
      Node.isInternalKey key = false) (id : String) :
    Differ id (g.carryOutAll instructions) (h.carryOutAll (Instruction.editing instructions))
      ↔ (∃ u c v, instructions = u ++ c :: v
            ∧ (c.edit.dropsOutput id = true ∧ (g.carryOutAll u).Unsettled id)
            ∧ ∀ i ∈ v, ¬i.edit = .removeNode id)
        ∨ Differ id g h ∧ ∀ i ∈ instructions, ¬i.edit = .removeNode id := by
  let begins (s : Graph × Graph) (i : Instruction) : Prop :=
    i.edit.dropsOutput id = true ∧ s.1.Unsettled id
  let ends (_ : Graph × Graph) (i : Instruction) : Prop := i.edit = .removeNode id
  have keeps : ∀ i ∈ instructions, ∀ s : Graph × Graph, Watched s.1 s.2 →
      Watched (Graph.watch s i).1 (Graph.watch s i).2 :=
    fun i hi s watched => (watched.watch (authored i hi) id).1
  have step : ∀ i ∈ instructions, ∀ s : Graph × Graph, Watched s.1 s.2 →
      (Differ id (Graph.watch s i).1 (Graph.watch s i).2
        ↔ begins s i ∨ Differ id s.1 s.2 ∧ ¬ends s i) :=
    fun i hi s watched => (watched.watch (authored i hi) id).2
  have run := Publishing.foldlM_iff_of_step_of_kept
    (f := fun s i => pure (Graph.watch s i)) (P := fun s => Differ id s.1 s.2) keeps step
    (s := (g, h)) watched
  simpa only [begins, ends, Publishing.never_iff_forall_mem, List.foldlM_pure,
    Publishing.value_pure, Graph.foldl_watch] using run

/-- **What does more than to show something** is answered the same in both runs. -/
theorem answers_editing (same : g.silent = h.silent) (instructions : List Instruction) :
    (g.answers instructions).filter (fun a => !a.1.edit.displays)
      = h.answers (Instruction.editing instructions) := by
  induction instructions generalizing g h with
  | nil => rfl
  | cons i instructions ih =>
    rw [answers]
    cases shows : i.edit.displays with
    | true =>
      rw [Instruction.editing_cons_of_displays shows,
        List.filter_cons_of_neg (by rw [shows]; exact Bool.false_ne_true)]
      exact ih ((silent_edit_of_displays shows i.registry g).trans same)
    | false =>
      rw [Instruction.editing_cons_of_edits shows,
        List.filter_cons_of_pos (by rw [shows]; rfl), answers, answer_congr same]
      exact congrArg _ (ih (silent_edit_congr same i.registry i.edit))

/-! ## What is saved -/

/-- The descriptor of a silent node, with what was said about it in a graph. -/
def describe (g : Graph) (n : Node) : NodeDescriptor :=
  { n.toDescriptor with properties := (g.properties? n.id).elim [] Fields.authored }

/-- **What is saved of a graph** is its silent nodes and what was said about them. -/
theorem nodes_toDefinition (g : Graph) : g.toDefinition.nodes = g.silent.nodes.map g.describe := by
  rw [nodes_silent, List.map_map]
  refine List.map_congr_left fun n hn => ?_
  have said : g.properties? n.id = some n.properties :=
    properties?_eq_some_iff.mpr ⟨n, hn, rfl, rfl⟩
  show n.toDescriptor = { n.toDescriptor with
    properties := (g.properties? n.id).elim [] Fields.authored }
  rw [said]
  rfl

theorem map_properties_find?_toDefinition (g : Graph) (id : String) :
    (g.toDefinition.nodes.find? fun d => d.id = id).map NodeDescriptor.properties
      = (g.properties? id).map Fields.authored := by
  show ((g.nodes.map Node.toDescriptor).find? _).map _ = _
  rw [List.find?_map, Option.map_map, properties?, Option.map_map]
  rfl

/-- **Of two runs the same is saved** if the order of what is written of no node
differs. -/
theorem Watched.toDefinition_eq_iff (watched : Watched g h) :
    g.toDefinition = h.toDefinition ↔ ∀ id, ¬Differ id g h := by
  constructor
  · intro same id differ
    refine differ ?_
    rw [← map_properties_find?_toDefinition, same, map_properties_find?_toDefinition]
  · intro agree
    have described : g.describe = h.describe := by
      funext n
      have said (g : Graph) : (g.properties? n.id).elim [] Fields.authored
          = ((g.properties? n.id).map Fields.authored).getD [] := by
        cases g.properties? n.id <;> rfl
      unfold describe
      rw [said, said, not_not.mp (agree n.id)]
    refine congrArg Definition.mk ?_
    show g.toDefinition.nodes = h.toDefinition.nodes
    rw [nodes_toDefinition, nodes_toDefinition, watched.silent, described]

/-- **A graph that is watched is saved as it is alone**, but for the order of the properties of
each node. -/
theorem Watched.forall₂_toDefinition (watched : Watched g h) :
    List.Forall₂
      (fun d e => d.id = e.id ∧ d.nodeType = e.nodeType ∧ d.inputs = e.inputs
        ∧ d.properties.Perm e.properties)
      g.toDefinition.nodes h.toDefinition.nodes := by
  rw [nodes_toDefinition, nodes_toDefinition, watched.silent, List.forall₂_map_left_iff,
    List.forall₂_map_right_iff, List.forall₂_same]
  intro n _
  refine ⟨rfl, rfl, rfl, ?_⟩
  have follows := watched.follows n.id
  unfold describe
  generalize g.properties? n.id = shown, h.properties? n.id = alone at follows ⊢
  cases follows with
  | none => exact .refl _
  | some here => exact here.perm

/-- A graph is like itself, if no property is there twice. -/
theorem Watched.refl (distinct : ∀ n ∈ g.nodes, n.properties.keys.Nodup) : Watched g g := by
  refine ⟨rfl, fun id => ?_⟩
  cases said : g.properties? id with
  | none => exact .none
  | some fs =>
    obtain ⟨n, hn, -, rfl⟩ := properties?_eq_some_iff.mp said
    exact .some (.refl (distinct n hn))

/-- **Watching and saving.** Build a graph and edit it, while a run is watched or not.
The edits are answered the same. What is saved is the same but for the order of the
properties of each node. It is the same altogether if and only if, whenever an output is
dropped while the properties of its node are unsettled, the node is removed later on. -/
theorem watching_keeps_order_iff (registry : Registry) (definition : Definition)
    (instructions : List Instruction)
    (distinct : ∀ d ∈ definition.nodes, d.properties.keys.Nodup)
    (authored : ∀ i ∈ instructions, ∀ id key value, i.edit = .setProperty id key value →
      Node.isInternalKey key = false) :
    let built := (build registry definition).graph
    let watched := built.carryOutAll instructions
    let alone := built.carryOutAll (Instruction.editing instructions)
    (built.answers instructions).filter (fun a => !a.1.edit.displays)
        = built.answers (Instruction.editing instructions)
      ∧ List.Forall₂
        (fun d e => d.id = e.id ∧ d.nodeType = e.nodeType ∧ d.inputs = e.inputs
          ∧ d.properties.Perm e.properties)
        watched.toDefinition.nodes alone.toDefinition.nodes
      ∧ (watched.toDefinition = alone.toDefinition
        ↔ ∀ u c v id, instructions = u ++ c :: v → c.edit.dropsOutput id = true →
          (built.carryOutAll u).Unsettled id → ∃ i ∈ v, i.edit = .removeNode id) := by
  intro built watched alone
  have start : Watched built built := .refl fun n hn => by
    obtain ⟨d, hd, said⟩ := properties_of_mem_build hn
    rw [said]
    exact (distinct d hd).sublist (List.filter_sublist.map Prod.fst)
  have runs : Watched watched alone := by
    have finish := start.foldl_watch authored
    rwa [Graph.foldl_watch] at finish
  refine ⟨answers_editing rfl instructions, runs.forall₂_toDefinition,
    runs.toDefinition_eq_iff.trans ?_⟩
  have differ (id : String) := start.differ_iff authored id
  constructor
  · rintro agree u c v id split drops unsettled
    by_contra kept
    exact agree id ((differ id).mpr (Or.inl ⟨u, c, v, split, ⟨drops, unsettled⟩,
      fun i hi removed => kept ⟨i, hi, removed⟩⟩))
  · intro removed id different
    rcases (differ id).mp different with ⟨u, c, v, split, ⟨drops, unsettled⟩, kept⟩ | ⟨apart, -⟩
    · obtain ⟨i, hi, gone⟩ := removed u c v id split drops unsettled
      exact kept i hi gone
    · exact apart rfl

/-- A node with a note, about which nothing else is said. -/
def noted : Definition :=
  ⟨[{ id := "in", nodeType := "InputNode", properties := [("note", .str "first")] }]⟩

/-- An output is recorded, then the given properties are set, then it is forgotten. -/
def settingWhileWatching (keys : List String) : List Instruction :=
  ⟨.withBuiltins, .annotate "in" .executed (some .null)⟩
    :: keys.map (fun key => ⟨.withBuiltins, .setProperty "in" key .null⟩)
    ++ [⟨.withBuiltins, .resetStatuses⟩]

/-- Nothing that is set there belongs to the editor, if none of the keys does. -/
theorem authored_settingWhileWatching {keys : List String}
    (authored : ∀ key ∈ keys, Node.isInternalKey key = false) :
    ∀ i ∈ settingWhileWatching keys, ∀ id key value, i.edit = .setProperty id key value →
      Node.isInternalKey key = false := by
  intro i hi id key value sets
  rcases List.mem_append.mp hi with before | last
  · rcases List.mem_cons.mp before with rfl | between
    · cases sets
    · obtain ⟨k, hk, rfl⟩ := List.mem_map.mp between
      cases sets
      exact authored key hk
  · obtain rfl := List.mem_singleton.mp last
    cases sets

/-- Setting one property while a run is watched does no harm. -/
theorem watching_keeps_order_of_one :
    let built := (build .withBuiltins noted).graph
    let instructions := settingWhileWatching ["first"]
    let watched := built.carryOutAll instructions
    let alone := built.carryOutAll (Instruction.editing instructions)
    (∀ d ∈ noted.nodes, d.properties.keys.Nodup)
      ∧ (∀ i ∈ instructions, ∀ id key value, i.edit = .setProperty id key value →
        Node.isInternalKey key = false)
      ∧ watched.toDefinition = alone.toDefinition
      ∧ ∀ u c v id, instructions = u ++ c :: v → c.edit.dropsOutput id = true →
          (built.carryOutAll u).Unsettled id → ∃ i ∈ v, i.edit = .removeNode id := by
  intro built instructions watched alone
  have distinct : ∀ d ∈ noted.nodes, d.properties.keys.Nodup := by decide
  have authored : ∀ i ∈ instructions, ∀ id key value, i.edit = .setProperty id key value →
      Node.isInternalKey key = false := authored_settingWhileWatching (by decide)
  have same : watched.toDefinition = alone.toDefinition := rfl
  exact ⟨distinct, authored, same,
    (watching_keeps_order_iff .withBuiltins noted instructions distinct authored).2.2.mp same⟩

/-- **Setting two properties while a run is watched** changes their order, once what the
run said is forgotten. -/
theorem watching_changes_order :
    let built := (build .withBuiltins noted).graph
    let instructions := settingWhileWatching ["first", "second"]
    let watched := built.carryOutAll instructions
    let alone := built.carryOutAll (Instruction.editing instructions)
    (∀ i ∈ instructions, ∀ id key value, i.edit = .setProperty id key value →
        Node.isInternalKey key = false)
      ∧ watched.toDefinition.nodes.map (fun d => d.properties.keys) = [["note", "second", "first"]]
      ∧ alone.toDefinition.nodes.map (fun d => d.properties.keys) = [["note", "first", "second"]]
      ∧ watched.toDefinition ≠ alone.toDefinition := by
  intro built instructions watched alone
  have first : watched.toDefinition.nodes.map (fun d => d.properties.keys)
      = [["note", "second", "first"]] := rfl
  have second : alone.toDefinition.nodes.map (fun d => d.properties.keys)
      = [["note", "first", "second"]] := rfl
  refine ⟨authored_settingWhileWatching (by decide), first, second, fun same => ?_⟩
  rw [same, second] at first
  exact absurd first (by decide)

end Graph

end AgentWorkflow
