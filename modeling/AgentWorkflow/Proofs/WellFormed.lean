import AgentWorkflow.Proofs.Instructions
import AgentWorkflow.Proofs.Placement
import Mathlib.Data.List.Nodup

/-!
# Well-formed graphs

Wires are kept at the node they lead into, and name the node they come from by its id.
So three things could go wrong in the course of edits: two nodes of one id, a wire that
comes from nowhere, and an edge that is there twice. None of them does, whatever a graph
began as and whichever registries it was edited under
(`Graph.edited_graphs_are_wellFormed`).

**Ids.** That no two nodes have one id is part of what a graph is, and a node whose id
is taken is not put in. What is to be shown is that this never happens behind
anybody's back. The ids of a graph can be worked out from those it began with and the
instructions alone (`Graph.Instruction.idsAfter`), and they come out distinct.

**Edges.** An edge is there once if no slot is fed twice from one source, and if of two
slots of one name only the first is fed. Both are part of being tidy, and this is why
the second one is needed: two slots of one name, fed from one source, would give the
same edge twice.
-/

namespace AgentWorkflow

namespace Graph

/-- **Where a graph comes from.** -/
inductive Origin where
  /-- It was begun with nothing in it. -/
  | nothing
  /-- It was built. -/
  | definition (registry : Registry) (definition : Definition)

namespace Origin

/-- The graph as it was at first. -/
def graph : Origin → Graph
  | .nothing => {}
  | .definition registry d => (build registry d).graph

/-- The ids it had at first: those of the descriptors that become nodes. -/
def ids : Origin → List String
  | .nothing => []
  | .definition registry d => (d.placed registry).map NodeDescriptor.id

end Origin

/-- **The ids after an instruction**, worked out from those before. -/
def Instruction.idsAfter (ids : List String) (i : Instruction) : List String :=
  match i.edit with
  | .addNode id nodeType =>
    if ids.contains id || !i.registry.contains nodeType then ids else ids ++ [id]
  | .removeNode id => ids.filter fun other => other != id
  | _ => ids

variable {registry : Registry} {g : Graph}

/-! ## Ids -/

/-- No instruction puts an id there twice. -/
theorem Instruction.nodup_idsAfter {ids : List String} (distinct : ids.Nodup)
    (i : Instruction) : (idsAfter ids i).Nodup := by
  unfold idsAfter
  split
  · next id nodeType _ =>
    split
    · exact distinct
    · next free =>
      have free : id ∉ ids := fun taken => free (by rw [List.contains_iff_mem.mpr taken]; rfl)
      rw [List.nodup_append]
      refine ⟨distinct, by simp, ?_⟩
      rintro a ha b hb rfl
      exact free (List.mem_singleton.mp hb ▸ ha)
  · exact distinct.filter _
  · exact distinct

theorem Origin.nodup_ids (origin : Origin) : origin.ids.Nodup := by
  cases origin with
  | nothing => exact List.nodup_nil
  | definition registry definition => exact definition.nodup_ids_placed registry

theorem ids_congr {h : Graph} (same : g.unwired = h.unwired) : g.ids = h.ids := by
  rw [← ids_mapNodes g Node.unwired, ← ids_mapNodes h Node.unwired]
  exact congrArg Graph.ids same

/-- **A graph begins with these ids.** -/
theorem Origin.ids_graph (origin : Origin) : origin.graph.ids = origin.ids := by
  cases origin with
  | nothing => rfl
  | definition registry definition =>
    show (build registry definition).graph.ids = _
    rw [graph_build, ids_congr (unwired_wireAll _ _), ids_firstPass]
    rfl

/-- **An instruction changes the ids as it says.** -/
theorem ids_carryOut (g : Graph) (i : Instruction) :
    (g.carryOut i).ids = Instruction.idsAfter g.ids i := by
  obtain ⟨registry, change⟩ := i
  unfold carryOut Instruction.idsAfter
  cases change with
  | addNode id nodeType =>
    dsimp only
    by_cases taken : id ∈ g.ids
    · rw [edit_addNode_of_mem registry taken, List.contains_iff_mem.mpr taken, Bool.true_or,
        if_pos rfl]
    · have free : g.ids.contains id = false := by simpa using taken
      rw [edit_addNode_of_notMem registry taken, free, Bool.false_or,
        show registry.contains nodeType = (registry.get? nodeType).isSome from rfl]
      cases registry.get? nodeType with
      | none => rfl
      | some spec => exact g.ids_push _ taken
  | removeNode id =>
    dsimp only
    rw [edit_removeNode]
    by_cases known : g.contains id = true
    · rw [if_pos known]
      unfold without
      rw [ids_mapNodes]
      exact (List.filter_map (f := Node.id) (p := fun other => other != id)).symm
    · rw [if_neg known]
      refine (List.filter_eq_self.mpr fun other there => bne_iff_ne.mpr ?_).symm
      rintro rfl
      exact known (List.contains_iff_mem.mpr there)
  | connect e =>
    rcases g.edit_connect_cases registry e with refused | ⟨-, drawn⟩
    · exact congrArg Graph.ids refused
    · exact (congrArg Graph.ids drawn).trans (ids_updateNode ..)
  | disconnect e => exact ids_updateNode ..
  | setProperty id key value =>
    rw [edit_setProperty]
    exact ids_updateNode ..
  | annotate id status output =>
    rw [edit_annotate]
    exact ids_updateNode ..
  | resetStatuses => exact ids_mapNodes ..
  | applyLayout l => exact ids_mapNodes ..

theorem ids_carryOutAll (g : Graph) (instructions : List Instruction) :
    (g.carryOutAll instructions).ids = instructions.foldl Instruction.idsAfter g.ids := by
  unfold carryOutAll
  induction instructions generalizing g with
  | nil => rfl
  | cons i instructions ih => rw [List.foldl_cons, List.foldl_cons, ih, ids_carryOut]

/-! ## Edges -/

/-- **No edge leads into a tidy node twice.** -/
theorem Node.nodup_edges {n : Node} (tidy : InputSlot.Tidy n.inputs) : n.edges.Nodup := by
  unfold Node.edges
  rw [List.nodup_flatMap]
  constructor
  · intro s hs
    refine (tidy.nodup s hs).map fun c d same => ?_
    cases c
    cases d
    cases same
    rfl
  · refine tidy.shadowed.imp fun {s t} empty e first second => ?_
    obtain ⟨c, -, rfl⟩ := List.mem_map.mp first
    obtain ⟨d, fed, same⟩ := List.mem_map.mp second
    -- the edges are the same, so the slots go by one name, and the later one feeds nothing
    have named : s.name = t.name := (congrArg Edge.targetInput same).symm
    rw [empty named] at fed
    cases fed

/-- **No edge of a sound graph is there twice.** -/
theorem Sound.nodup_edges (sound : g.Sound) : g.edges.Nodup := by
  unfold edges
  rw [List.nodup_flatMap]
  refine ⟨fun n hn => Node.nodup_edges (sound.tidy n hn), ?_⟩
  refine (List.pairwise_map.mp g.distinct).imp fun {n m} apart e first second => apart ?_
  obtain ⟨s, -, here⟩ := List.mem_flatMap.mp first
  obtain ⟨c, -, rfl⟩ := List.mem_map.mp here
  obtain ⟨t, -, there⟩ := List.mem_flatMap.mp second
  obtain ⟨d, -, same⟩ := List.mem_map.mp there
  exact (congrArg Edge.targetNode same).symm

theorem Sound.origin (origin : Origin) : origin.graph.Sound := by
  cases origin with
  | nothing => exact .empty
  | definition registry definition => exact .build registry definition

/-- **Edited graphs are well-formed.** Take a graph that was begun with nothing in it or
built from any definition, and edit it as you like, under whatever registries. Its ids
are those that the instructions leave of the ids it began with, and they are distinct.
Every wire comes from an output of a node that is there. No edge is there twice. -/
theorem edited_graphs_are_wellFormed (origin : Origin) (instructions : List Instruction) :
    let g := origin.graph.carryOutAll instructions
    g.ids = instructions.foldl Instruction.idsAfter origin.ids
      ∧ g.ids.Nodup
      ∧ (∀ n ∈ g.nodes, ∀ s ∈ n.inputs, ∀ c ∈ s.links,
          ∃ source ∈ g.nodes, source.id = c.fromNode ∧ source.hasOutput c.fromOutput = true)
      ∧ g.edges.Nodup := by
  intro g
  have sound : g.Sound := (Sound.origin origin).carryOutAll instructions
  have ids : g.ids = instructions.foldl Instruction.idsAfter origin.ids := by
    rw [← origin.ids_graph]
    exact ids_carryOutAll origin.graph instructions
  refine ⟨ids, ?_, fun n hn s hs c hc => ?_, sound.nodup_edges⟩
  · rw [ids]
    exact List.foldlRecOn instructions Instruction.idsAfter origin.nodup_ids
      fun _ distinct i _ => Instruction.nodup_idsAfter distinct i
  · obtain ⟨source, found, output⟩ := sound.sourced n hn s hs c hc
    obtain ⟨there, same⟩ := node?_eq_some_iff.mp found
    exact ⟨source, there, same, output⟩

end Graph

end AgentWorkflow
