import AgentWorkflow.Proofs.ReadingBack
import AgentWorkflow.Proofs.SessionRuns

/-!
# What marks do to the nodes of a graph

A session marks nodes in three ways. It marks all of them anew after a snapshot,
it puts the mark of a gate on one, and it takes that mark off again. This module
says what each of them does, node by node, and nothing about when it happens.

**Statuses and outputs.** What a node shows has two halves, its status and the
output that is kept for it. They are stated apart (`Graph.ShowsStatuses`,
`Graph.ShowsOutputs`), because only the second one needs that no node has two
properties of one key (`Graph.DistinctKeys`): an output is kept as a property, and
taking a key out takes it out once. A gate that is passed is marked after the
output it keeps, so from then on the first half depends on the second.
-/

namespace AgentWorkflow

namespace Graph

variable {g : Graph} {id : String} {change : Node → Node}

/-! ## Changing nodes -/

theorem forall_mem_mapNodes {P : Node → Prop} :
    (∀ n ∈ (g.mapNodes change).nodes, P n) ↔ ∀ n ∈ g.nodes, P { change n with id := n.id } :=
  List.forall_mem_map

/-- **A node after one was changed** is the changed one, or another one that stays
as it was. -/
theorem mem_updateNode {n : Node} :
    n ∈ (g.updateNode id change).nodes
      ↔ (∃ m ∈ g.nodes, m.id = id ∧ { change m with id := m.id } = n)
        ∨ n ∈ g.nodes ∧ n.id ≠ id := by
  constructor
  · intro hn
    obtain ⟨m, hm, rfl⟩ := List.mem_map.mp hn
    by_cases here : m.id = id
    · refine Or.inl ⟨m, hm, here, ?_⟩
      dsimp only
      rw [if_pos here]
    · refine Or.inr ?_
      dsimp only
      rw [if_neg here]
      exact ⟨hm, here⟩
  · rintro (⟨m, hm, here, rfl⟩ | ⟨hm, other⟩)
    · refine List.mem_map.mpr ⟨m, hm, ?_⟩
      dsimp only
      rw [if_pos here]
    · refine List.mem_map.mpr ⟨n, hm, ?_⟩
      dsimp only
      rw [if_neg other]

theorem forall_mem_updateNode {P : Node → Prop}
    (changed : ∀ m ∈ g.nodes, m.id = id → P { change m with id := m.id })
    (stays : ∀ m ∈ g.nodes, m.id ≠ id → P m) : ∀ n ∈ (g.updateNode id change).nodes, P n := by
  intro n hn
  rcases mem_updateNode.mp hn with ⟨m, hm, here, rfl⟩ | ⟨hm, other⟩
  · exact changed m hm here
  · exact stays n hm other

/-! ## What nodes show -/

/-- **The node of an id is marked as a gate** that waits. -/
def Gated (g : Graph) (id : String) : Prop := ∃ n ∈ g.nodes, n.id = id ∧ n.status = .gated

/-- **The statuses tell** which node waits, and which of the others have run. -/
def ShowsStatuses (g : Graph) (waiting : Option String) (ran : List String) : Prop :=
  ∀ n ∈ g.nodes, n.status
    = if waiting = some n.id then .gated else if n.id ∈ ran then .executed else .plain

/-- **Outputs are kept** for the nodes that have run, and for no others. -/
def ShowsOutputs (g : Graph) (ran : List String) : Prop :=
  ∀ n ∈ g.nodes, n.lastOutput?.isSome = true ↔ n.id ∈ ran

/-- **No node has two properties of one key.** -/
def DistinctKeys (g : Graph) : Prop := ∀ n ∈ g.nodes, n.properties.keys.Nodup

variable {waiting : Option String} {ran ran' : List String}

/-- Where no node waits, the statuses tell which have run. -/
theorem showsStatuses_none_iff :
    g.ShowsStatuses none ran
      ↔ ∀ n ∈ g.nodes, n.status = if n.id ∈ ran then .executed else .plain := by
  simp only [ShowsStatuses, reduceCtorEq, if_false]

/-- The statuses tell which node is marked as a gate. -/
theorem ShowsStatuses.waits_of_gated (h : g.ShowsStatuses waiting ran) (gated : g.Gated id) :
    waiting = some id := by
  obtain ⟨n, hn, rfl, status⟩ := gated
  refine Classical.byContradiction fun other => ?_
  rw [h n hn, if_neg other] at status
  split at status <;> cases status

/-- Which nodes have run is a matter of their ids, in any order. -/
theorem ShowsStatuses.congr (h : g.ShowsStatuses waiting ran)
    (same : ∀ id, id ∈ ran ↔ id ∈ ran') : g.ShowsStatuses waiting ran' := by
  intro n hn
  rw [h n hn]
  simp only [same]

theorem ShowsOutputs.congr (h : g.ShowsOutputs ran) (same : ∀ id, id ∈ ran ↔ id ∈ ran') :
    g.ShowsOutputs ran' :=
  fun n hn => (h n hn).trans (same n.id)

theorem ShowsOutputs.updateNode (h : g.ShowsOutputs ran) (id : String)
    (keeps : ∀ n, (change n).properties = n.properties) :
    (g.updateNode id change).ShowsOutputs ran := by
  refine forall_mem_updateNode (fun m hm _ => ?_) fun m hm _ => h m hm
  show ((change m).properties.get? Node.lastOutputKey).isSome = true ↔ m.id ∈ ran
  rw [keeps]
  exact h m hm

theorem DistinctKeys.updateNode (h : g.DistinctKeys) (id : String)
    (keeps : ∀ n, n.properties.keys.Nodup → (change n).properties.keys.Nodup) :
    (g.updateNode id change).DistinctKeys :=
  forall_mem_updateNode (fun m hm _ => keeps m (h m hm)) fun m hm _ => h m hm

/-- A graph that was built has no key twice if its definition has none. -/
theorem distinctKeys_build (registry : Registry) {definition : Definition}
    (distinct : ∀ d ∈ definition.nodes, d.properties.keys.Nodup) :
    (build registry definition).graph.DistinctKeys := by
  intro n hn
  obtain ⟨d, hd, said⟩ := properties_of_mem_build hn
  rw [said]
  exact (distinct d hd).sublist (List.filter_sublist.map Prod.fst)

/-! ## Putting the mark of a gate on -/

theorem eq_or_gated_of_gated_gate {other : String}
    (h : (g.updateNode id fun n => { n with status := .gated }).Gated other) :
    other = id ∨ g.Gated other := by
  obtain ⟨n, hn, rfl, status⟩ := h
  rcases mem_updateNode.mp hn with ⟨m, hm, here, rfl⟩ | ⟨hm, -⟩
  · exact Or.inl here
  · exact Or.inr ⟨n, hm, rfl, status⟩

theorem ShowsStatuses.gate (h : g.ShowsStatuses none ran) (id : String) :
    (g.updateNode id fun n => { n with status := .gated }).ShowsStatuses (some id) ran := by
  refine forall_mem_updateNode (fun m _ here => ?_) fun m hm other => ?_
  · rw [if_pos (congrArg some here.symm)]
  · have other : some id ≠ some m.id := fun same => other (Option.some.inj same).symm
    rw [if_neg other]
    exact showsStatuses_none_iff.mp h m hm

end Graph

/-! ## Marking a node as run -/

namespace Graph.Node

variable {n : Node}

theorem lastOutput?_setStatus_some (n : Node) (status : NodeStatus) (value : Json) :
    (n.setStatus status (some value)).lastOutput? = some value :=
  Fields.get?_set_self ..

theorem lastOutput?_setStatus_none (distinct : n.properties.keys.Nodup) (status : NodeStatus) :
    (n.setStatus status none).lastOutput? = none :=
  Fields.get?_eq_none_iff.mpr (Fields.notMem_keys_swapRemove distinct lastOutputKey)

end Graph.Node

namespace Session

variable {s : Session} {nodeId id : String} {ran : List String}

/-! ## Taking the mark of a gate off -/

/-- **The mark is taken off** the one node, and stays on all others. -/
theorem gated_ungate_iff :
    (s.ungate nodeId).graph.Gated id ↔ s.graph.Gated id ∧ id ≠ nodeId := by
  constructor
  · rintro ⟨n, hn, rfl, status⟩
    rcases Graph.mem_updateNode.mp hn with ⟨m, hm, here, rfl⟩ | ⟨hm, other⟩
    · dsimp only at status
      split at status
      · split at status <;> cases status
      · next plain => exact absurd status plain
    · exact ⟨⟨n, hm, rfl, status⟩, other⟩
  · rintro ⟨⟨n, hn, rfl, status⟩, other⟩
    exact ⟨n, Graph.mem_updateNode.mpr (Or.inr ⟨hn, other⟩), rfl, status⟩

theorem gated_freedGraph_iff :
    s.freedGraph.Gated id
      ↔ s.graph.Gated id ∧ s.approvals.outstanding.map ApprovalRequest.nodeId ≠ some id := by
  unfold freedGraph
  cases s.approvals.outstanding with
  | none => simp
  | some r => rw [gated_ungate_iff, Option.map_some, Ne, Ne, Option.some.injEq, eq_comm]

/-- A node that is freed shows what it would show if it had never waited. -/
theorem showsStatuses_ungate (statuses : s.graph.ShowsStatuses (some nodeId) ran)
    (outputs : s.graph.ShowsOutputs ran) : (s.ungate nodeId).graph.ShowsStatuses none ran := by
  refine Graph.showsStatuses_none_iff.mpr
    (Graph.forall_mem_updateNode (fun m hm here => ?_) fun m hm other => ?_)
  · have status : m.status = .gated :=
      (statuses m hm).trans (if_pos (congrArg some here.symm))
    rw [if_pos status]
    show (if m.lastOutput?.isSome then NodeStatus.executed else .plain) = _
    simp only [outputs m hm]
  · have other : some nodeId ≠ some m.id := fun same => other (Option.some.inj same).symm
    rw [statuses m hm, if_neg other]

theorem showsOutputs_ungate (outputs : s.graph.ShowsOutputs ran) (nodeId : String) :
    (s.ungate nodeId).graph.ShowsOutputs ran := by
  refine outputs.updateNode nodeId fun n => ?_
  split <;> rfl

theorem distinctKeys_ungate (distinct : s.graph.DistinctKeys) (nodeId : String) :
    (s.ungate nodeId).graph.DistinctKeys := by
  refine distinct.updateNode nodeId fun n h => ?_
  split <;> exact h

/-- After the gate that waited was freed, none is marked. -/
theorem showsStatuses_freedGraph
    (statuses : s.graph.ShowsStatuses (s.approvals.outstanding.map ApprovalRequest.nodeId) ran)
    (outputs : s.graph.ShowsOutputs ran) : s.freedGraph.ShowsStatuses none ran := by
  unfold freedGraph
  cases waiting : s.approvals.outstanding with
  | none => simpa only [waiting, Option.map_none] using statuses
  | some r =>
    rw [waiting] at statuses
    exact showsStatuses_ungate statuses outputs

theorem showsOutputs_freedGraph (outputs : s.graph.ShowsOutputs ran) :
    s.freedGraph.ShowsOutputs ran := by
  unfold freedGraph
  split
  · exact outputs
  · exact showsOutputs_ungate outputs _

theorem distinctKeys_freedGraph (distinct : s.graph.DistinctKeys) : s.freedGraph.DistinctKeys := by
  unfold freedGraph
  split
  · exact distinct
  · exact distinctKeys_ungate distinct _

/-! ## Marking all nodes anew -/

/-- The graph with outputs recorded at the nodes that have executed. -/
def recordAll (g : Graph) (outputs : Fields) : Graph :=
  outputs.foldl
    (fun g output => g.updateNode output.1 fun n => n.setStatus .executed (some output.2)) g

/-- **A node after outputs were recorded** has one of them, or is as it was. -/
theorem mem_recordAll {g : Graph} {outputs : Fields} {n : Graph.Node}
    (hn : n ∈ (recordAll g outputs).nodes) :
    (n.id ∈ outputs.keys ∧ n.status = .executed ∧ n.lastOutput?.isSome = true)
      ∨ (n.id ∉ outputs.keys ∧ n ∈ g.nodes) := by
  induction outputs generalizing g with
  | nil => exact Or.inr ⟨List.not_mem_nil, hn⟩
  | cons output outputs ih =>
    rcases ih hn with ⟨key, ran⟩ | ⟨notKey, before⟩
    · exact Or.inl ⟨List.mem_cons_of_mem _ key, ran⟩
    · rcases Graph.mem_updateNode.mp before with ⟨m, -, here, rfl⟩ | ⟨hm, other⟩
      · refine Or.inl ⟨List.mem_cons.mpr (Or.inl here), rfl, ?_⟩
        show (m.setStatus .executed (some output.2)).lastOutput?.isSome = true
        rw [Graph.Node.lastOutput?_setStatus_some]
        rfl
      · exact Or.inr ⟨List.not_mem_cons_of_ne_of_not_mem other notKey, hm⟩

theorem distinctKeys_recordAll {g : Graph} (distinct : g.DistinctKeys) (outputs : Fields) :
    (recordAll g outputs).DistinctKeys :=
  List.foldlRecOn (motive := Graph.DistinctKeys) outputs _ distinct fun _ h output _ =>
    h.updateNode output.1 fun _ nodup => Graph.Node.nodup_keys_setStatus nodup .executed _

theorem distinctKeys_resetStatuses {g : Graph} (distinct : g.DistinctKeys) :
    g.resetStatuses.DistinctKeys :=
  Graph.forall_mem_mapNodes.mpr fun n hn =>
    Graph.Node.nodup_keys_setStatus (distinct n hn) .plain none

variable {snapshot : Snapshot}

/-- **Marking nodes anew marks the gate that waits** and the nodes that ran. -/
theorem showsStatuses_markExecuted (s : Session) (snapshot : Snapshot) :
    (s.markExecuted snapshot).graph.ShowsStatuses
      (s.approvals.outstanding.map ApprovalRequest.nodeId) snapshot.executedIds := by
  have reset : ∀ n ∈ s.graph.resetStatuses.nodes, n.status = .plain :=
    Graph.forall_mem_mapNodes.mpr fun _ _ => rfl
  have ran : (recordAll s.graph.resetStatuses snapshot.nodeOutputs).ShowsStatuses none
      snapshot.executedIds := by
    refine Graph.showsStatuses_none_iff.mpr fun n hn => ?_
    rcases mem_recordAll hn with ⟨key, status, -⟩ | ⟨notKey, before⟩
    · exact status.trans (if_pos key).symm
    · exact (reset n before).trans (if_neg notKey).symm
  unfold markExecuted
  cases s.approvals.outstanding with
  | none => exact ran
  | some r => exact ran.gate r.nodeId

/-- **Marking nodes anew keeps the outputs** of the nodes that ran. -/
theorem showsOutputs_markExecuted (distinct : s.graph.DistinctKeys) (snapshot : Snapshot) :
    (s.markExecuted snapshot).graph.ShowsOutputs snapshot.executedIds := by
  have reset : ∀ n ∈ s.graph.resetStatuses.nodes, n.lastOutput? = none :=
    Graph.forall_mem_mapNodes.mpr fun n hn =>
      Graph.Node.lastOutput?_setStatus_none (distinct n hn) .plain
  have ran : (recordAll s.graph.resetStatuses snapshot.nodeOutputs).ShowsOutputs
      snapshot.executedIds := by
    intro n hn
    rcases mem_recordAll hn with ⟨key, -, kept⟩ | ⟨notKey, before⟩
    · exact iff_of_true kept key
    · rw [reset n before]
      exact iff_of_false nofun notKey
  unfold markExecuted
  cases s.approvals.outstanding with
  | none => exact ran
  | some r => exact ran.updateNode r.nodeId fun _ => rfl

theorem distinctKeys_markExecuted (distinct : s.graph.DistinctKeys) (snapshot : Snapshot) :
    (s.markExecuted snapshot).graph.DistinctKeys := by
  have marked := distinctKeys_recordAll (distinctKeys_resetStatuses distinct) snapshot.nodeOutputs
  unfold markExecuted
  cases s.approvals.outstanding with
  | none => exact marked
  | some r => exact marked.updateNode r.nodeId fun _ nodup => nodup

end Session

end AgentWorkflow
