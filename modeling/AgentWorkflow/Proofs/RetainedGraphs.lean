import AgentWorkflow.Proofs.Marks
import AgentWorkflow.Proofs.PropertyOrder
import AgentWorkflow.Proofs.SilentGraphs

/-!
# What a session leaves of the graph it shows

A session that shows a graph puts marks on its nodes and outputs beside their
properties, and takes them off again. Everything else about the graph is what the
definition made it: the nodes, their slots, the wires, and what is written about
each node (`Graph.Retains`). The order in which properties are written is not
among it, since an output that is taken out leaves its place to the last property.

Which graph is shown changes in three ways only. Another definition is loaded,
everything is forgotten, or the operator edits. No other operation changes the name
of what is shown either (`Session.perform_retains`).
-/

namespace AgentWorkflow

namespace Graph

/-- **The node retains what another one has**: its slots and wires, and what is written
about it. It has no key twice unless the other one does. -/
structure Node.Retains (n made : Node) : Prop where
  /-- Type, slots and wires are the same. -/
  silent : n.silent = made.silent
  /-- The same properties are written, in whatever order. -/
  authored : n.persisted.Perm made.persisted
  /-- A key that is there twice was there twice. -/
  distinct : made.properties.keys.Nodup → n.properties.keys.Nodup

/-- **The graph retains what another one has**: the same nodes, in the same order and wired
in the same way, each of them with what was written about it. -/
structure Retains (g made : Graph) : Prop where
  /-- Nodes, slots and wires are the same. -/
  silent : g.silent = made.silent
  /-- Every node retains what some node has. -/
  nodes : ∀ n ∈ g.nodes, ∃ m ∈ made.nodes, n.Retains m

namespace Node.Retains

variable {n m k : Node}

theorem refl (n : Node) : n.Retains n := ⟨rfl, .refl _, fun apart => apart⟩

theorem trans (first : n.Retains m) (second : m.Retains k) : n.Retains k where
  silent := first.silent.trans second.silent
  authored := first.authored.trans second.authored
  distinct := fun apart => first.distinct (second.distinct apart)

theorem mark (n : Node) (status : NodeStatus) : Node.Retains { n with status } n :=
  ⟨rfl, .refl _, fun apart => apart⟩

/-- **What a run says about a node** is beside what was written about it. -/
theorem setStatus (n : Node) (status : NodeStatus) (output : Option Json) :
    (n.setStatus status output).Retains n where
  silent := rfl
  authored := by
    cases output with
    | none => exact Fields.authored_swapRemove_output_perm n.properties
    | some value => exact .of_eq (Fields.authored_set_output n.properties value)
  distinct := fun apart => nodup_keys_setStatus apart status output

end Node.Retains

namespace Retains

variable {f g h : Graph} {change : Node → Node}

theorem refl (g : Graph) : g.Retains g := ⟨rfl, fun n hn => ⟨n, hn, .refl n⟩⟩

theorem trans (first : f.Retains g) (second : g.Retains h) : f.Retains h where
  silent := first.silent.trans second.silent
  nodes := fun n hn => by
    obtain ⟨m, hm, same⟩ := first.nodes n hn
    obtain ⟨k, hk, same'⟩ := second.nodes m hm
    exact ⟨k, hk, same.trans same'⟩

theorem mapNodes (retains : ∀ n, (change n).Retains n) (g : Graph) :
    (g.mapNodes change).Retains g where
  silent := silent_mapNodes (fun n => (retains n).silent) g
  nodes := forall_mem_mapNodes.mpr fun n hn => by
    obtain ⟨silent, authored, distinct⟩ := retains n
    have id : (change n).id = n.id := (congrArg Node.id silent :)
    refine ⟨n, hn, ?_, authored, distinct⟩
    rw [← id]
    exact silent

theorem updateNode (retains : ∀ n, (change n).Retains n) (g : Graph) (id : String) :
    (g.updateNode id change).Retains g := by
  refine mapNodes (fun n => ?_) g
  split
  · exact retains n
  · exact .refl n

theorem applyLayout (g : Graph) (layout : Layout) : (g.applyLayout layout).Retains g := by
  refine mapNodes (fun n => ?_) g
  exact ⟨rfl, .refl _, fun apart => apart⟩

theorem ids_eq (retains : g.Retains h) : g.ids = h.ids := by
  rw [← ids_silent g, retains.silent, ids_silent]

theorem edges_eq (retains : g.Retains h) : g.edges = h.edges := by
  rw [← edges_silent g, retains.silent, edges_silent]

theorem distinctKeys (retains : g.Retains h) (apart : h.DistinctKeys) : g.DistinctKeys :=
  fun n hn => by
    obtain ⟨m, hm, same⟩ := retains.nodes n hn
    exact same.distinct (apart m hm)

end Retains

end Graph

namespace Session

variable {op : Operation}

/-! ## Marks -/

theorem retains_recordAll (g : Graph) (outputs : Fields) : (recordAll g outputs).Retains g := by
  induction outputs generalizing g with
  | nil => exact .refl g
  | cons output outputs ih =>
    exact (ih _).trans (.updateNode (fun n => .setStatus n .executed (some output.2)) g output.1)

theorem retains_markExecuted (s : Session) (snapshot : Snapshot) :
    (s.markExecuted snapshot).graph.Retains s.graph := by
  have reset : s.graph.resetStatuses.Retains s.graph :=
    .mapNodes (fun n => .setStatus n .plain none) s.graph
  have ran : (recordAll s.graph.resetStatuses snapshot.nodeOutputs).Retains s.graph :=
    (retains_recordAll _ _).trans reset
  unfold markExecuted
  cases s.approvals.outstanding with
  | none => exact ran
  | some r => exact (Graph.Retains.updateNode (fun n => .mark n .gated) _ r.nodeId).trans ran

theorem retains_marked (s : Session) (requestId : String) (snapshot : Snapshot) :
    (s.marked requestId snapshot).graph.Retains s.graph := by
  show (s.markedGraph requestId snapshot).Retains s.graph
  unfold markedGraph
  split
  · exact .refl s.graph
  · exact s.retains_markExecuted snapshot

theorem retains_freedGraph (s : Session) : s.freedGraph.Retains s.graph := by
  unfold freedGraph
  split
  · exact .refl s.graph
  · refine .updateNode (fun n => ?_) s.graph _
    split
    · exact .mark n _
    · exact .refl n

theorem retains_detectGate (s : Session) (requestId : String) (snapshot : Snapshot) :
    (s.detectGate requestId snapshot).value.1.definitionName = s.definitionName
      ∧ (s.detectGate requestId snapshot).value.1.graph.Retains s.graph := by
  rcases s.value_detectGate requestId snapshot with passed | waits | ⟨r, raised⟩
  · rw [passed]
    exact ⟨rfl, s.retains_freedGraph⟩
  · rw [waits]
    exact ⟨rfl, .refl s.graph⟩
  · rw [raised]
    refine ⟨rfl, Graph.Retains.trans ?_ s.retains_freedGraph⟩
    exact .updateNode (fun n => .mark n .gated) s.freedGraph r.nodeId

/-- Taking a snapshot over changes nothing but marks and outputs. -/
theorem retains_applySnapshot (s : Session) (ticket : FetchTicket) (requestId : String)
    (snapshot : Snapshot) :
    (s.applySnapshot ticket requestId snapshot).value.1.definitionName = s.definitionName
      ∧ (s.applySnapshot ticket requestId snapshot).value.1.graph.Retains s.graph := by
  by_cases stale : ticket ≠ s.beginFetch ∨ s.state = .idle
  · rw [applySnapshot_of_stale stale]
    exact ⟨rfl, .refl s.graph⟩
  have marked := s.retains_marked requestId snapshot
  cases mode : s.mode with
  | live =>
    rw [applySnapshot_of_live stale mode]
    obtain ⟨name, retains⟩ := (s.marked requestId snapshot).retains_detectGate requestId snapshot
    exact ⟨name, retains.trans marked⟩
  | historical runId =>
    rw [applySnapshot_of_historical stale mode]
    exact ⟨rfl, marked⟩

theorem retains_markFailedFrontier (s : Session) (snapshot : Snapshot) :
    (s.markFailedFrontier snapshot).value.1.definitionName = s.definitionName
      ∧ (s.markFailedFrontier snapshot).value.1.graph.Retains s.graph := by
  unfold markFailedFrontier
  split
  · exact ⟨rfl, .refl s.graph⟩
  · refine ⟨rfl, .mapNodes (fun n => ?_) s.graph⟩
    split
    · exact .setStatus n .failed none
    · exact .refl n

/-! ## Operations -/

/-- **The operation changes which graph is shown.** -/
def Operation.replacesGraph : Operation → Bool
  | .loadDefinition .. | .dispose | .editGraph _ => true
  | _ => false

/-- **An operation that does not replace the graph retains it**, and the name it is shown
under. -/
theorem perform_retains (s : Session) (kept : op.replacesGraph = false) :
    (s.perform op).value.definitionName = s.definitionName
      ∧ (s.perform op).value.graph.Retains s.graph := by
  cases op with
  | loadDefinition name report => cases kept
  | dispose => cases kept
  | editGraph change => cases kept
  | startPolling =>
    unfold perform startPolling
    rw [value_transition]
    exact ⟨rfl, .refl s.graph⟩
  | stopPolling =>
    unfold perform stopPolling
    rw [value_transition]
    exact ⟨rfl, .refl s.graph⟩
  | loadHistorical runId =>
    unfold perform
    rw [value_loadHistorical]
    exact ⟨rfl, .refl s.graph⟩
  | applySnapshot ticket requestId snapshot =>
    rw [perform, Publishing.value_map]
    exact s.retains_applySnapshot ticket requestId snapshot
  | markFailedFrontier snapshot =>
    rw [perform, Publishing.value_map]
    exact s.retains_markFailedFrontier snapshot
  | completeApproval requestId approved =>
    rcases s.approvals.waits_or_absent requestId with ⟨r, waiting, rfl⟩ | absent
    · rw [perform_completeApproval_of_waiting approved waiting, graph_answered waiting]
      exact ⟨rfl, s.retains_freedGraph⟩
    · rw [perform_completeApproval_of_absent approved absent]
      exact ⟨rfl, .refl s.graph⟩
  | clearInstance =>
    cases watched : s.requestId with
    | none =>
      unfold perform clearInstance
      rw [watched]
      exact ⟨rfl, .refl s.graph⟩
    | some requestId =>
      unfold perform
      rw [clearInstance_of_watched watched]
      exact ⟨rfl, s.retains_freedGraph⟩

end Session

end AgentWorkflow
