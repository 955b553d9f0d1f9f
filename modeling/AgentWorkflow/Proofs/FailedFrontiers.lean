import AgentWorkflow.Proofs.HistoricalViews
import AgentWorkflow.Proofs.Ranking

/-!
# Where a failed run has stopped

A runtime executes the nodes of a graph one after the other, each of them after all that it
reads (`Graph.IsRunOrder`). There is such an order exactly if the graph has no circle
(`Graph.exists_isRunOrder_iff`). The output of every node that was executed is kept, and
none of the node at which the run failed. So that node is one that was not executed although
all that it reads was.

There can be others like it, whose turn had not come, and nothing tells them from it. They
are all marked as failed, except for those that read nothing: these are marked only if nothing
was executed at all (`Session.mem_failedFrontier`). So a run that fails at a node that reads
nothing, after others were executed, is not marked where it stopped, though it may be marked
elsewhere. Every other failed run is (`Session.failed_node_is_marked_iff`).
-/

namespace AgentWorkflow

namespace Graph

variable {g : Graph} {order : List String} {target source id : String}

/-! ## Orders in which the nodes can be executed -/

/-- **An order in which the nodes can be executed**: each of them once, and after all that it
reads. -/
structure IsRunOrder (g : Graph) (order : List String) : Prop where
  /-- The nodes are those of the graph. -/
  nodes : order.Perm g.ids
  /-- What a node reads comes before it. -/
  after : ∀ {target source : String}, g.Reads target source →
    order.idxOf source < order.idxOf target

/-- **Whether the nodes can be executed in an order** can be seen from the edges. -/
theorem isRunOrder_iff : g.IsRunOrder order
    ↔ order.Perm g.ids ∧ ∀ e ∈ g.edges, g.contains e.sourceNode = true →
      order.idxOf e.sourceNode < order.idxOf e.targetNode := by
  constructor
  · rintro ⟨nodes, after⟩
    exact ⟨nodes, fun e he known => after ⟨⟨e, he, rfl, rfl⟩, known⟩⟩
  · rintro ⟨nodes, after⟩
    refine ⟨nodes, ?_⟩
    rintro _ _ ⟨⟨e, he, rfl, rfl⟩, known⟩
    exact after e he known

instance (g : Graph) (order : List String) : Decidable (g.IsRunOrder order) :=
  decidable_of_iff _ isRunOrder_iff.symm

namespace IsRunOrder

theorem nodup (runs : g.IsRunOrder order) : order.Nodup := runs.nodes.nodup_iff.mpr g.distinct

/-- **What a node reads is executed** when its turn comes. -/
theorem mem_take (runs : g.IsRunOrder order) {k : Nat} (turn : k < order.length)
    (reads : g.Reads order[k] source) : source ∈ order.take k := by
  have there : source ∈ order := runs.nodes.mem_iff.mpr (List.contains_iff_mem.mp reads.known)
  rw [List.mem_take_iff_idxOf_lt there]
  have earlier := runs.after reads
  rwa [runs.nodup.idxOf_getElem] at earlier

theorem notMem_take (runs : g.IsRunOrder order) {k : Nat} (turn : k < order.length) :
    order[k] ∉ order.take k := by
  rw [List.mem_take_iff_idxOf_lt (List.getElem_mem turn), runs.nodup.idxOf_getElem]
  exact lt_irrefl k

/-- Whatever a node reads, directly or through others, comes before it. -/
theorem lt_of_transGen (runs : g.IsRunOrder order)
    (leads : Relation.TransGen g.Reads target source) :
    order.idxOf source < order.idxOf target := by
  induction leads with
  | single reads => exact runs.after reads
  | tail _ reads ih => exact (runs.after reads).trans ih

end IsRunOrder

/-- **Nodes that are ranked** can be executed in the order of their ranks. -/
theorem IsRanking.isRunOrder {rank : String → Nat} (ranking : g.IsRanking rank) :
    g.IsRunOrder (g.ids.mergeSort fun a b => decide (rank a ≤ rank b)) := by
  have nodes := List.mergeSort_perm g.ids fun a b => decide (rank a ≤ rank b)
  have sorted : (g.ids.mergeSort fun a b => decide (rank a ≤ rank b)).Pairwise
      fun a b => decide (rank a ≤ rank b) = true := by
    refine List.pairwise_mergeSort (fun a b c => ?_) (fun a b => ?_) g.ids
    · simp only [decide_eq_true_eq]
      exact le_trans
    · simp only [Bool.or_eq_true, decide_eq_true_eq]
      exact le_total _ _
  refine ⟨nodes, fun {target source} reads => ?_⟩
  generalize g.ids.mergeSort _ = order at nodes sorted
  have ofKnown : ∀ {id}, g.contains id = true → order.idxOf id < order.length := fun known =>
    List.idxOf_lt_length_of_mem (nodes.mem_iff.mpr (List.contains_iff_mem.mp known))
  have here := ofKnown reads.target_known
  have there := ofKnown reads.known
  have lower := ranking.lower reads
  by_contra late
  rcases Nat.eq_or_lt_of_le (Nat.le_of_not_lt late) with same | behind
  · -- the node would read itself
    have itself : target = source := by
      rw [← List.getElem_idxOf here, ← List.getElem_idxOf there]
      simp only [same]
    exact absurd (itself ▸ lower) (lt_irrefl _)
  · have ordered := List.pairwise_iff_getElem.mp sorted _ _ here there behind
    rw [List.getElem_idxOf, List.getElem_idxOf, decide_eq_true_eq] at ordered
    omega

/-- **The nodes can be executed in some order** exactly if the graph has no circle. -/
theorem exists_isRunOrder_iff (g : Graph) :
    (∃ order, g.IsRunOrder order) ↔ ¬∃ id, Relation.TransGen g.Reads id id := by
  constructor
  · rintro ⟨order, runs⟩ ⟨id, leads⟩
    exact lt_irrefl _ (runs.lt_of_transGen leads)
  · intro noCircle
    obtain ⟨rank, -, ranking⟩ | ⟨circle, -, isCircle⟩ := g.ranks_cases
    · exact ⟨_, ranking.isRunOrder⟩
    · exact absurd isCircle.transGen noCircle

/-- **In a sound graph a node reads all its predecessors**: none of them is missing. -/
theorem Sound.reads_iff (sound : g.Sound) {n : Node} (found : g.node? id = some n) :
    g.Reads id source ↔ source ∈ n.predecessors := by
  rw [reads_iff_of_node? found]
  refine and_iff_left_of_imp fun read => ?_
  obtain ⟨c, wired, rfl⟩ := Node.mem_predecessors.mp read
  obtain ⟨s, hs, hc⟩ := List.mem_flatMap.mp wired
  obtain ⟨m, there, -⟩ := sound.sourced n (node?_eq_some_iff.mp found).1 s hs c hc
  obtain ⟨hm, same⟩ := node?_eq_some_iff.mp there
  exact contains_iff.mpr ⟨m, hm, same⟩

/-- Marking nodes of the graph as failed changes **the status of these nodes**, and of no
others. -/
theorem map_status_fail {frontier : List String}
    (known : ∀ id ∈ frontier, ∃ n, g.node? id = some n) (id : String) :
    ((g.mapNodes fun n => if frontier.contains n.id then n.setStatus .failed none else n).node?
        id).map Node.status
      = if id ∈ frontier then some .failed else (g.node? id).map Node.status := by
  rw [node?_mapNodes]
  cases found : g.node? id with
  | none =>
    have apart : id ∉ frontier := fun there => by
      obtain ⟨n, found'⟩ := known id there
      cases found.symm.trans found'
    rw [if_neg apart]
    rfl
  | some n =>
    obtain ⟨-, rfl⟩ := node?_eq_some_iff.mp found
    by_cases there : n.id ∈ frontier
    · simp [there, Node.setStatus]
    · simp [there]

end Graph

namespace Session

variable {g : Graph} {snapshot : Snapshot} {id : String}

/-! ## The nodes that are marked -/

/-- The nodes that are marked are told as they are. -/
theorem marks_markFailedFrontier (s : Session) (snapshot : Snapshot) :
    (s.markFailedFrontier snapshot).value.2 = failedFrontier s.graph snapshot := by
  unfold markFailedFrontier
  split
  · next nowhere => exact nowhere.symm
  · rfl

/-- **What is marked**: the nodes that were not executed although all that they read was,
provided that they read something exactly if something was executed. -/
theorem mem_failedFrontier :
    id ∈ failedFrontier g snapshot
      ↔ ∃ n, g.node? id = some n ∧ id ∉ snapshot.executedIds
        ∧ (∀ source ∈ n.predecessors, source ∈ snapshot.executedIds)
        ∧ (n.predecessors = [] ↔ snapshot.executedIds = []) := by
  have stopped : ∀ n : Graph.Node,
      (!snapshot.executedIds.contains n.id
        && (if snapshot.executedIds.isEmpty then n.predecessors.isEmpty
          else !n.predecessors.isEmpty && n.predecessors.all snapshot.executedIds.contains)) = true
        ↔ n.id ∉ snapshot.executedIds
          ∧ (∀ source ∈ n.predecessors, source ∈ snapshot.executedIds)
          ∧ (n.predecessors = [] ↔ snapshot.executedIds = []) := by
    intro n
    rw [Bool.and_eq_true, Bool.not_eq_true', ← Bool.not_eq_true, List.contains_iff_mem]
    refine and_congr_right fun _ => ?_
    cases snapshot.executedIds with
    | nil => simp [List.eq_nil_iff_forall_not_mem]
    | cons first rest => simp [and_comm]
  unfold failedFrontier
  simp only [List.mem_map, List.mem_filter, stopped, Graph.node?_eq_some_iff]
  constructor
  · rintro ⟨n, ⟨hn, left⟩, rfl⟩
    exact ⟨n, ⟨hn, rfl⟩, left⟩
  · rintro ⟨n, ⟨hn, rfl⟩, left⟩
    exact ⟨n, ⟨hn, left⟩, rfl⟩

/-- **In a sound graph** the same can be said of what the nodes read. -/
theorem mem_failedFrontier_of_sound (sound : g.Sound) :
    id ∈ failedFrontier g snapshot
      ↔ id ∈ g.ids ∧ id ∉ snapshot.executedIds
        ∧ (∀ source, g.Reads id source → source ∈ snapshot.executedIds)
        ∧ ((∃ source, g.Reads id source) ↔ snapshot.executedIds ≠ []) := by
  rw [mem_failedFrontier]
  cases found : g.node? id with
  | none =>
    refine iff_of_false nofun fun ⟨there, _⟩ => ?_
    obtain ⟨n, hn, same⟩ := List.mem_map.mp there
    cases found.symm.trans (Graph.node?_eq_some_iff.mpr ⟨hn, same⟩)
  | some n =>
    obtain ⟨hn, same⟩ := Graph.node?_eq_some_iff.mp found
    have there : id ∈ g.ids := List.mem_map.mpr ⟨n, hn, same⟩
    have something : (∃ source, source ∈ n.predecessors) ↔ n.predecessors ≠ [] :=
      ⟨fun ⟨_, read⟩ => List.ne_nil_of_mem read, List.exists_mem_of_ne_nil _⟩
    simp only [Option.some.injEq, exists_eq_left', sound.reads_iff found, something, there,
      true_and, not_iff_not, ne_eq]

/-- **The node at which a run failed** is marked exactly if it was the first one or reads
something. -/
theorem getElem_mem_failedFrontier {order : List String} (sound : g.Sound)
    (runs : g.IsRunOrder order) {k : Nat} (turn : k < order.length)
    (executed : ∀ id, id ∈ snapshot.executedIds ↔ id ∈ order.take k) :
    order[k] ∈ failedFrontier g snapshot ↔ k = 0 ∨ ∃ source, g.Reads order[k] source := by
  have there : order[k] ∈ g.ids := runs.nodes.mem_iff.mp (List.getElem_mem turn)
  have left : order[k] ∉ snapshot.executedIds := fun ran =>
    runs.notMem_take turn ((executed _).mp ran)
  have read : ∀ source, g.Reads order[k] source → source ∈ snapshot.executedIds :=
    fun source reads => (executed source).mpr (runs.mem_take turn reads)
  have nothing : snapshot.executedIds = [] ↔ k = 0 := by
    rw [List.eq_nil_iff_forall_not_mem, forall_congr' fun id => not_congr (executed id),
      ← List.eq_nil_iff_forall_not_mem, List.take_eq_nil_iff]
    exact or_iff_left (List.ne_nil_of_length_pos (Nat.zero_lt_of_lt turn))
  rw [mem_failedFrontier_of_sound sound, ne_eq, nothing]
  constructor
  · rintro ⟨-, -, -, marked⟩
    exact or_iff_not_imp_left.mpr marked.mpr
  · refine fun first => ⟨there, left, read, fun ⟨source, reads⟩ zero => ?_, first.resolve_left⟩
    have ran := read source reads
    rw [nothing.mpr zero] at ran
    cases ran

/-- **A failed run is marked where it stopped**, unless it stopped at a node that reads
nothing, and not at the first one. Take a session that shows a graph that was built, an order
in which its nodes can be executed, and a snapshot with outputs of the first nodes in that
order; the run failed at the next one. That node is marked exactly if it is the first one in
the order or reads something. All nodes that are marked were not executed although all that
they read was. They become failed, and everything else stays as it is. -/
theorem failed_node_is_marked_iff (registry : Registry) (definition : Definition) (s : Session)
    (shows : s.graph.silent = (Graph.build registry definition).graph.silent)
    {order : List String} (runs : (Graph.build registry definition).graph.IsRunOrder order)
    {k : Nat} (turn : k < order.length) {snapshot : Snapshot}
    (executed : ∀ id, id ∈ snapshot.executedIds ↔ id ∈ order.take k) :
    let g := (Graph.build registry definition).graph
    let marked := (s.markFailedFrontier snapshot).value
    (order[k] ∈ marked.2 ↔ k = 0 ∨ ∃ source, g.Reads order[k] source)
      ∧ (∀ id ∈ marked.2, ∃ n, s.graph.node? id = some n ∧ id ∉ snapshot.executedIds
        ∧ ∀ source ∈ n.predecessors, source ∈ snapshot.executedIds)
      ∧ marked.1 = { s with graph := s.graph.mapNodes fun n =>
            if marked.2.contains n.id then n.setStatus .failed none else n }
      ∧ ∀ id, (marked.1.graph.node? id).map Graph.Node.status
        = if id ∈ marked.2 then some .failed else (s.graph.node? id).map Graph.Node.status := by
  intro g marked
  have told : marked.2 = failedFrontier s.graph snapshot := marks_markFailedFrontier s snapshot
  have sameNodes : failedFrontier s.graph snapshot = failedFrontier g snapshot := by
    rw [← failedFrontier_silent s.graph, shows, failedFrontier_silent]
  have after : marked.1 = { s with
      graph := s.graph.mapNodes fun n =>
        if marked.2.contains n.id then n.setStatus .failed none else n } := by
    rw [told]
    exact value_markFailedFrontier s snapshot
  refine ⟨?_, fun id there => ?_, after, fun id => ?_⟩
  · rw [told, sameNodes]
    exact getElem_mem_failedFrontier (Graph.Sound.build registry definition) runs turn executed
  · rw [told] at there
    obtain ⟨n, found, left, read, -⟩ := mem_failedFrontier.mp there
    exact ⟨n, found, left, read⟩
  · rw [after]
    refine Graph.map_status_fail (fun other there => ?_) id
    rw [told] at there
    obtain ⟨n, found, -⟩ := mem_failedFrontier.mp there
    exact ⟨n, found⟩

/-- An output that reads the input, and a prompt that nothing reads. -/
def promptBeside : Definition :=
  ⟨[{ id := "in", nodeType := "InputNode" },
    { id := "out", nodeType := "OutputNode"
      inputs := [{ name := "final_output", connection := some ⟨"in", "user_text"⟩ }] },
    { id := "prompt", nodeType := "SystemPromptNode" }]⟩

/-- A session that shows the graph of the output and the prompt. -/
def besideShown : Session :=
  { gateType := "GateNode", graph := (Graph.build .withBuiltins promptBeside).graph }

/-- The run fails at the output, after the two nodes that read nothing. -/
theorem failed_node_is_marked_iff_at_output :
    let g := (Graph.build .withBuiltins promptBeside).graph
    let order := ["in", "prompt", "out"]
    let snapshot : Snapshot := { nodeOutputs := [("in", .null), ("prompt", .null)] }
    let marked := (besideShown.markFailedFrontier snapshot).value
    besideShown.graph.silent = g.silent
      ∧ g.IsRunOrder order
      ∧ (∀ id, id ∈ snapshot.executedIds ↔ id ∈ order.take 2)
      ∧ marked.2 = ["out"]
      ∧ (order[2] ∈ marked.2 ↔ 2 = 0 ∨ ∃ source, g.Reads order[2] source)
      ∧ ∀ id, (marked.1.graph.node? id).map Graph.Node.status
        = if id ∈ marked.2 then some .failed
          else (besideShown.graph.node? id).map Graph.Node.status := by
  intro g order snapshot marked
  have runs : g.IsRunOrder order := by decide +kernel
  have executed : ∀ id, id ∈ snapshot.executedIds ↔ id ∈ order.take 2 := fun _ => Iff.rfl
  obtain ⟨found, -, -, status⟩ :=
    failed_node_is_marked_iff .withBuiltins promptBeside besideShown rfl runs (by decide) executed
  exact ⟨rfl, runs, executed, by decide +kernel, found, status⟩

/-- **The prompt at which the run fails is not marked**, nor is anything else. -/
theorem failed_prompt_is_not_marked :
    let g := (Graph.build .withBuiltins promptBeside).graph
    let order := ["in", "out", "prompt"]
    let snapshot : Snapshot := { nodeOutputs := [("in", .null), ("out", .null)] }
    let marked := (besideShown.markFailedFrontier snapshot).value
    besideShown.graph = g
      ∧ g.IsRunOrder order
      ∧ snapshot.executedIds = order.take 2
      ∧ marked.2 = []
      ∧ order[2] ∉ marked.2 :=
  ⟨rfl, by decide +kernel, rfl, by decide +kernel, by decide +kernel⟩

end Session

end AgentWorkflow
