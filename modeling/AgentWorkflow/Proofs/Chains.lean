import AgentWorkflow.Proofs.Wiring
import Mathlib.Data.List.Chain
import Mathlib.Logic.Relation
import Mathlib.Order.Bounds.Basic

/-!
# Chains of nodes

An edge may come from a node that is not there. Only the others count for a layout: a
node *reads* another one if both are in the graph and an edge leads from that one to it
(`Graph.Reads`). A chain that ends at a node is the node, one that it reads, one that
this one reads, and so on; its length is the number of links (`Graph.chainLengths`). If
it comes back to where it began it is a circle (`Graph.IsCircle`).

**Ranks.** Numbers rank the nodes of a graph if every node has the least number above
all that it reads (`Graph.IsRanking`). This speaks of one link at a time, and so can be
kept up by a search that looks at one link at a time. It determines the numbers all the
same: they are the lengths of the longest chains (`Graph.IsRanking.isGreatest`). A graph
whose nodes can be ranked has no circle (`Graph.IsRanking.not_transGen`).
-/

namespace AgentWorkflow

namespace Graph

/-- **A node reads another node of the graph**: an edge leads from that one to it. -/
structure Reads (g : Graph) (target source : String) : Prop where
  /-- An edge leads from the one to the other. -/
  edge : ∃ e ∈ g.edges, e.targetNode = target ∧ e.sourceNode = source
  /-- The node that is read is there. The other one is, since edges lead into nodes. -/
  known : g.contains source = true

/-- **The lengths of the chains that end at a node.** Such a chain is listed from its end:
every node in it reads the one after it. -/
def chainLengths (g : Graph) (id : String) : Set Nat :=
  {k | ∃ ids : List String, (id :: ids).IsChain g.Reads ∧ ids.length = k}

/-- **A circle**, as it is reported: every node reads the next one, and the last one is the
first one again. -/
structure IsCircle (g : Graph) (ids : List String) : Prop where
  /-- There is a link in it. -/
  long : 2 ≤ ids.length
  /-- It ends where it begins. -/
  closed : ids.head? = ids.getLast?
  /-- Apart from that no node is passed twice. -/
  distinct : ids.dropLast.Nodup
  /-- All of them are nodes of the graph. -/
  known : ∀ id ∈ ids, g.contains id = true
  /-- Every node reads the next one. -/
  reads : ids.IsChain g.Reads

/-- **Numbers rank the nodes** if each node has the least one above all that it reads. -/
structure IsRanking (g : Graph) (rank : String → Nat) : Prop where
  /-- What a node reads has a lower rank. -/
  lower : ∀ {target source : String}, g.Reads target source → rank source < rank target
  /-- The rank is not higher than it has to be. -/
  attained : ∀ {id : String}, g.contains id = true →
    rank id = 0 ∨ ∃ source, g.Reads id source ∧ rank id = rank source + 1

variable {g h : Graph} {rank : String → Nat} {id : String}

/-! ## What a node reads -/

/-- The nodes it reads are the sources of its wires, each once. -/
theorem Node.mem_predecessors {n : Node} {source : String} :
    source ∈ n.predecessors ↔ ∃ c ∈ n.sources, c.fromNode = source := by
  unfold predecessors
  suffices ∀ (cs : List Connection) (ids : List String),
      source ∈ cs.foldl
          (fun ids c => if ids.contains c.fromNode then ids else ids ++ [c.fromNode]) ids
        ↔ source ∈ ids ∨ ∃ c ∈ cs, c.fromNode = source by
    simpa using this n.sources []
  intro cs
  induction cs with
  | nil => simp
  | cons c cs ih =>
    intro ids
    rw [List.foldl_cons, ih, List.exists_mem_cons_iff, ← or_assoc]
    refine or_congr_left ?_
    split
    · next there =>
      have there : c.fromNode ∈ ids := List.contains_iff_mem.mp there
      exact ⟨Or.inl, fun h => h.elim (fun old => old) fun same => same ▸ there⟩
    · rw [List.mem_append, List.mem_singleton, eq_comm (a := source)]

theorem exists_edge_iff {target source : String} :
    (∃ e ∈ g.edges, e.targetNode = target ∧ e.sourceNode = source)
      ↔ ∃ n ∈ g.nodes, n.id = target ∧ source ∈ n.predecessors := by
  constructor
  · rintro ⟨e, he, rfl, rfl⟩
    obtain ⟨n, hn, here⟩ := List.mem_flatMap.mp he
    obtain ⟨s, hs, wired⟩ := List.mem_flatMap.mp here
    obtain ⟨c, hc, rfl⟩ := List.mem_map.mp wired
    exact ⟨n, hn, rfl, Node.mem_predecessors.mpr ⟨c, List.mem_flatMap.mpr ⟨s, hs, hc⟩, rfl⟩⟩
  · rintro ⟨n, hn, rfl, read⟩
    obtain ⟨c, wired, rfl⟩ := Node.mem_predecessors.mp read
    obtain ⟨s, hs, hc⟩ := List.mem_flatMap.mp wired
    refine ⟨Edge.ofConnection c n.id s.name, ?_, rfl, rfl⟩
    exact List.mem_flatMap.mpr
      ⟨n, hn, List.mem_flatMap.mpr ⟨s, hs, List.mem_map.mpr ⟨c, hc, rfl⟩⟩⟩

/-- **What a node reads** are those of its predecessors that are in the graph. -/
theorem reads_iff_of_node? {n : Node} (found : g.node? id = some n) {source : String} :
    g.Reads id source ↔ source ∈ n.predecessors ∧ g.contains source = true := by
  obtain ⟨hn, same⟩ := node?_eq_some_iff.mp found
  constructor
  · rintro ⟨edge, known⟩
    obtain ⟨m, hm, same', read⟩ := exists_edge_iff.mp edge
    obtain rfl : m = n := Option.some.inj
      ((node?_eq_some_iff.mpr ⟨hm, same'⟩).symm.trans found)
    exact ⟨read, known⟩
  · rintro ⟨read, known⟩
    exact ⟨exists_edge_iff.mpr ⟨n, hn, same, read⟩, known⟩

theorem Reads.target_known {target source : String} (reads : g.Reads target source) :
    g.contains target = true := by
  obtain ⟨n, hn, same, -⟩ := exists_edge_iff.mp reads.edge
  exact contains_iff.mpr ⟨n, hn, same⟩

/-- **The order of nodes, slots and wires does not matter** for what reads what. -/
theorem reads_congr (ids : ∀ id, id ∈ h.ids ↔ id ∈ g.ids) (edges : ∀ e, e ∈ h.edges ↔ e ∈ g.edges)
    {target source : String} : h.Reads target source ↔ g.Reads target source := by
  have known : h.contains source = true ↔ g.contains source = true := by
    unfold contains
    rw [List.contains_iff_mem, List.contains_iff_mem, ids]
  constructor
  · rintro ⟨⟨e, he, ends⟩, there⟩
    exact ⟨⟨e, (edges e).mp he, ends⟩, known.mp there⟩
  · rintro ⟨⟨e, he, ends⟩, there⟩
    exact ⟨⟨e, (edges e).mpr he, ends⟩, known.mpr there⟩

/-! ## Circles -/

/-- **Along a circle a node leads back to itself.** -/
theorem IsCircle.transGen {ids : List String} (circle : g.IsCircle ids) :
    ∃ id, Relation.TransGen g.Reads id id := by
  obtain ⟨long, closed, -, -, reads⟩ := circle
  match ids, long with
  | first :: second :: rest, _ =>
    have steps : (first :: second :: rest).IsChain (Relation.TransGen g.Reads) :=
      reads.imp fun _ _ => Relation.TransGen.single
    have last : first ∈ second :: rest := by
      rw [List.head?_cons, List.getLast?_cons_cons] at closed
      exact List.mem_of_getLast? closed.symm
    exact ⟨first, steps.rel_cons last⟩

/-! ## Rankings -/

/-- **Whether numbers rank the nodes** can be seen from the edges. -/
theorem isRanking_iff : g.IsRanking rank
    ↔ (∀ e ∈ g.edges, g.contains e.sourceNode = true → rank e.sourceNode < rank e.targetNode)
      ∧ ∀ id ∈ g.ids, rank id = 0 ∨ ∃ e ∈ g.edges, e.targetNode = id
        ∧ g.contains e.sourceNode = true ∧ rank id = rank e.sourceNode + 1 := by
  constructor
  · rintro ⟨lower, attained⟩
    refine ⟨fun e he known => lower ⟨⟨e, he, rfl, rfl⟩, known⟩, fun id there => ?_⟩
    refine (attained (List.contains_iff_mem.mpr there)).imp_right ?_
    rintro ⟨_, ⟨⟨e, he, rfl, rfl⟩, known⟩, above⟩
    exact ⟨e, he, rfl, known, above⟩
  · rintro ⟨lower, attained⟩
    constructor
    · rintro _ _ ⟨⟨e, he, rfl, rfl⟩, known⟩
      exact lower e he known
    · intro id there
      refine (attained id (List.contains_iff_mem.mp there)).imp_right ?_
      rintro ⟨e, he, rfl, known, above⟩
      exact ⟨e.sourceNode, ⟨⟨e, he, rfl, rfl⟩, known⟩, above⟩

instance (g : Graph) (rank : String → Nat) : Decidable (g.IsRanking rank) :=
  decidable_of_iff _ isRanking_iff.symm

namespace IsRanking

/-- Ranks fall along every chain. -/
theorem lt_of_transGen (ranking : g.IsRanking rank) {target source : String}
    (leads : Relation.TransGen g.Reads target source) : rank source < rank target := by
  induction leads with
  | single reads => exact ranking.lower reads
  | tail _ reads ih => exact (ranking.lower reads).trans ih

/-- **A graph whose nodes can be ranked has no circle.** -/
theorem not_transGen (ranking : g.IsRanking rank) : ¬∃ id, Relation.TransGen g.Reads id id :=
  fun ⟨_, leads⟩ => lt_irrefl _ (ranking.lt_of_transGen leads)

/-! ## Longest chains -/

/-- No chain is longer than the rank of its end. -/
theorem length_le (ranking : g.IsRanking rank) {ids : List String}
    (chain : (id :: ids).IsChain g.Reads) : ids.length ≤ rank id := by
  induction ids generalizing id with
  | nil => exact Nat.zero_le _
  | cons next ids ih =>
    obtain ⟨reads, rest⟩ := List.isChain_cons_cons.mp chain
    have lower := ranking.lower reads
    have shorter := ih rest
    rw [List.length_cons]
    omega

/-- Some chain is as long as the rank of its end. -/
theorem exists_chain (ranking : g.IsRanking rank) (known : g.contains id = true) :
    ∃ ids : List String, (id :: ids).IsChain g.Reads ∧ ids.length = rank id := by
  induction r : rank id generalizing id with
  | zero => exact ⟨[], List.isChain_singleton id, rfl⟩
  | succ k ih =>
    obtain lowest | ⟨source, reads, above⟩ := ranking.attained known
    · omega
    · obtain ⟨ids, chain, length⟩ := ih reads.known (by omega)
      exact ⟨source :: ids, List.isChain_cons_cons.mpr ⟨reads, chain⟩, by
        rw [List.length_cons, length]⟩

/-- Ranks have no gaps: below a node of some rank there are nodes of all lower ranks. -/
theorem exists_rank_eq (ranking : g.IsRanking rank) (known : g.contains id = true) {k : Nat}
    (le : k ≤ rank id) : ∃ other, g.contains other = true ∧ rank other = k := by
  induction r : rank id generalizing id with
  | zero => exact ⟨id, known, by omega⟩
  | succ r ih =>
    obtain here | lower := Nat.eq_or_lt_of_le le
    · exact ⟨id, known, here.symm⟩
    · obtain lowest | ⟨source, reads, above⟩ := ranking.attained known
      · omega
      · exact ih reads.known (by omega) (by omega)

/-- **The rank of a node is the length of the longest chain** that ends at it. -/
theorem isGreatest (ranking : g.IsRanking rank) (known : g.contains id = true) :
    IsGreatest (g.chainLengths id) (rank id) := by
  refine ⟨ranking.exists_chain known, ?_⟩
  rintro k ⟨ids, chain, rfl⟩
  exact ranking.length_le chain

/-- **The rank of a node is zero** if it reads nothing, and otherwise one more than the highest rank
among those it reads. -/
theorem eq_zero_or_eq_succ (ranking : g.IsRanking rank) (known : g.contains id = true) :
    ((∀ source, ¬g.Reads id source) ∧ rank id = 0)
      ∨ ∃ highest, IsGreatest (rank '' {source | g.Reads id source}) highest
        ∧ rank id = highest + 1 := by
  obtain lowest | ⟨source, reads, above⟩ := ranking.attained known
  · refine Or.inl ⟨fun source reads => ?_, lowest⟩
    have lower := ranking.lower reads
    omega
  · refine Or.inr ⟨rank source, ⟨⟨source, reads, rfl⟩, ?_⟩, above⟩
    rintro r ⟨other, reads', rfl⟩
    have lower := ranking.lower reads'
    omega

/-- **Ranks are determined** by the ids and by what reads what. -/
theorem eq_of_reads_iff {rank' : String → Nat} (ranking : g.IsRanking rank)
    (ranking' : h.IsRanking rank') (reads : ∀ {a b : String}, h.Reads a b ↔ g.Reads a b)
    (known : g.contains id = true) (known' : h.contains id = true) : rank' id = rank id := by
  have lengths : h.chainLengths id = g.chainLengths id := by
    have same : h.Reads = g.Reads := by
      funext a b
      exact propext reads
    unfold chainLengths
    rw [same]
  exact (lengths ▸ ranking'.isGreatest known').unique (ranking.isGreatest known)

end IsRanking

end Graph

end AgentWorkflow
