import AgentWorkflow.Proofs.Ranking
import Mathlib.Order.MinMax

/-!
# What layouts look like

Nodes are put into columns by rank, one after the other, in graph order. This module says
what comes out, for every graph that can be laid out.

**Columns.** A node has the rank of its longest chain (`Graph.ranks_are_longest_chains`),
whatever the order in which nodes, slots and wires are listed. So edges lead to the right,
and no column is left empty: a node of rank `k + 1` has its rank because of a node of rank
`k`. There are as many columns as the highest rank needs, which is why every node finds its
column when it is put there (`Layout.lt_width_iff`).

**Cells.** The row of a node is looked up in its column, and it is found, since that is where
the node was put. Rank and row together are a cell of a grid, and no cell holds two nodes
(`Graph.layouts_are_grids`).
-/

namespace AgentWorkflow

namespace Layout

/-- **The cell of the grid** from which the place of a node is worked out: its column and its
row. -/
def cell (l : Layout) (p : Placement) : Nat × Nat := (p.rank, row l.columns (p.id, p.rank))

/-- **A layout is a grid** on which each node of the graph has a cell of its own. -/
structure IsGrid (g : Graph) (config : LayoutConfig) (l : Layout) : Prop where
  /-- The columns have all ids in them, each of them once. -/
  partition : l.columns.flatten.Perm g.ids ∧ l.columns.flatten.Nodup
  /-- A column lists the nodes of one rank, in graph order. -/
  columns : ∀ (i : Nat) (h : i < l.columns.length),
    l.columns[i] = g.ids.filter fun id => l.rank? id = some i
  /-- No column is empty. -/
  filled : [] ∉ l.columns
  /-- Every node is placed once, in graph order. -/
  placed : l.placements.map Placement.id = g.ids
  /-- Each node is found in its column, and it is placed as many spacings behind the margin
  as the cell in which it is found has columns before it and rows above it. -/
  found : ∀ p ∈ l.placements, ∃ column, l.columns[p.rank]? = some column
    ∧ column.idxOf? p.id = some (l.cell p).2
    ∧ p.position.x = Float.ofNat (l.cell p).1 * config.xSpacing + config.margin
    ∧ p.position.y = Float.ofNat (l.cell p).2 * config.ySpacing + config.margin
  /-- No two nodes have the same cell. -/
  apart : (l.placements.map l.cell).Nodup
  /-- At no time while the columns are filled is the column missing into which a node is put,
  and so nothing gets lost. -/
  inRange : ∀ before p after, l.placements = before ++ p :: after →
    p.rank < (fill (List.replicate l.columns.length []) (before.map fun q => (q.id, q.rank))).length
  /-- This is how the columns are filled. -/
  fills : fill (List.replicate l.columns.length []) (l.placements.map fun q => (q.id, q.rank))
    = l.columns

variable {columns : List (List String)} {ranks : List (String × Nat)} {r : String × Nat}

/-! ## Filling columns -/

/-- There are as many columns as the highest rank needs. -/
theorem lt_width_iff {k : Nat} : k < width ranks ↔ ∃ r ∈ ranks, k ≤ r.2 := by
  unfold width
  suffices ∀ most, k < (ranks.map fun r => r.2 + 1).foldl max most
      ↔ k < most ∨ ∃ r ∈ ranks, k ≤ r.2 by
    simpa using this 0
  induction ranks with
  | nil => simp
  | cons r ranks ih =>
    intro most
    rw [List.map_cons, List.foldl_cons, ih, lt_max_iff, Nat.lt_succ_iff, or_assoc,
      List.exists_mem_cons_iff]

theorem lt_width (mem : r ∈ ranks) : r.2 < width ranks := lt_width_iff.mpr ⟨r, mem, le_rfl⟩

@[simp] theorem length_place (columns : List (List String)) (r : String × Nat) :
    (place columns r).length = columns.length := List.length_modify ..

@[simp] theorem length_fill (columns : List (List String)) (ranks : List (String × Nat)) :
    (fill columns ranks).length = columns.length := by
  unfold fill
  induction ranks generalizing columns with
  | nil => rfl
  | cons r ranks ih => rw [List.foldl_cons, ih, length_place]

/-- **Putting a node into its column** puts it there and nowhere else. -/
theorem perm_flatten_place (h : r.2 < columns.length) :
    (place columns r).flatten.Perm (r.1 :: columns.flatten) := by
  unfold place
  rw [List.modify_eq_take_cons_drop h, List.flatten_append, List.flatten_cons, List.append_assoc,
    List.singleton_append]
  have split : columns.flatten = (columns.take r.2).flatten ++ columns[r.2]
      ++ (columns.drop (r.2 + 1)).flatten := by
    rw [List.append_assoc, ← List.flatten_cons, ← List.drop_eq_getElem_cons h,
      ← List.flatten_append, List.take_append_drop]
  rw [split, ← List.append_assoc]
  exact List.perm_middle

/-- **Filling columns loses no node** and has none twice, if all of them find their
columns. -/
theorem perm_flatten_fill (columns : List (List String)) (h : ∀ r ∈ ranks, r.2 < columns.length) :
    (fill columns ranks).flatten.Perm (ranks.map Prod.fst ++ columns.flatten) := by
  unfold fill
  induction ranks generalizing columns with
  | nil => exact List.Perm.refl _
  | cons r ranks ih =>
    rw [List.foldl_cons, List.map_cons, List.cons_append]
    refine (ih _ fun r' mem => ?_).trans ?_
    · rw [length_place]
      exact h r' (List.mem_cons_of_mem r mem)
    · exact ((perm_flatten_place (h r List.mem_cons_self)).append_left _).trans List.perm_middle

/-- **What a column is filled with** are the nodes of its rank, in order. -/
theorem getElem?_fill (columns : List (List String)) (ranks : List (String × Nat)) (i : Nat) :
    (fill columns ranks)[i]?
      = columns[i]?.map (· ++ (ranks.filter fun r => r.2 = i).map Prod.fst) := by
  unfold fill
  induction ranks generalizing columns with
  | nil => simp
  | cons r ranks ih =>
    rw [List.foldl_cons, ih]
    unfold place
    rw [List.getElem?_modify, List.filter_cons]
    by_cases here : r.2 = i <;> cases columns[i]? <;> simp [here]

/-! ## Layouts by rank -/

variable (config : LayoutConfig) {ids : List String} {rank : String → Nat} {id : String}

/-- **A node has the rank it was given**, and what is no node has none. -/
theorem rank?_ofRanks (ids : List String) (rank : String → Nat) (id : String) :
    (ofRanks config (ids.map fun id => (id, rank id))).rank? id
      = if id ∈ ids then some (rank id) else none := by
  unfold rank? ofRanks
  dsimp only
  rw [List.map_map, List.find?_map, Option.map_map]
  show Option.map rank (ids.find? fun other => decide (other = id)) = _
  split
  · next there =>
    have some_there : (ids.find? fun other => decide (other = id)).isSome = true :=
      List.find?_isSome.mpr ⟨id, there, decide_eq_true rfl⟩
    obtain ⟨other, found⟩ := Option.isSome_iff_exists.mp some_there
    have same : other = id := by simpa using List.find?_some found
    rw [found, same]
    rfl
  · next absent =>
    have none : (ids.find? fun other => decide (other = id)) = none :=
      List.find?_eq_none.mpr fun other mem same => absent (of_decide_eq_true same ▸ mem)
    rw [none]
    rfl

/-- **A column has the nodes of its rank**, in order. There are as many columns as needed. -/
theorem getElem?_columns (ids : List String) (rank : String → Nat) (i : Nat) :
    (ofRanks config (ids.map fun id => (id, rank id))).columns[i]?
      = if i < width (ids.map fun id => (id, rank id))
        then some (ids.filter fun id => rank id = i) else none := by
  unfold ofRanks
  dsimp only
  rw [getElem?_fill, List.getElem?_replicate, List.filter_map, List.map_map]
  split
  · show some ([] ++ (ids.filter fun id => decide (rank id = i)).map fun id => id) = _
    rw [List.nil_append, List.map_id']
  · rfl

theorem length_columns (ranks : List (String × Nat)) :
    (ofRanks config ranks).columns.length = width ranks := by
  unfold ofRanks
  rw [length_fill, List.length_replicate]

theorem map_id_rank_placements (ranks : List (String × Nat)) :
    ((ofRanks config ranks).placements.map fun p => (p.id, p.rank)) = ranks := by
  unfold ofRanks
  rw [List.map_map]
  exact List.map_id ranks

theorem map_id_placements (ranks : List (String × Nat)) :
    (ofRanks config ranks).placements.map Placement.id = ranks.map Prod.fst := by
  rw [← congrArg (List.map Prod.fst) (map_id_rank_placements config ranks), List.map_map]
  rfl

theorem fill_placements (ranks : List (String × Nat)) :
    fill (List.replicate (ofRanks config ranks).columns.length [])
      ((ofRanks config ranks).placements.map fun p => (p.id, p.rank))
        = (ofRanks config ranks).columns := by
  rw [map_id_rank_placements, length_columns]
  rfl

/-- **Every node is put into a column that is there**: none is missing. -/
theorem rank_lt_length {ranks : List (String × Nat)} {p : Placement}
    (mem : p ∈ (ofRanks config ranks).placements) :
    p.rank < (ofRanks config ranks).columns.length := by
  obtain ⟨r, hr, rfl⟩ := List.mem_map.mp mem
  rw [length_columns]
  exact lt_width hr

/-- **The nodes are divided among the columns.** -/
theorem perm_flatten_columns (ranks : List (String × Nat)) :
    (ofRanks config ranks).columns.flatten.Perm (ranks.map Prod.fst) := by
  have fits : ∀ r ∈ ranks, r.2 < (List.replicate (width ranks) ([] : List String)).length :=
    fun r mem => by
      rw [List.length_replicate]
      exact lt_width mem
  have filled := perm_flatten_fill _ fits
  rwa [List.flatten_replicate_nil, List.append_nil] at filled

/-- **A column has the nodes whose rank is its number.** -/
theorem getElem_columns {ids : List String} {rank : String → Nat} {l : Layout}
    (laid : l = ofRanks config (ids.map fun id => (id, rank id))) {i : Nat}
    (h : i < l.columns.length) : l.columns[i] = ids.filter fun id => l.rank? id = some i := by
  subst laid
  have column := getElem?_columns config ids rank i
  rw [List.getElem?_eq_getElem h, if_pos (length_columns config _ ▸ h)] at column
  rw [Option.some.inj column]
  refine List.filter_congr fun id there => ?_
  rw [rank?_ofRanks, if_pos there]
  exact decide_eq_decide.mpr (Option.some_inj).symm

/-- **No column is empty** if there is a node of each rank below that of a node. -/
theorem nil_notMem_columns (gapless : ∀ id ∈ ids, ∀ k ≤ rank id, ∃ other ∈ ids, rank other = k) :
    [] ∉ (ofRanks config (ids.map fun id => (id, rank id))).columns := by
  intro empty
  obtain ⟨k, here⟩ := List.getElem?_of_mem empty
  rw [getElem?_columns] at here
  split at here
  · next there =>
    obtain ⟨r, mem, le⟩ := lt_width_iff.mp there
    obtain ⟨id, hid, rfl⟩ := List.mem_map.mp mem
    obtain ⟨other, mem, rfl⟩ := gapless id hid k le
    have none := List.filter_eq_nil_iff.mp (Option.some.inj here) other mem
    exact none (decide_eq_true rfl)
  · cases here

/-! ## Cells -/

/-- **A node that stands in its column is found there.** -/
theorem idxOf?_eq_row {column : List String} (there : columns[r.2]? = some column)
    (mem : r.1 ∈ column) : column.idxOf? r.1 = some (row columns r) := by
  obtain ⟨i, found⟩ := Option.isSome_iff_exists.mp (List.isSome_idxOf?.mpr mem)
  unfold row
  rw [there, Option.bind_some, found]
  rfl

/-- **Every node is found in its column.** -/
theorem exists_column {l : Layout} (laid : l = ofRanks config (ids.map fun id => (id, rank id)))
    {p : Placement} (mem : p ∈ l.placements) :
    ∃ column, l.columns[p.rank]? = some column ∧ column.idxOf? p.id = some (l.cell p).2
      ∧ p.position.x = Float.ofNat (l.cell p).1 * config.xSpacing + config.margin
      ∧ p.position.y = Float.ofNat (l.cell p).2 * config.ySpacing + config.margin := by
  subst laid
  obtain ⟨r, hr, rfl⟩ := List.mem_map.mp mem
  obtain ⟨id, there, rfl⟩ := List.mem_map.mp hr
  have column := getElem?_columns config ids rank (rank id)
  rw [if_pos (lt_width hr)] at column
  have stands : id ∈ ids.filter fun other => rank other = rank id :=
    List.mem_filter.mpr ⟨there, decide_eq_true rfl⟩
  exact ⟨_, column, idxOf?_eq_row (r := (id, rank id)) column stands, rfl, rfl⟩

/-- The node that stands in a cell. -/
def at? (l : Layout) (c : Nat × Nat) : Option String :=
  l.columns[c.1]?.bind fun column => column[c.2]?

/-- **What stands in the cell of a node is the node**, if it is found in its column. -/
theorem at?_cell {l : Layout} {p : Placement} {column : List String}
    (there : l.columns[p.rank]? = some column) (found : column.idxOf? p.id = some (l.cell p).2) :
    l.at? (l.cell p) = some p.id := by
  obtain ⟨h, here, -⟩ := List.idxOf?_eq_some_iff.mp found
  show l.columns[p.rank]?.bind (fun column => column[(l.cell p).2]?) = some p.id
  rw [there, Option.bind_some, List.getElem?_eq_getElem h, here]

/-- **Nodes of different ids have different cells**: the cell tells which node it is. -/
theorem nodup_cells {l : Layout} (distinct : (l.placements.map Placement.id).Nodup)
    (stands : ∀ p ∈ l.placements, l.at? (l.cell p) = some p.id) :
    (l.placements.map l.cell).Nodup := by
  have told : (l.placements.map l.cell).map l.at? = (l.placements.map Placement.id).map some := by
    rw [List.map_map, List.map_map]
    exact List.map_congr_left stands
  exact .of_map l.at? (told ▸ distinct.map (Option.some_injective _))

end Layout

namespace Graph

variable {g : Graph} {config : LayoutConfig} {l : Layout}

/-- **Ranks are the lengths of longest chains.** If a graph is laid out, the rank of a node is
the length of the longest chain that ends at it: zero if it reads nothing, and otherwise one
more than the highest rank among those it reads. Every edge between nodes of the graph leads
from a lower rank to a higher one. A graph with the same ids and the same edges, in whatever
order they are listed, is laid out with the same ranks. -/
theorem ranks_are_longest_chains (laid : g.layout config = .ok l) :
    ∃ rank : String → Nat,
      (∀ id, l.rank? id = if id ∈ g.ids then some (rank id) else none)
        ∧ (∀ id ∈ g.ids, IsGreatest (g.chainLengths id) (rank id))
        ∧ (∀ id ∈ g.ids, ((∀ source, ¬g.Reads id source) ∧ rank id = 0)
          ∨ ∃ highest, IsGreatest (rank '' {source | g.Reads id source}) highest
            ∧ rank id = highest + 1)
        ∧ (∀ e ∈ g.edges, e.sourceNode ∈ g.ids → rank e.sourceNode < rank e.targetNode)
        ∧ ∀ (h : Graph) (config' : LayoutConfig), (∀ id, id ∈ h.ids ↔ id ∈ g.ids) →
          (∀ e, e ∈ h.edges ↔ e ∈ g.edges) →
          ∃ l', h.layout config' = .ok l' ∧ ∀ id, l'.rank? id = l.rank? id := by
  have known : ∀ {g : Graph} {id : String}, id ∈ g.ids → g.contains id = true :=
    List.contains_iff_mem.mpr
  obtain ⟨rank, ranking, laid'⟩ | ⟨circle, -, failed⟩ := g.layout_cases config
  · obtain rfl := Except.ok.inj (laid'.symm.trans laid)
    refine ⟨rank, Layout.rank?_ofRanks config g.ids rank, fun id there => ?_, fun id there => ?_,
      fun e he there => ?_, fun h config' ids edges => ?_⟩
    · exact ranking.isGreatest (known there)
    · exact ranking.eq_zero_or_eq_succ (known there)
    · exact ranking.lower ⟨⟨e, he, rfl, rfl⟩, known there⟩
    · have reads : ∀ {a b : String}, h.Reads a b ↔ g.Reads a b := reads_congr ids edges
      obtain ⟨rank', ranking', laid''⟩ | ⟨circle, isCircle, -⟩ := h.layout_cases config'
      · refine ⟨_, laid'', fun id => ?_⟩
        rw [Layout.rank?_ofRanks, Layout.rank?_ofRanks, if_congr (ids id) rfl rfl]
        split
        · next there =>
          rw [ranking.eq_of_reads_iff ranking' reads (known there) (known ((ids id).mpr there))]
        · rfl
      · obtain ⟨id, leads⟩ := isCircle.transGen
        exact absurd ⟨id, leads.lift (fun id => id) fun _ _ => reads.mp⟩ ranking.not_transGen
  · cases failed.symm.trans laid

/-- A node that is reached in three ways, listed before what it reads, and one that is not
linked to anything. -/
def braided : Graph where
  nodes := [.reading "end" ["middle", "start"], .reading "start" [],
    .reading "middle" ["left", "start"], .reading "left" ["start"], .reading "alone" ["lost"]]
  distinct := by decide

/-- The layout of these nodes: the longest way counts. -/
theorem layout_braided : braided.layout {} = .ok (.ofRanks {}
    [("end", 3), ("start", 0), ("middle", 2), ("left", 1), ("alone", 0)]) := by
  have ranking : braided.IsRanking fun
      | "end" => 3
      | "middle" => 2
      | "left" => 1
      | _ => 0 := by decide
  unfold layout
  rw [ranking.ranks_eq]
  rfl

/-- The longest chain that ends at the last of them has three links. -/
theorem ranks_are_longest_chains_braided :
    (∃ l, braided.layout {} = .ok l ∧ l.rank? "end" = some 3)
      ∧ IsGreatest (braided.chainLengths "end") 3 := by
  obtain ⟨rank, given, longest, -⟩ := ranks_are_longest_chains layout_braided
  have there : "end" ∈ braided.ids := by decide
  have three : rank "end" = 3 := by
    have here := given "end"
    rw [if_pos there] at here
    exact (Option.some.inj here).symm
  exact ⟨⟨_, layout_braided, rfl⟩, three ▸ longest "end" there⟩

/-- **Layouts are grids.** If a graph is laid out, its ids are divided among the columns, each
column lists the nodes of its rank in graph order, and none is empty. Every node is placed
once, in graph order, at the cell in which it is found, and no cell is that of two nodes; the
cells are a spacing apart, and the first one is at the margin. No column is missing while they
are filled. -/
theorem layouts_are_grids (laid : g.layout config = .ok l) : l.IsGrid g config := by
  obtain ⟨rank, ranking, laid'⟩ | ⟨circle, -, failed⟩ := g.layout_cases config
  · obtain rfl := Except.ok.inj (laid'.symm.trans laid)
    let ranks := g.ids.map fun id => (id, rank id)
    let l := Layout.ofRanks config ranks
    have ids : ranks.map Prod.fst = g.ids := by
      rw [List.map_map]
      exact List.map_id g.ids
    have placed : l.placements.map Placement.id = g.ids :=
      (Layout.map_id_placements config ranks).trans ids
    have partition : l.columns.flatten.Perm g.ids := ids ▸ Layout.perm_flatten_columns config ranks
    have found := fun p (mem : p ∈ l.placements) => Layout.exists_column config rfl mem
    refine ⟨⟨partition, partition.nodup_iff.mpr g.distinct⟩,
      fun i h => Layout.getElem_columns config rfl h, ?filled, placed, found, ?apart,
      fun before p after split => ?inRange, Layout.fill_placements config ranks⟩
    case filled =>
      refine Layout.nil_notMem_columns config fun id there k le => ?_
      obtain ⟨other, known, here⟩ := ranking.exists_rank_eq (List.contains_iff_mem.mpr there) le
      exact ⟨other, List.contains_iff_mem.mp known, here⟩
    case apart =>
      have distinct : (l.placements.map Placement.id).Nodup := placed.symm ▸ g.distinct
      refine Layout.nodup_cells distinct fun p mem => ?_
      obtain ⟨column, there, here, -⟩ := found p mem
      exact Layout.at?_cell there here
    case inRange =>
      rw [Layout.length_fill, List.length_replicate]
      exact Layout.rank_lt_length config (split ▸ List.mem_append_right before List.mem_cons_self)
  · cases failed.symm.trans laid

/-- Two nodes of one column are in different rows. -/
theorem layouts_are_grids_braided : ∃ l, braided.layout {} = .ok l
    ∧ l.columns = [["start", "alone"], ["left"], ["middle"], ["end"]]
    ∧ l.IsGrid braided {} :=
  ⟨_, layout_braided, by decide, layouts_are_grids layout_braided⟩

end Graph

end AgentWorkflow
