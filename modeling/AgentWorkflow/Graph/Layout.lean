import AgentWorkflow.Config
import AgentWorkflow.Error
import AgentWorkflow.Graph.Rank

/-!
# Layouts

A layout puts the nodes of one rank into one column, from left to right and,
within a column, from top to bottom in graph order. Edges then always lead to
the right. A graph with a circle has no layout.
-/

namespace AgentWorkflow

/-- Where a layout puts a node. -/
structure Placement where
  /-- The node. -/
  id : String
  /-- Its column, counted from zero. -/
  rank : Nat
  /-- Its place. -/
  position : Position

/-- A layout of a graph. -/
structure Layout where
  /-- The ids in each column, from top to bottom. -/
  columns : List (List String) := []
  /-- Where each node goes, in graph order. -/
  placements : List Placement := []

namespace Layout

/-- How many columns the ranks need. -/
def width (ranks : List (String × Nat)) : Nat :=
  (ranks.map fun r => r.2 + 1).foldl max 0

/-- Puts a node at the bottom of the column of its rank. Without such a column
the node would get lost. -/
def place (columns : List (List String)) (r : String × Nat) : List (List String) :=
  columns.modify r.2 (· ++ [r.1])

/-- Columns that are filled with nodes, one after the other. -/
def fill (columns : List (List String)) (ranks : List (String × Nat)) : List (List String) :=
  ranks.foldl place columns

/-- The row in which a node stands in its column: the first one, should it not
stand there. -/
def row (columns : List (List String)) (r : String × Nat) : Nat :=
  (columns[r.2]?.bind fun column => column.idxOf? r.1).getD 0

/-- The place of the node in a row of a column. -/
def position (config : LayoutConfig) (rank row : Nat) : Position where
  x := Float.ofNat rank * config.xSpacing + config.margin
  y := Float.ofNat row * config.ySpacing + config.margin

/-- The layout that ranks give. -/
def ofRanks (config : LayoutConfig) (ranks : List (String × Nat)) : Layout :=
  let columns := fill (List.replicate (width ranks) []) ranks
  { columns
    placements := ranks.map fun r => ⟨r.1, r.2, position config r.2 (row columns r)⟩ }

/-- The column of a node. -/
def rank? (l : Layout) (id : String) : Option Nat :=
  (l.placements.find? fun p => p.id = id).map Placement.rank

/-- The place of a node. -/
def position? (l : Layout) (id : String) : Option Position :=
  (l.placements.find? fun p => p.id = id).map Placement.position

end Layout

namespace Graph

/-- **The layout of a graph**, or the circle that prevents it. -/
def layout (g : Graph) (config : LayoutConfig) : Except Error Layout :=
  match g.ranks with
  | .ok ranks => .ok (Layout.ofRanks config ranks)
  | .error circle => .error (.cycleDetected circle)

/-- Moves every node to its place in a layout; nodes that have none stay where
they are. -/
def applyLayout (g : Graph) (l : Layout) : Graph :=
  g.mapNodes fun n => { n with position := (l.position? n.id).or n.position }

end Graph

end AgentWorkflow
