import AgentWorkflow.Graph.Node

/-!
# Graphs

A graph is the list of its nodes, in the order of the definition it came from,
no two of one id. Edges are not stored: every wire is kept once, at the node
it leads into, and `Graph.edges` reads them off. An edge that names a node no
longer there is therefore impossible to forget and easy to find.
-/

namespace AgentWorkflow

/-- The editor's graph. -/
structure Graph where
  /-- The nodes, in order. -/
  nodes : List Graph.Node := []
  /-- No two nodes have the same id. -/
  distinct : (nodes.map Graph.Node.id).Nodup := by exact List.nodup_nil

namespace Graph

/-- A wire from an output of one node to an input of another. -/
structure Edge where
  /-- The node that is read. -/
  sourceNode : String
  /-- Which of its outputs. -/
  sourceOutput : String
  /-- The node that reads. -/
  targetNode : String
  /-- Into which of its inputs. -/
  targetInput : String
  deriving DecidableEq

namespace Edge

/-- The edge a connection makes when it is wired to an input. -/
def ofConnection (c : Connection) (targetNode targetInput : String) : Edge :=
  ⟨c.fromNode, c.fromOutput, targetNode, targetInput⟩

/-- The end that is read. -/
def source (e : Edge) : Connection := ⟨e.sourceNode, e.sourceOutput⟩

/-- The edge in words. -/
def text (e : Edge) : String :=
  e.sourceNode ++ "." ++ e.sourceOutput ++ " -> " ++ e.targetNode ++ "." ++ e.targetInput

/-- The names of the edge, in the order in which edges are sorted. -/
def key (e : Edge) : List String :=
  [e.sourceNode, e.sourceOutput, e.targetNode, e.targetInput]

end Edge

instance : Inhabited Graph := ⟨{}⟩

/-- The ids of all nodes, in order. -/
def ids (g : Graph) : List String := g.nodes.map Node.id

/-- The node of an id. -/
def node? (g : Graph) (id : String) : Option Node := g.nodes.find? fun n => n.id = id

/-- Whether there is a node of an id. -/
def contains (g : Graph) (id : String) : Bool := g.ids.contains id

/-- The wires into a node, in the order of slots and wires. -/
def Node.edges (n : Node) : List Edge :=
  n.inputs.flatMap fun s => s.links.map fun c => Edge.ofConnection c n.id s.name

/-- **All edges**, in the order of nodes, slots and wires. -/
def edges (g : Graph) : List Edge := g.nodes.flatMap Node.edges

/-- Adds a node at the end. Whoever adds it has seen to it that its id is new. -/
def push (g : Graph) (n : Node) (new : n.id ∉ g.ids) : Graph where
  nodes := g.nodes ++ [n]
  distinct := by
    rw [List.map_append, List.nodup_append]
    refine ⟨g.distinct, by simp, ?_⟩
    rintro a ha b hb rfl
    exact new (List.mem_singleton.mp hb ▸ ha)

/-- Changes every node. Whatever is changed, the nodes keep their ids. -/
def mapNodes (g : Graph) (change : Node → Node) : Graph where
  nodes := g.nodes.map fun n => { change n with id := n.id }
  distinct := by
    rw [List.map_map]
    exact g.distinct

/-- Changes the node of an id, if there is one. -/
def updateNode (g : Graph) (id : String) (change : Node → Node) : Graph :=
  g.mapNodes fun n => if n.id = id then change n else n

/-- Drops the nodes that do not pass a test. -/
def filterNodes (g : Graph) (keep : Node → Bool) : Graph where
  nodes := g.nodes.filter keep
  distinct := g.distinct.sublist (List.filter_sublist.map Node.id)

@[simp] theorem ids_mapNodes (g : Graph) (change : Node → Node) :
    (g.mapNodes change).ids = g.ids := by
  simp [ids, mapNodes, Function.comp_def]

@[simp] theorem ids_updateNode (g : Graph) (id : String) (change : Node → Node) :
    (g.updateNode id change).ids = g.ids := ids_mapNodes ..

theorem node?_mapNodes (g : Graph) (change : Node → Node) (id : String) :
    (g.mapNodes change).node? id = (g.node? id).map fun n => { change n with id := n.id } := by
  unfold node? mapNodes
  rw [List.find?_map]
  rfl

end Graph

end AgentWorkflow
