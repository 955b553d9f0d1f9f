import AgentWorkflow.Definition
import AgentWorkflow.Registry

/-!
# Nodes of a graph

A node as the editor holds it: with the slots of its type, the wires that lead
into it, its properties, and what the monitored run says about it. Outgoing
wires are not kept; they are the incoming wires of other nodes.

Properties whose key begins with an underscore belong to the editor. They are
shown like others and never written into a definition. One of them is the
output a run last reported for the node.
-/

namespace AgentWorkflow

/-- What the monitored run says about a node. -/
inductive NodeStatus where
  /-- Nothing. -/
  | plain
  /-- It has produced output. -/
  | executed
  /-- It waits for the operator. -/
  | gated
  /-- The run ended at it. -/
  | failed
  deriving DecidableEq

/-- A place on the canvas. -/
structure Position where
  /-- The distance from the left. -/
  x : Float
  /-- The distance from the top. -/
  y : Float
  deriving DecidableEq

/-- An input slot together with the wires that lead into it. There may be
several, since a value may refer to more than one source. -/
structure InputSlot where
  /-- The name of the slot. -/
  name : String
  /-- What kind of value passes through it. -/
  valueType : String
  /-- The sources, in the order in which they were wired. -/
  links : List Connection := []

namespace InputSlot

/-- The slot of a node type, with nothing wired to it. -/
def ofSlot (s : Slot) : InputSlot := ⟨s.name, s.valueType, []⟩

/-- Adds a source at the end, unless it is there already. -/
def link (s : InputSlot) (c : Connection) : InputSlot :=
  if s.links.contains c then s else { s with links := s.links ++ [c] }

/-- Removes a source. -/
def unlink (s : InputSlot) (c : Connection) : InputSlot :=
  { s with links := s.links.filter (· != c) }

/-- Removes all wires from one node. -/
def unlinkNode (s : InputSlot) (id : String) : InputSlot :=
  { s with links := s.links.filter fun c => c.fromNode != id }

/-- Changes the first slot of a name. A type may declare two slots of one
name; the later ones can never be wired. -/
def updateFirst (name : String) (change : InputSlot → InputSlot) :
    List InputSlot → List InputSlot
  | [] => []
  | s :: rest => if s.name = name then change s :: rest else s :: updateFirst name change rest

end InputSlot

/-- A node of a graph. -/
structure Graph.Node where
  /-- The id edges refer to it by. -/
  id : String
  /-- The name of its type, with the registry's namespace. -/
  nodeType : String
  /-- What to show for it. -/
  title : String
  /-- The input slots, in the order of the type. -/
  inputs : List InputSlot
  /-- The output slots, in the order of the type. -/
  outputs : List Slot
  /-- What was said about the node, the editor's own remarks included. -/
  properties : Fields := []
  /-- What the type says where the node says nothing. Never written out. -/
  defaults : Fields
  /-- Where it stands, once it was placed. -/
  position : Option Position := none
  /-- What the monitored run says about it. -/
  status : NodeStatus := .plain

namespace Graph.Node

/-- The property that holds the output last reported. -/
def lastOutputKey : String := "_last_output"

/-- Whether a property belongs to the editor. -/
def isInternalKey (key : String) : Bool := key.toList.head? = some '_'

/-- A node of a type, with nothing wired to it. -/
def ofSpec (id nodeType : String) (spec : NodeTypeSpec) : Node :=
  { id, nodeType
    title := spec.title
    inputs := spec.inputs.map InputSlot.ofSlot
    outputs := spec.outputs
    defaults := spec.defaults }

/-- **The bare name of a type**: what follows the last slash, or all of it if
there is none. -/
def bareName (nodeType : List Char) : List Char :=
  (nodeType.reverse.takeWhile (· ≠ '/')).reverse

/-- The name of the node's type as definitions write it. -/
def bareType (n : Node) : String := String.ofList (bareName n.nodeType.toList)

/-- The input slot of a name. -/
def input? (n : Node) (name : String) : Option InputSlot :=
  n.inputs.find? fun s => s.name = name

/-- Whether there is an output slot of a name. -/
def hasOutput (n : Node) (name : String) : Bool :=
  n.outputs.any fun s => s.name = name

/-- A property: what was said about the node, else what its type says. -/
def property? (n : Node) (key : String) : Option Json :=
  (n.properties.get? key).or (n.defaults.get? key)

/-- The output last reported for the node. -/
def lastOutput? (n : Node) : Option Json := n.properties.get? lastOutputKey

/-- The properties that are written into a definition, in order. -/
def persisted (n : Node) : Fields := n.properties.filter fun m => !isInternalKey m.1

/-- The sources of all wires into the node, in the order of slots and wires. -/
def sources (n : Node) : List Connection := n.inputs.flatMap InputSlot.links

/-- **The nodes it reads**, each once, in the order in which they were first
wired. -/
def predecessors (n : Node) : List String :=
  n.sources.foldl (fun ids c => if ids.contains c.fromNode then ids else ids ++ [c.fromNode]) []

/-- Changes the first input slot of a name. -/
def updateInput (n : Node) (name : String) (change : InputSlot → InputSlot) : Node :=
  { n with inputs := InputSlot.updateFirst name change n.inputs }

/-- **Records what a run says about the node.** A reported output is kept
among the properties; when none is reported the one kept before goes, and the
last property takes its place. -/
def setStatus (n : Node) (status : NodeStatus) (output : Option Json) : Node :=
  { n with
    status
    properties :=
      match output with
      | some value => n.properties.set lastOutputKey value
      | none => n.properties.swapRemove lastOutputKey }

end Graph.Node

end AgentWorkflow
