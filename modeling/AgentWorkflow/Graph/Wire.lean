import AgentWorkflow.Error
import AgentWorkflow.Graph.Basic

/-!
# Wiring

Whether an edge can be drawn, and what is in the way if not. The operator who
draws an edge and the definition that asks for one meet the same four
obstacles, and they are looked for in the same order; the two differ only in
how they report them.
-/

namespace AgentWorkflow

namespace Graph

/-- What is missing for an edge. -/
inductive Obstacle where
  /-- The node that would be read. -/
  | sourceNode
  /-- Its output. -/
  | sourceOutput
  /-- The node that would read. -/
  | targetNode
  /-- Its input. -/
  | targetInput
  deriving DecidableEq

namespace Obstacle

/-- The obstacle as the operator who draws the edge is told. -/
def toError (e : Edge) : Obstacle → Error
  | sourceNode => .nodeNotFound e.sourceNode
  | sourceOutput => .slotNotFound e.sourceNode e.sourceOutput
  | targetNode => .nodeNotFound e.targetNode
  | targetInput => .slotNotFound e.targetNode e.targetInput

/-- The obstacle as the author of a definition is told. -/
def toDanglingReason : Obstacle → DanglingReason
  | sourceNode => .missingNode
  | sourceOutput => .missingOutput
  | targetNode | targetInput => .missingInputSlot

end Obstacle

/-- The wires at the input an edge leads into, or the first thing that is
missing for the edge. -/
def wiresAt (g : Graph) (e : Edge) : Except Obstacle (List Connection) :=
  match g.node? e.sourceNode with
  | none => .error .sourceNode
  | some source =>
    if source.hasOutput e.sourceOutput then
      match g.node? e.targetNode with
      | none => .error .targetNode
      | some target =>
        match target.input? e.targetInput with
        | none => .error .targetInput
        | some slot => .ok slot.links
    else .error .sourceOutput

/-- Changes the input an edge leads into. -/
def updateTarget (g : Graph) (e : Edge) (change : InputSlot → InputSlot) : Graph :=
  g.updateNode e.targetNode fun n => n.updateInput e.targetInput change

/-- **Draws an edge**, and tells whether it was not there before. Drawing it a
second time changes nothing. -/
def wire (g : Graph) (e : Edge) : Except Obstacle (Graph × Bool) :=
  (g.wiresAt e).map fun links =>
    (g.updateTarget e fun s => s.link e.source, !links.contains e.source)

end Graph

/-- An edge a definition asked for that could not be drawn. -/
def Graph.Edge.dangling (e : Graph.Edge) (reason : DanglingReason) : Error :=
  .danglingEdge e.targetNode e.targetInput e.sourceNode e.sourceOutput reason

end AgentWorkflow
