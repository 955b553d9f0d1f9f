import AgentWorkflow.Error
import AgentWorkflow.Json.Record

/-!
# Snapshots of a run

What the runtime reports about a run at one moment: the nodes that have
produced output, with their outputs, and perhaps the definition that runs and
the order in which nodes ran. A node has executed exactly when it is a key of
the outputs.

The runtime reports all live runs as one object from request ids to
snapshots; its order is kept, because only the first run is watched.
-/

namespace AgentWorkflow

/-- Which nodes have produced output, at one moment of a run. -/
structure Snapshot where
  /-- The output of every node that has executed, in report order. -/
  nodeOutputs : Fields := []
  /-- The definition that runs, when the runtime says so. -/
  workflowName : Option String := none
  /-- The trace of the run, oldest first, when the runtime keeps one. -/
  executionOrder : Option (List String) := none

namespace Snapshot

/-- The nodes that have executed, in report order. -/
def executedIds (s : Snapshot) : List String := s.nodeOutputs.keys

/-- A text that stands for the set of executed nodes: their ids, sorted, one
to a line. -/
def signature (s : Snapshot) : String :=
  String.intercalate "\n" (s.executedIds.mergeSort fun a b => decide (a ≤ b))

/-- **The node that ran last**: the end of the trace, or, when there is no
trace or an empty one, the last output reported. Without a trace this is a
guess that report order is execution order. -/
def lastExecuted (s : Snapshot) : Option String :=
  match s.executionOrder with
  | some (first :: rest) => some ((first :: rest).getLast (by simp))
  | _ => s.executedIds.getLast?

/-- The output of a node. -/
def output? (s : Snapshot) (nodeId : String) : Option Json := s.nodeOutputs.get? nodeId

/-- Reads a snapshot. -/
def ofDocument? (d : Document) : Option Snapshot := do
  let fs ← d.fields? ["node_outputs", "workflow_name", "execution_order"]
  let outputs ← Document.defaulted fs "node_outputs" [] (Document.orNull [] Document.members?)
  let name ← Document.optional fs "workflow_name" Document.text?
  let order ← Document.optional fs "execution_order" (Document.list? Document.text?)
  return ⟨outputs, name, order⟩

/-- The snapshot as an object. What the runtime did not say is left out. -/
def toJson (s : Snapshot) : Json :=
  .obj ([("node_outputs", .obj s.nodeOutputs)]
    ++ s.workflowName.toList.map (fun n => ("workflow_name", .str n))
    ++ s.executionOrder.toList.map (fun o => ("execution_order", .arr (o.map .str))))

end Snapshot

/-- One live run. -/
structure ActiveInstance where
  /-- The id under which the runtime keeps the run. -/
  requestId : String
  /-- What it reports about it. -/
  snapshot : Snapshot

namespace ActiveInstance

/-- **The live runs in the runtime's report**, in its order. Null reports
none. -/
def parseAll : Json → Except Error (List ActiveInstance)
  | .null => .ok []
  | .obj members =>
    members.mapM fun m =>
      match Snapshot.ofDocument? m.2.toDocument with
      | some s => .ok ⟨m.1, s⟩
      | none => .error (.json "a live instance is not a snapshot")
  | other =>
    .error (.transport ("expected an object of active instances, got " ++ other.kind))

end ActiveInstance

end AgentWorkflow
