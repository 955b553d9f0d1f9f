import AgentWorkflow.Snapshot

/-!
# Finished runs and acknowledgements

What the runtime tells about runs that have ended, and what it says when it
was asked to change something.
-/

namespace AgentWorkflow

/-- One line of the run history. -/
structure RunSummary where
  /-- The id of the run. -/
  id : String
  /-- The definition that ran. -/
  workflowName : String
  /-- When it started, in seconds since the epoch. -/
  startTime : Float
  /-- When it ended. -/
  endTime : Option Float
  /-- How it ended, in the runtime's words. -/
  status : String
  /-- What made it fail. -/
  error : Option String

namespace RunSummary

/-- Reads a history line. -/
def ofDocument? (d : Document) : Option RunSummary := do
  let fs ← d.fields? ["id", "workflow_name", "start_time", "end_time", "status", "error"]
  let id ← Document.required fs "id" Document.text?
  let workflowName ← Document.required fs "workflow_name" Document.text?
  let startTime ← Document.required fs "start_time" Document.float?
  let endTime ← Document.optional fs "end_time" Document.float?
  let status ← Document.required fs "status" Document.text?
  let error ← Document.optional fs "error" Document.text?
  return ⟨id, workflowName, startTime, endTime, status, error⟩

/-- The history line as an object; what is absent is null. -/
def toJson (r : RunSummary) : Json :=
  .obj [("id", .str r.id), ("workflow_name", .str r.workflowName),
    ("start_time", .num (.float r.startTime)),
    ("end_time", r.endTime.elim .null fun t => .num (.float t)),
    ("status", .str r.status), ("error", .ofText? r.error)]

end RunSummary

/-- The record of one finished run. -/
structure HistoricalRun where
  /-- The id of the run. -/
  id : Option String
  /-- The definition that ran. -/
  workflowName : String
  /-- What the nodes had produced at the end. -/
  finalState : Snapshot
  /-- How it ended, in the runtime's words. -/
  status : Option String
  /-- What made it fail. -/
  error : Option String

namespace HistoricalRun

/-- **Whether the run failed**: it left an error, or its status says so in any
mixture of capitals. -/
def isFailed (r : HistoricalRun) : Bool :=
  r.error.isSome || r.status.any fun s => s.toList.map Char.toLower = "failed".toList

/-- Reads the record of a run. -/
def ofDocument? (d : Document) : Option HistoricalRun := do
  let fs ← d.fields? ["id", "workflow_name", "final_state", "status", "error"]
  let id ← Document.optional fs "id" Document.text?
  let workflowName ← Document.required fs "workflow_name" Document.text?
  let finalState ← Document.defaulted fs "final_state" {}
    (Document.orNull {} Snapshot.ofDocument?)
  let status ← Document.optional fs "status" Document.text?
  let error ← Document.optional fs "error" Document.text?
  return ⟨id, workflowName, finalState, status, error⟩

/-- The record as an object; what is absent is null. -/
def toJson (r : HistoricalRun) : Json :=
  .obj [("id", .ofText? r.id), ("workflow_name", .str r.workflowName),
    ("final_state", r.finalState.toJson), ("status", .ofText? r.status),
    ("error", .ofText? r.error)]

end HistoricalRun

/-- What the runtime says after a change it was asked for. -/
structure Acknowledgement where
  /-- Its words. -/
  message : String := ""
  deriving DecidableEq

namespace Acknowledgement

/-- Reads an acknowledgement. -/
def ofDocument? (d : Document) : Option Acknowledgement := do
  let fs ← d.fields? ["message"]
  let message ← Document.defaulted fs "message" "" Document.text?
  return ⟨message⟩

/-- The acknowledgement as an object. -/
def toJson (a : Acknowledgement) : Json := .obj [("message", .str a.message)]

end Acknowledgement

end AgentWorkflow
