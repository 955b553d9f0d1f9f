import AgentWorkflow.Error
import AgentWorkflow.Event

/-!
# Approvals

The gate that waits for the operator, and the gates the operator has answered.
One run may pass several gates under its one request id, so an answer belongs
to the pair of both. A runtime may go on reporting a gate after it was
answered; such a gate is never asked about again.

At most one gate waits at a time. A new one takes the place of the old one,
which is then reported as cleared.
-/

namespace AgentWorkflow

/-- The gate that waits, and those that were answered. Nothing is kept for the log,
which mentions an answered gate only the first time that a run still reports it: no
answer and no event depends on what it has mentioned. -/
structure Approvals where
  /-- The gate that waits. -/
  outstanding : Option ApprovalRequest := none
  /-- The run and node of every gate that was answered. -/
  resolved : List (String × String) := []

/-- What becomes of a gate that a run reports. -/
inductive Offer where
  /-- It waits from now on. -/
  | issued
  /-- It waits already. -/
  | alreadyOutstanding
  /-- It was answered before. -/
  | alreadyResolved
  deriving DecidableEq

namespace Approvals

/-- Whether a gate was answered. -/
def isResolved (a : Approvals) (requestId nodeId : String) : Bool :=
  a.resolved.contains (requestId, nodeId)

/-- Whether a gate is the one that waits. -/
def isOutstanding (a : Approvals) (r : ApprovalRequest) : Bool :=
  a.outstanding.any fun current => current.gate = r.gate

/-- **Nobody answers the gate that waits**: it is dropped and reported as
cleared. -/
def clear (a : Approvals) : Publishing Approvals :=
  match a.outstanding with
  | none => pure a
  | some r => do
    Publishing.publish (.approvalCleared r.requestId)
    return { a with outstanding := none }

/-- **A run reports a gate.** -/
def offer (a : Approvals) (r : ApprovalRequest) : Publishing (Approvals × Offer) :=
  if a.isOutstanding r then return (a, .alreadyOutstanding)
  else if a.isResolved r.requestId r.nodeId then return (a, .alreadyResolved)
  else do
    let a ← a.clear
    Publishing.publish (.approvalRequested r)
    return ({ a with outstanding := some r }, .issued)

/-- The gate that waits, if it belongs to a given run. -/
def get (a : Approvals) (requestId : String) : Except Error ApprovalRequest :=
  match a.outstanding with
  | some r => if r.requestId = requestId then .ok r else .error (.noOutstandingApproval requestId)
  | none => .error (.noOutstandingApproval requestId)

/-- **The operator answers** the gate that waits in a given run. -/
def resolve (a : Approvals) (requestId : String) (approved : Bool) :
    Except Error (Publishing (Approvals × ApprovalRequest)) := do
  let r ← a.get requestId
  return do
    Publishing.publish (.approvalResolved requestId approved)
    return ({ outstanding := none, resolved := r.gate :: a.resolved }, r)

/-- Drops the gate that waits and tells nobody. -/
def discard (a : Approvals) : Approvals := { a with outstanding := none }

end Approvals

end AgentWorkflow
