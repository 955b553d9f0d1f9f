import AgentWorkflow.Approval
import AgentWorkflow.Graph.Build
import AgentWorkflow.Graph.Edit
import AgentWorkflow.Snapshot

/-!
# Sessions

A session shows a graph and what a run does to it. It does not talk to any
runtime: whoever polls hands the snapshots in, and the session decides what
changes, which gate waits, and what the observers are told.

**Epochs.** A poll takes time, and while it is on its way the operator may stop
watching, or turn to a finished run. Each such turn starts a new epoch. A poll
carries the ticket of the epoch it began in, and a snapshot whose ticket is out
of date is discarded.

**Signatures.** Nodes are marked anew only if the set of executed nodes differs
from the one marked last. Gates are looked for in every snapshot, since a gate
can be passed without any node being executed.
-/

namespace AgentWorkflow

/-- A view of one graph and of one run of it. -/
structure Session where
  /-- The type of the nodes that wait for the operator. -/
  gateType : String
  /-- Where the session stands. -/
  state : SessionState := .idle
  /-- What it looks at. -/
  mode : ViewMode := .live
  /-- The definition shown. -/
  definitionName : Option String := none
  /-- Its graph. -/
  graph : Graph := {}
  /-- What was wrong with it. -/
  diagnostics : List Error := []
  /-- The run that is watched. -/
  requestId : Option String := none
  /-- The executed nodes that were marked last. -/
  signature : Option String := none
  /-- The gate that waits, and those that were answered. -/
  approvals : Approvals := {}
  /-- How often a poll on its way has lost its meaning. -/
  epoch : Nat := 0

/-- The right to hand in a snapshot, given out when a poll begins. -/
structure FetchTicket where
  /-- The epoch in which the poll began. -/
  epoch : Nat
  /-- What the session looked at. -/
  mode : ViewMode
  deriving DecidableEq

/-- What a snapshot did to the gate that waits. -/
inductive GateChange where
  /-- Nothing. -/
  | unchanged
  /-- A gate waits that did not wait before. -/
  | requested
  /-- The gate that waited no longer does. -/
  | cleared
  deriving DecidableEq

/-- What a snapshot did. -/
inductive ApplyOutcome where
  /-- Nothing: its ticket was out of date, or nothing was shown. -/
  | discarded
  /-- It was taken over. The flag tells whether nodes were marked anew. -/
  | applied (statusesChanged : Bool) (gate : GateChange)
  deriving DecidableEq

namespace Session

/-- Whether a live run is watched. -/
def isPolling (s : Session) : Bool := s.state = .polling ∨ s.state = .gateActive

/-- Goes to a state, and says so unless the session stands there already. -/
def transition (s : Session) (state : SessionState) : Publishing Session :=
  if s.state = state then return s
  else do
    Publishing.publish (.stateChanged s.state state)
    return { s with state }

/-! ## What is watched -/

/-- **Watches live runs.** A gate shown before is dropped. -/
def startPolling (s : Session) : Publishing Session :=
  transition
    { s with
      epoch := s.epoch + 1
      mode := .live
      approvals := s.approvals.discard
      signature := none
      requestId := none } .polling

/-- **Stops watching.** What is shown stays, a gate that waits included. -/
def stopPolling (s : Session) : Publishing Session :=
  transition { s with epoch := s.epoch + 1 } .stopped

/-- **Shows nothing** and forgets everything, the answered gates included. -/
def dispose (s : Session) : Publishing Session :=
  transition { gateType := s.gateType, state := s.state, epoch := s.epoch + 1 } .idle

/-- **Turns to a finished run.** A gate that waits is cleared. -/
def loadHistorical (s : Session) (runId : String) : Publishing Session := do
  let approvals ← s.approvals.clear
  transition
    { s with
      epoch := s.epoch + 1
      approvals
      mode := .historical runId
      requestId := none
      signature := none } .stopped

/-- **Shows another graph.** -/
def loadDefinition (s : Session) (name : String) (report : Graph.Report) :
    Publishing Session := do
  Publishing.publish
    (.definitionLoaded name report.graph.nodes.length report.graph.edges.length
      report.diagnostics.length)
  return { s with
    graph := report.graph
    diagnostics := report.diagnostics
    definitionName := some name
    signature := none }

/-! ## Snapshots -/

/-- A ticket for a poll that begins now. -/
def beginFetch (s : Session) : FetchTicket := ⟨s.epoch, s.mode⟩

/-- Marks the executed nodes, and only them; the gate that waits stays marked
as such. -/
def markExecuted (s : Session) (snapshot : Snapshot) : Session :=
  let marked := snapshot.nodeOutputs.foldl
    (fun (g : Graph) output => g.updateNode output.1 fun n => n.setStatus .executed (some output.2))
    s.graph.resetStatuses
  let gated := match s.approvals.outstanding with
    | none => marked
    | some r => marked.updateNode r.nodeId fun n => { n with status := .gated }
  { s with graph := gated }

/-- Takes the gate mark off a node. -/
def ungate (s : Session) (nodeId : String) : Session :=
  { s with
    graph := s.graph.updateNode nodeId fun n =>
      if n.status = .gated then
        { n with status := if n.lastOutput?.isSome then .executed else .plain }
      else n }

/-- The gate at which a run waits: the node that ran last, if it is a gate of
the graph shown. -/
def waitingGate? (s : Session) (snapshot : Snapshot) : Option String := do
  let last ← snapshot.lastExecuted
  let node ← s.graph.node? last
  if node.bareType = s.gateType then return last else none

/-- The run has moved past the gate that waits, if one does. -/
def passGate (s : Session) : Publishing (Session × GateChange) :=
  match s.approvals.outstanding with
  | none => return (s, .unchanged)
  | some r => do
    let approvals ← s.approvals.clear
    let s ← transition (ungate { s with approvals } r.nodeId) .polling
    return (s, .cleared)

/-- Finds out which gate waits according to a snapshot. -/
def detectGate (s : Session) (requestId : String) (snapshot : Snapshot) :
    Publishing (Session × GateChange) :=
  match s.waitingGate? snapshot with
  | none => s.passGate
  | some nodeId => do
    let (approvals, offer) ← s.approvals.offer
      ⟨requestId, nodeId, (snapshot.output? nodeId).getD .null⟩
    match offer with
    | .issued =>
      let freed := match s.approvals.outstanding with
        | none => s
        | some former => s.ungate former.nodeId
      let s ← transition
        { freed with
          approvals
          graph := freed.graph.updateNode nodeId fun n => { n with status := .gated } }
        .gateActive
      return (s, .requested)
    | .alreadyOutstanding => return (s, .unchanged)
    | .alreadyResolved => s.passGate

/-- Turns to a run, unless it is watched already. -/
def watch (s : Session) (requestId : String) : Session :=
  if s.requestId = some requestId then s
  else { s with requestId := some requestId, signature := none }

/-- Marks nodes according to a snapshot of the run that is watched, unless the
same nodes were marked last; tells whether it did. -/
def applyStatuses (s : Session) (requestId : String) (snapshot : Snapshot) :
    Publishing (Session × Bool) :=
  if s.signature = some snapshot.signature then return (s, false)
  else do
    Publishing.publish (.statusesChanged (some requestId) snapshot.executedIds)
    return ({ s.markExecuted snapshot with signature := some snapshot.signature }, true)

/-- **Takes over a snapshot** of a run, if its ticket still holds. -/
def applySnapshot (s : Session) (ticket : FetchTicket) (requestId : String)
    (snapshot : Snapshot) : Publishing (Session × ApplyOutcome) :=
  if ticket ≠ s.beginFetch ∨ s.state = .idle then return (s, .discarded)
  else do
    let (s, statusesChanged) ← (s.watch requestId).applyStatuses requestId snapshot
    match s.mode with
    | .live =>
      let (s, gate) ← s.detectGate requestId snapshot
      return (s, .applied statusesChanged gate)
    | .historical _ => return (s, .applied statusesChanged .unchanged)

/-- **Where a failed run may have stopped**: the nodes that have not executed
although all they read have. As long as nothing has executed, only nodes that
read nothing qualify; afterwards only nodes that read something. -/
def failedFrontier (g : Graph) (snapshot : Snapshot) : List String :=
  let executed := snapshot.executedIds
  let stoppedAt (n : Graph.Node) : Bool :=
    !executed.contains n.id
      && (if executed.isEmpty then n.predecessors.isEmpty
        else !n.predecessors.isEmpty && n.predecessors.all executed.contains)
  (g.nodes.filter stoppedAt).map Graph.Node.id

/-- **Marks where a failed run may have stopped**, and tells at which nodes. -/
def markFailedFrontier (s : Session) (snapshot : Snapshot) :
    Publishing (Session × List String) :=
  match failedFrontier s.graph snapshot with
  | [] => return (s, [])
  | frontier => do
    Publishing.publish (.statusesChanged s.requestId snapshot.executedIds)
    let graph := s.graph.mapNodes fun n =>
      if frontier.contains n.id then n.setStatus .failed none else n
    return ({ s with graph }, frontier)

/-! ## Answers -/

/-- The gate that waits, if it belongs to a given run. -/
def beginApproval (s : Session) (requestId : String) : Except Error ApprovalRequest :=
  s.approvals.get requestId

/-- Watches on after a gate, if the session stood at one. -/
def resume (s : Session) : Publishing Session :=
  if s.state = .gateActive then s.transition .polling else return s

/-- **Records the operator's answer.** -/
def completeApproval (s : Session) (requestId : String) (approved : Bool) :
    Except Error (Publishing (Session × ApprovalRequest)) := do
  let resolved ← s.approvals.resolve requestId approved
  return do
    let (approvals, r) ← resolved
    let s ← resume (ungate { s with approvals } r.nodeId)
    return (s, r)

/-- **The run that was watched is gone.** -/
def clearInstance (s : Session) : Publishing Session :=
  match s.requestId with
  | none => return s
  | some _ => do
    let approvals ← s.approvals.clear
    let freed := match s.approvals.outstanding with
      | none => s
      | some r => s.ungate r.nodeId
    resume { freed with approvals, requestId := none }

end Session

end AgentWorkflow
