import AgentWorkflow.AgentRuntime
import AgentWorkflow.Graph.Layout
import AgentWorkflow.Graph.RoundTrip
import AgentWorkflow.Session

/-!
# The monitor

The monitor keeps a session up to date by asking a runtime. Each tick asks for
the live runs, makes sure that the graph of the first one is shown, and hands
its snapshot to the session.

**Definitions.** A run names the definition it executes. One that cannot be
fetched is replaced by the default definition, and asked for again on the next
tick.

**Failures.** A tick that fails leaves the session as it was and the next one
tries again. The observers are told once that the runtime cannot be reached,
and once that it can be reached again.

**Answers.** A gate is released by the runtime first and counts as answered
only then, so that a failure leaves it waiting. A denial is nobody's business
but the operator's, and the runtime is not told.
-/

namespace AgentWorkflow

/-- A session that is kept up to date. Nothing is kept for the log, which warns of a
missing definition only the first time in a row: what is asked, shown and published
does not depend on what it has warned of. -/
structure Monitor where
  /-- The node types graphs are built from. -/
  registry : Registry
  /-- How runs are polled. -/
  sync : SyncConfig
  /-- The distances of the layout. -/
  layout : LayoutConfig
  /-- Whether a graph that does not survive writing and reading is refused. -/
  strictRoundTrip : Bool
  /-- What the operator sees. -/
  session : Session
  /-- The definition that was fetched last. -/
  requested : Option String := none
  /-- Whether the last poll failed. -/
  degraded : Bool := false

/-- What a tick found. -/
inductive TickOutcome where
  /-- No live run is watched. -/
  | inactive
  /-- The runtime reports no live run. -/
  | empty
  /-- The first live run was handed to the session. -/
  | applied (outcome : ApplyOutcome)
  /-- The runtime could not be reached. -/
  | degraded
  deriving DecidableEq

/-- What uses a runtime made of `σ` and publishes events. -/
abbrev Asking (σ : Type) := StateT σ Publishing

/-- Asks the runtime one thing. -/
def Asking.ask {σ α : Type} (question : σ → α × σ) : Asking σ α := fun s => pure (question s)

namespace Monitor

variable {σ : Type}

/-- The monitor of a configuration. -/
def ofConfig (config : AppConfig) : Monitor where
  registry := Registry.ofConfig config
  sync := config.sync
  layout := config.layout
  strictRoundTrip := config.editor.strictRoundTrip
  session := { gateType := config.sync.gateType }

/-- Notes that the runtime cannot be reached. -/
def degrade (m : Monitor) (e : Error) : Publishing Monitor :=
  if m.degraded then return m
  else do
    Publishing.publish (.connectionDegraded e.message)
    return { m with degraded := true }

/-- Notes that the runtime can be reached. -/
def restore (m : Monitor) : Publishing Monitor :=
  if m.degraded then do
    Publishing.publish .connectionRestored
    return { m with degraded := false }
  else return m

/-! ## Definitions -/

/-- The graph of a definition, laid out if it can be. -/
def report (m : Monitor) (definition : Definition) : Graph.Report :=
  let built := Graph.build m.registry definition
  match built.graph.layout m.layout with
  | .ok layout => { built with graph := built.graph.applyLayout layout }
  | .error _ => built

/-- Shows a definition that was fetched. -/
def display (m : Monitor) (name : String) (definition : Definition) : Publishing Monitor := do
  let session ← m.session.loadDefinition name (m.report definition)
  return { m with session, requested := some name }

/-- **Makes sure that a definition is shown**, or the default one in its
place. Tells whether another graph is shown than before. -/
def ensureDefinition (rt : AgentRuntime σ) (m : Monitor) (name : String) :
    Asking σ (Monitor × Except Error Bool) := do
  let fallback := m.sync.defaultWorkflow
  if m.requested = some name ∧ m.session.definitionName.isSome then return (m, .ok false)
  match ← Asking.ask (rt.fetchDefinition name) with
  | .ok definition => return (← m.display name definition, .ok true)
  | .error e =>
    if name = fallback then return (m, .error e)
    if m.session.definitionName = some fallback then return (m, .ok false)
    match ← Asking.ask (rt.fetchDefinition fallback) with
    | .ok definition => return (← m.display fallback definition, .ok true)
    | .error e => return (m, .error e)

/-! ## Watching -/

/-- **Starts watching** live runs, with the default definition until a run
says otherwise. -/
def start (rt : AgentRuntime σ) (m : Monitor) : Asking σ Monitor := do
  let session ← m.session.startPolling
  match ← ensureDefinition rt { m with session } m.sync.defaultWorkflow with
  | (m, .ok _) => return m
  | (m, .error e) => m.degrade e

/-- Stops watching. -/
def stop (m : Monitor) : Publishing Monitor := do
  return { m with session := ← m.session.stopPolling }

/-- Shows nothing any more. -/
def dispose (m : Monitor) : Publishing Monitor := do
  return { m with session := ← m.session.dispose, requested := none, degraded := false }

/-- **Polls once.** Only the first live run matters. -/
def tick (rt : AgentRuntime σ) (m : Monitor) : Asking σ (Monitor × TickOutcome) := do
  if !m.session.isPolling then return (m, .inactive)
  let ticket := m.session.beginFetch
  match ← Asking.ask rt.fetchActive with
  | .error e => return (← m.degrade e, .degraded)
  | .ok active =>
    let m ← m.restore
    match active with
    | [] => return ({ m with session := ← m.session.clearInstance }, .empty)
    | run :: _ =>
      match ← ensureDefinition rt m (run.snapshot.workflowName.getD m.sync.defaultWorkflow) with
      | (m, .error e) => return (← m.degrade e, .degraded)
      | (m, .ok _) =>
        let (session, outcome) ← m.session.applySnapshot ticket run.requestId run.snapshot
        return ({ m with session }, .applied outcome)

/-- Polls so many times, then stops watching. -/
def run (rt : AgentRuntime σ) (m : Monitor) : Nat → Asking σ Monitor
  | 0 => m.stop
  | ticks + 1 => do
    let (m, _) ← tick rt m
    run rt m ticks

/-! ## Finished runs -/

/-- **Shows how a finished run ended.** Watching stops; if the run failed, the
nodes where it may have stopped are marked. -/
def loadHistoricalRun (rt : AgentRuntime σ) (m : Monitor) (runId : String) :
    Asking σ (Monitor × Except Error HistoricalRun) := do
  let session ← m.session.loadHistorical runId
  let ticket := session.beginFetch
  let m := { m with session }
  match ← Asking.ask (rt.fetchRun runId) with
  | .error e => return (m, .error e)
  | .ok run =>
    match ← ensureDefinition rt m run.workflowName with
    | (m, .error e) => return (m, .error e)
    | (m, .ok _) =>
      let (session, outcome) ← m.session.applySnapshot ticket runId run.finalState
      if outcome ≠ .discarded ∧ run.isFailed then
        let (session, _) ← session.markFailedFrontier run.finalState
        return ({ m with session }, .ok run)
      return ({ m with session }, .ok run)

/-- The latest finished runs, as many as are configured. -/
def fetchHistory (rt : AgentRuntime σ) (m : Monitor) : Asking σ (Except Error (List RunSummary)) :=
  Asking.ask (rt.fetchHistory m.sync.historyLimit)

/-! ## Changes -/

/-- Records an answer to the gate that waits. -/
def completeApproval (m : Monitor) (requestId : String) (approved : Bool) :
    Publishing (Monitor × Except Error Unit) :=
  match m.session.completeApproval requestId approved with
  | .error e => return (m, .error e)
  | .ok completed => do
    let (session, _) ← completed
    return ({ m with session }, .ok ())

/-- **Answers the gate that waits** in a run. An approval says what the runtime
said to it. -/
def submitApproval (rt : AgentRuntime σ) (m : Monitor) (requestId : String) (approved : Bool) :
    Asking σ (Monitor × Except Error (Option Acknowledgement)) := do
  match m.session.beginApproval requestId with
  | .error e => return (m, .error e)
  | .ok _ =>
    if approved then
      match ← Asking.ask (rt.approveGate requestId) with
      | .error e => return (m, .error e)
      | .ok acknowledgement =>
        let (m, completed) ← m.completeApproval requestId true
        return (m, completed.map fun _ => some acknowledgement)
    else
      let (m, completed) ← m.completeApproval requestId false
      return (m, completed.map fun _ => none)

/-- **Saves the graph that is shown** under a name. -/
def save (rt : AgentRuntime σ) (m : Monitor) (name : String) :
    Asking σ (Except Error Acknowledgement) :=
  match m.session.graph.verifyRoundTrip m.registry, m.strictRoundTrip with
  | .error e, true => return .error e
  | _, _ => Asking.ask (rt.saveDefinition name m.session.graph.toDefinition)

end Monitor

end AgentWorkflow
