import AgentWorkflow.Definition
import AgentWorkflow.Run

/-!
# The agent runtime

What this library can ask of the program that executes workflows. A runtime is
any six functions that answer these questions; each takes whatever the runtime
is made of, and gives it back changed. A runtime in memory is made of its
contents, a runtime over a network of the connection. Whoever asks does not
see the difference, and every failure is an answer like any other.
-/

namespace AgentWorkflow

/-- A runtime made of values of `σ`. -/
structure AgentRuntime (σ : Type) where
  /-- The definition stored under a name. -/
  fetchDefinition (name : String) : σ → Except Error Definition × σ
  /-- The live runs, in the runtime's order. -/
  fetchActive : σ → Except Error (List ActiveInstance) × σ
  /-- The latest finished runs, at most so many, the latest first. -/
  fetchHistory (limit : Nat) : σ → Except Error (List RunSummary) × σ
  /-- One finished run. -/
  fetchRun (runId : String) : σ → Except Error HistoricalRun × σ
  /-- Stores a definition under a name. -/
  saveDefinition (name : String) (definition : Definition) : σ → Except Error Acknowledgement × σ
  /-- Releases the gate that holds a run. -/
  approveGate (requestId : String) : σ → Except Error Acknowledgement × σ

end AgentWorkflow
