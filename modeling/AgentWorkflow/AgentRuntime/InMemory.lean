import AgentWorkflow.AgentRuntime

/-!
# A runtime in memory

A runtime that answers from what it was given, and remembers what it was asked.
It stands in for the real one wherever none is at hand, and what it remembers
tells whether anybody asked for more than they should have.

The live runs it reports come from a script: each answer in the script is
given once, and when the script has run out the same standing answer is given
every time.
-/

namespace AgentWorkflow

/-- What a runtime in memory is made of. -/
structure InMemory where
  /-- The stored definitions. -/
  definitions : List (String × Definition) := []
  /-- The next answers about live runs: the runs, or the text of a failure. -/
  script : List (Except String (List ActiveInstance)) := []
  /-- The live runs when the script has run out. -/
  standing : List ActiveInstance := []
  /-- The finished runs. -/
  runs : List (String × HistoricalRun) := []
  /-- The history, the latest run first. -/
  history : List RunSummary := []
  /-- Whether gates refuse to be released. -/
  refusesApprovals : Bool := false
  /-- The runs whose gates were released, in order. -/
  approved : List String := []
  /-- The definitions that were saved, in order. -/
  saved : List (String × Definition) := []
  /-- The definitions that were asked for, in order. -/
  requestedDefinitions : List String := []
  /-- How often the live runs were asked for. -/
  activeRequests : Nat := 0

namespace InMemory

/-- Stores a definition, in place of an earlier one of the same name. -/
def addDefinition (m : InMemory) (name : String) (definition : Definition) : InMemory :=
  { m with definitions := (name, definition) :: m.definitions }

/-- Stores a finished run, in place of an earlier one of the same id. -/
def addRun (m : InMemory) (runId : String) (run : HistoricalRun) : InMemory :=
  { m with runs := (runId, run) :: m.runs }

/-- Adds an answer about live runs to the script. -/
def addToScript (m : InMemory) (answer : Except String (List ActiveInstance)) : InMemory :=
  { m with script := m.script ++ [answer] }

/-- The failure of a runtime that does not have what it was asked for. -/
def notFound (what : String) : Error := .transport ("HTTP 404: " ++ what ++ " not found")

/-- **The answers of a runtime in memory.** -/
def runtime : AgentRuntime InMemory where
  fetchDefinition name m :=
    ((m.definitions.lookup name).elim (.error (notFound name)) .ok,
      { m with requestedDefinitions := m.requestedDefinitions ++ [name] })
  fetchActive m :=
    let m := { m with activeRequests := m.activeRequests + 1 }
    match m.script with
    | [] => (.ok m.standing, m)
    | answer :: script => (answer.mapError .transport, { m with script })
  fetchHistory limit m := (.ok (m.history.take limit), m)
  fetchRun runId m := ((m.runs.lookup runId).elim (.error (notFound ("run " ++ runId))) .ok, m)
  saveDefinition name definition m :=
    (.ok ⟨"Workflow '" ++ name ++ "' saved"⟩,
      { m with saved := m.saved ++ [(name, definition)] })
  approveGate requestId m :=
    if m.refusesApprovals then (.error (.transport "HTTP 500: approve failed"), m)
    else (.ok ⟨"Approved " ++ requestId⟩, { m with approved := m.approved ++ [requestId] })

end InMemory

end AgentWorkflow
