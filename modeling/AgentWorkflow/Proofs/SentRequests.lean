import AgentWorkflow.AgentRuntime.Http
import AgentWorkflow.Proofs.AtomicAnswers

/-!
# What is sent to a server

A runtime over HTTP turns questions into requests. Which requests these are cannot be
read off its answers, since a question that is refused may look like one that failed on
the way. So the requests are recorded where they arrive: `Http.Link.recorded` is a link
that answers like a given one and, beside it, writes down every request
(`Http.put_recorded`).

A question is put in one of six ways, and an answer to it is of one of six types. What
they have in common is that they may fail, so `AgentRuntime.put` keeps of an answer only
the failure.
-/

namespace AgentWorkflow

variable {σ : Type}

/-- What went wrong, if anything did. -/
def failure? {α : Type} : Except Error α → Option Error
  | .ok _ => none
  | .error e => some e

/-- **A question is put**: how it fails, if it does, and what the runtime is made of
afterwards. -/
def AgentRuntime.put (rt : AgentRuntime σ) (s : σ) : Question → Option Error × σ
  | .definition name => (rt.fetchDefinition name s).map failure? id
  | .live => (rt.fetchActive s).map failure? id
  | .history limit => (rt.fetchHistory limit s).map failure? id
  | .finished runId => (rt.fetchRun runId s).map failure? id
  | .storage name definition => (rt.saveDefinition name definition s).map failure? id
  | .release requestId => (rt.approveGate requestId s).map failure? id

/-- To ask for the live runs is one way to put a question. -/
theorem AgentRuntime.put_live (rt : AgentRuntime σ) (s : σ) :
    (rt.put s .live).1 = failure? (rt.fetchActive s).1 := rfl

namespace Http

/-- **A link that keeps a record** of the requests it carries, the earliest first. -/
def Link.recorded (link : Link σ) : Link (σ × List Request) := fun request s =>
  ((link request s.1).1, (link request s.1).2, s.2 ++ [request])

/-- **What is sent** when a question is put. -/
def sent (config : RuntimeConfig) (link : Link σ) (s : σ) (q : Question) : List Request :=
  ((runtime config (Link.recorded link)).put (s, []) q).2.2

/-- **The request that a question becomes**, if one can be made. -/
def requestFor (config : RuntimeConfig) : Question → Except Error Request
  | .definition name =>
    (checkWorkflowName name).bind fun _ =>
      get config "fetch definition" ("/api/workflows/definition/" ++ segment name)
  | .live => get config "fetch active" "/api/workflows/active"
  | .history limit =>
    get config "fetch history" "/api/workflows/history" (·.withPair "limit" (toString limit))
  | .finished runId => get config "fetch run" ("/api/workflows/history/" ++ segment runId)
  | .storage name definition =>
    (checkWorkflowName name).bind fun _ =>
      post config "save definition" "/api/workflows/save"
        (.obj [("name", .str name), ("definition", definition.toJson)])
  | .release requestId =>
    post config "approve gate" "/api/gate/approve" (.obj [("request_id", .str requestId)])

variable {α : Type}

/-- An exchange beside a record is what it is without one, and a request that was made is
written down. -/
theorem exchange_recorded (link : Link σ) (what : String) (read : String → Option α)
    (made : Except Error Request) (s : σ) (log : List Request) :
    exchange (Link.recorded link) what read made (s, log)
      = ((exchange link what read made s).1, (exchange link what read made s).2,
          log ++ made.toOption.toList) := by
  cases made with
  | error e => exact congrArg (fun log => (Except.error e, s, log)) (List.append_nil log).symm
  | ok request => rfl

/-- **A record does not disturb what it records**: a question put beside it is answered as
it would be, and the request that it becomes is written down. -/
theorem put_recorded (config : RuntimeConfig) (link : Link σ) (s : σ) (q : Question)
    (log : List Request) :
    (runtime config (Link.recorded link)).put (s, log) q
      = (((runtime config link).put s q).1, ((runtime config link).put s q).2,
          log ++ (requestFor config q).toOption.toList) := by
  have refused (e : Error) : (some e, s, log) = (some e, s, log ++ ([] : List Request)) := by
    rw [List.append_nil]
  cases q with
  | definition name =>
    cases checked : checkWorkflowName name with
    | error e =>
      simp only [AgentRuntime.put, runtime, requestFor, checked]
      exact refused e
    | ok =>
      simp only [AgentRuntime.put, runtime, requestFor, checked, exchange_recorded, Prod.map,
        Except.bind, id]
  | storage name definition =>
    cases checked : checkWorkflowName name with
    | error e =>
      simp only [AgentRuntime.put, runtime, requestFor, checked]
      exact refused e
    | ok =>
      simp only [AgentRuntime.put, runtime, requestFor, checked, exchange_recorded, Prod.map,
        Except.bind, id]
  | live | history | finished | release =>
    simp only [AgentRuntime.put, runtime, requestFor, exchange_recorded, Prod.map, id]

/-- **A question fails as its exchange does**, the one for the live runs apart, which are made
of what was read. -/
theorem exists_put_eq_exchange (config : RuntimeConfig) (link : Link σ) (s : σ) {q : Question}
    (other : q ≠ .live) :
    ∃ (α : Type) (what : String) (read : String → Option α),
      ((runtime config link).put s q).1
        = failure? (exchange link what read (requestFor config q) s).1 := by
  cases q with
  | live => exact absurd rfl other
  | definition name =>
    refine ⟨_, "fetch definition", record Definition.ofDocument?, ?_⟩
    cases checked : checkWorkflowName name <;>
      simp only [AgentRuntime.put, runtime, requestFor, checked, Prod.map, Except.bind, exchange]
  | storage name definition =>
    refine ⟨_, "save definition", record Acknowledgement.ofDocument?, ?_⟩
    cases checked : checkWorkflowName name <;>
      simp only [AgentRuntime.put, runtime, requestFor, checked, Prod.map, Except.bind, exchange]
  | history limit =>
    refine ⟨_, "fetch history", record (Document.list? RunSummary.ofDocument?), ?_⟩
    simp only [AgentRuntime.put, runtime, requestFor, Prod.map]
  | finished runId =>
    refine ⟨_, "fetch run", record HistoricalRun.ofDocument?, ?_⟩
    simp only [AgentRuntime.put, runtime, requestFor, Prod.map]
  | release requestId =>
    refine ⟨_, "approve gate", record Acknowledgement.ofDocument?, ?_⟩
    simp only [AgentRuntime.put, runtime, requestFor, Prod.map]

/-- **What is sent is the request that the question becomes**, whatever the link answers. -/
theorem sent_eq (config : RuntimeConfig) (link : Link σ) (s : σ) (q : Question) :
    sent config link s q = (requestFor config q).toOption.toList := by
  unfold sent
  rw [put_recorded]
  rfl

end Http

end AgentWorkflow
