import AgentWorkflow.Http

/-!
# Links that wait

A computation that sends requests runs to its end at once, and the network
takes its time. A `Replay` joins the two: it knows the answers to the first
requests, and notes the first one whose answer it does not know. Whoever runs
the computation finds that answer and runs the computation again, until nothing
is noted.
-/

namespace AgentWorkflow.Http

/-- Answers that are known, and the first request that they do not reach. -/
structure Replay where
  /-- The answers to the next requests. -/
  answers : List Answer
  /-- The first request without one. -/
  pending : Option Request := none

namespace Replay

/-- **Answers a request** if its answer is known. No request behind the first
unanswered one matters. -/
def link : Link Replay := fun request s =>
  match s.pending, s.answers with
  | none, answer :: answers => (answer, { s with answers })
  | none, [] => (.lost, { s with pending := some request })
  | some _, _ => (.lost, s)

end Replay

end AgentWorkflow.Http
