import AgentWorkflow.Json.Record

/-!
# Events

Everything the operator's surfaces are told while a run is watched: where the
session stands, which definition is shown, which nodes have run, and what
becomes of the gate that waits for an answer.

The operations of this library do not send events anywhere. They return them,
in order, beside what they compute (`Publishing`), so that what an operation
says is part of what it does.
-/

namespace AgentWorkflow

/-- Where a session stands. -/
inductive SessionState where
  /-- Nothing is shown. -/
  | idle
  /-- A live run is watched. -/
  | polling
  /-- A live run is watched and one of its gates waits for the operator. -/
  | gateActive
  /-- Something is shown and nothing is watched. -/
  | stopped
  deriving DecidableEq

namespace SessionState

/-- The state in a word. -/
def name : SessionState → String
  | idle => "idle"
  | polling => "polling"
  | gateActive => "gate_active"
  | stopped => "stopped"

/-- Reads a state. -/
def ofDocument? (d : Document) : Option SessionState :=
  d.name?.bind fun s => [idle, polling, gateActive, stopped].find? fun state => state.name = s

/-- The state as a string. -/
def toJson (s : SessionState) : Json := .str s.name

end SessionState

/-- What a session looks at. -/
inductive ViewMode where
  /-- The run that is going on. -/
  | live
  /-- A finished run. -/
  | historical (runId : String)
  deriving DecidableEq

namespace ViewMode

/-- Reads a mode: an object whose member `mode` says which one it is, or an
array that begins with that word. The other members do not matter, but they
must stand for values. -/
def ofDocument? : Document → Option ViewMode
  | .obj members => do
    let fs ← (Document.obj members).fields? ["mode"]
    let mode ← Document.required fs "mode" Document.text?
    let others := members.filter fun m => m.1 != "mode"
    let _ ← Document.membersToJson? others
    match mode with
    | "live" => return live
    | "historical" =>
      let fs ← (Document.obj others).fields? ["run_id"]
      return historical (← Document.required fs "run_id" Document.text?)
    | _ => none
  | .arr [.str "live"] => some live
  | .arr [.str "historical", .str runId] => some (historical runId)
  | _ => none

/-- The mode as an object. -/
def toJson : ViewMode → Json
  | live => .obj [("mode", .str "live")]
  | historical runId => .obj [("mode", .str "historical"), ("run_id", .str runId)]

end ViewMode

/-- A gate that waits for the operator. -/
structure ApprovalRequest where
  /-- The run. -/
  requestId : String
  /-- The gate. -/
  nodeId : String
  /-- What the gate holds back. -/
  toolCall : Json

namespace ApprovalRequest

/-- The run and the gate, which together say which answer is asked for. -/
def gate (r : ApprovalRequest) : String × String := (r.requestId, r.nodeId)

/-- Reads a request. -/
def ofDocument? (d : Document) : Option ApprovalRequest := do
  let fs ← d.fields? ["request_id", "node_id", "tool_call"]
  let requestId ← Document.required fs "request_id" Document.text?
  let nodeId ← Document.required fs "node_id" Document.text?
  let toolCall ← Document.required fs "tool_call" Document.toJson?
  return ⟨requestId, nodeId, toolCall⟩

/-- The request as an object. -/
def toJson (r : ApprovalRequest) : Json :=
  .obj [("request_id", .str r.requestId), ("node_id", .str r.nodeId), ("tool_call", r.toolCall)]

end ApprovalRequest

/-- Something a session tells its observers. -/
inductive Event where
  /-- The session went from one state to another. -/
  | stateChanged (former current : SessionState)
  /-- A definition is shown, with so many nodes, edges and faults. -/
  | definitionLoaded (name : String) (nodes edges diagnostics : Nat)
  /-- Other nodes than before count as executed. -/
  | statusesChanged (requestId : Option String) (executed : List String)
  /-- A gate waits for the operator. -/
  | approvalRequested (request : ApprovalRequest)
  /-- The operator has answered a gate. -/
  | approvalResolved (requestId : String) (approved : Bool)
  /-- A gate no longer waits, and nobody has answered it. -/
  | approvalCleared (requestId : String)
  /-- The runtime cannot be reached. -/
  | connectionDegraded (detail : String)
  /-- The runtime can be reached again. -/
  | connectionRestored

/-- A value, and what is published on the way to it. -/
structure Publishing (α : Type) where
  /-- The value. -/
  value : α
  /-- The events, in order. -/
  events : List Event := []

namespace Publishing

variable {α β : Type}

/-- What one computation publishes, then what the next one does. -/
def andThen (p : Publishing α) (next : α → Publishing β) : Publishing β :=
  ⟨(next p.value).value, p.events ++ (next p.value).events⟩

instance : Monad Publishing where
  pure a := ⟨a, []⟩
  bind := andThen

/-- Publishes one event. -/
def publish (e : Event) : Publishing Unit := ⟨(), [e]⟩

@[simp] theorem value_pure (a : α) : (pure a : Publishing α).value = a := rfl

@[simp] theorem events_pure (a : α) : (pure a : Publishing α).events = [] := rfl

@[simp] theorem value_bind (p : Publishing α) (next : α → Publishing β) :
    (p >>= next).value = (next p.value).value := rfl

@[simp] theorem events_bind (p : Publishing α) (next : α → Publishing β) :
    (p >>= next).events = p.events ++ (next p.value).events := rfl

@[simp] theorem value_publish (e : Event) : (publish e).value = () := rfl

@[simp] theorem events_publish (e : Event) : (publish e).events = [e] := rfl

end Publishing

end AgentWorkflow
