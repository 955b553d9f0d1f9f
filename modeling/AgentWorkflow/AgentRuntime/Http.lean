import AgentWorkflow.AgentRuntime
import AgentWorkflow.Config
import AgentWorkflow.Definition.Json
import AgentWorkflow.Http
import AgentWorkflow.Json.Parser
import AgentWorkflow.Json.Printer
import AgentWorkflow.WorkflowName

/-!
# A runtime over HTTP

The six questions as requests to a server, and its answers as results. Ids and
names become single segments of the path. The requests that change something
carry the operator's authorization.

Whatever goes wrong with a request is a `transport` error that begins with what
was asked for: an address nothing can be sent to, an answer that never came, a
status that does not tell of success, a body that is not what it should be. Two
things are refused with other errors: a name that no definition can have is
refused before a request is made, and live runs that are JSON but not runs are
refused as JSON.
-/

namespace AgentWorkflow

namespace Http

variable {σ α : Type}

/-- A failure of what was asked for. -/
def failure (what detail : String) : Error := .transport (what ++ ": " ++ detail)

/-- The failure of a request that cannot be made. -/
def unsendable (what : String) (url? : Option Url) : Error :=
  failure what ("builder error" ++ (url?.map fun u => " for url (" ++ u.text ++ ")").getD "")

/-- **A request for an address**, if one can be made: it needs a host, a scheme
that requests can be sent over, and an authorization that fits in a header. -/
def makeRequest (what address : String) (extend : Url → Url) (method : Method)
    (authorization body : Option String) : Except Error Request :=
  match Url.parse? address with
  | none => .error (unsendable what none)
  | some url =>
    if !url.hasHost then .error (unsendable what (some url))
    else if !authorization.all isHeaderValue then .error (unsendable what none)
    else
      let url := extend url
      if ["http", "https"].contains url.scheme then .ok ⟨method, url, authorization, body⟩
      else .error (unsendable what (some url))

/-- The result of a request, from its answer. -/
def readAnswer (what : String) (url : Url) (read : String → Option α) : Answer → Except Error α
  | .lost => .error (failure what ("error sending request for url (" ++ url.text ++ ")"))
  | .response status body =>
    if isSuccess status then
      match (Utf8.text? body).bind read with
      | some a => .ok a
      | none => .error (failure what "invalid response body: error decoding response body")
    else
      .error (failure what
        ("HTTP " ++ statusText status ++ ": " ++ String.ofList (Utf8.shown body)))

/-- **Sends a request and reads its answer.** What cannot be sent is not. -/
def exchange (link : Link σ) (what : String) (read : String → Option α) :
    Except Error Request → σ → Except Error α × σ
  | .error e, s => (.error e, s)
  | .ok request, s =>
    let (answer, s) := link request s
    (readAnswer what request.url read answer, s)

/-- Reads a record out of a body. -/
def record (read : Document → Option α) (body : String) : Option α :=
  (Document.parse? body).bind read

/-- A text as one segment of a path. -/
def segment (s : String) : String := String.ofList (Percent.encode Percent.isUnreserved s.toList)

/-- The address that all paths are appended to. -/
def baseAddress (config : RuntimeConfig) : String :=
  String.ofList (config.baseUrl.toList.reverse.dropWhile (· = '/')).reverse

/-- A request that asks. -/
def get (config : RuntimeConfig) (what path : String) (extend : Url → Url := id) :
    Except Error Request :=
  makeRequest what (baseAddress config ++ path) extend .get none none

/-- A request that changes something. -/
def post (config : RuntimeConfig) (what path : String) (body : Json) : Except Error Request :=
  makeRequest what (baseAddress config ++ path) id .post config.apiKey (some body.compact)

/-- **The runtime behind a link.** -/
def runtime (config : RuntimeConfig) (link : Link σ) : AgentRuntime σ where
  fetchDefinition name s :=
    match checkWorkflowName name with
    | .error e => (.error e, s)
    | .ok () =>
      let what := "fetch definition"
      exchange link what (record Definition.ofDocument?)
        (get config what ("/api/workflows/definition/" ++ segment name)) s
  fetchActive s :=
    let what := "fetch active"
    let (active, s) := exchange link what Json.parse? (get config what "/api/workflows/active") s
    (active.bind ActiveInstance.parseAll, s)
  fetchHistory limit s :=
    let what := "fetch history"
    exchange link what (record (Document.list? RunSummary.ofDocument?))
      (get config what "/api/workflows/history" (·.withPair "limit" (toString limit))) s
  fetchRun runId s :=
    let what := "fetch run"
    exchange link what (record HistoricalRun.ofDocument?)
      (get config what ("/api/workflows/history/" ++ segment runId)) s
  saveDefinition name definition s :=
    match checkWorkflowName name with
    | .error e => (.error e, s)
    | .ok () =>
      let what := "save definition"
      exchange link what (record Acknowledgement.ofDocument?)
        (post config what "/api/workflows/save"
          (.obj [("name", .str name), ("definition", definition.toJson)])) s
  approveGate requestId s :=
    let what := "approve gate"
    exchange link what (record Acknowledgement.ofDocument?)
      (post config what "/api/gate/approve" (.obj [("request_id", .str requestId)])) s

end Http

end AgentWorkflow
