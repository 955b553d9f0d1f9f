import AgentWorkflow.AgentRuntime.Http
import AgentWorkflow.Cli.Command
import AgentWorkflow.Cli.Outcome
import AgentWorkflow.Cli.Wording
import AgentWorkflow.Config.Discovery
import AgentWorkflow.Config.Text
import AgentWorkflow.Definition.File
import AgentWorkflow.Graph.Json
import AgentWorkflow.Monitor

/-!
# Carrying out commands

Each command as a function from what it needs to its outcome. The commands on
files need the configuration and the definition; the others need a runtime and
change what it is made of. `execute` takes a whole command line: it finds the
configuration, lets the command line override it, and carries out the command.

**Validation** reports every fault it can find: those met while the graph is
built, a circle that prevents a layout, and whatever writing and reading would
lose. Only faults of the first kind fail it, and with `--strict` those of the
last kind.

**Watching** goes on until the operator interrupts it. How many polls that
leaves time for is not up to the command, so it is told.
-/

namespace AgentWorkflow.Cli

variable {σ : Type}

/-! ## Commands on files -/

/-- The graph of the definition in a file. -/
def buildFile (s : Surroundings) (registry : Registry) (file : String) :
    Except Failure Graph.Report :=
  match s.text? file with
  | none => .error (.loading file (.io "cannot be read"))
  | some text =>
    match Definition.ofFile file text with
    | .ok definition => .ok (Graph.build registry definition)
    | .error e => .error (.loading file e)

/-- Carries out a command on the graph of a file. -/
def onFile (s : Surroundings) (config : AppConfig) (file : String)
    (command : Graph.Report → Outcome) : Outcome :=
  match buildFile s (Registry.ofConfig config) file with
  | .ok report => command report
  | .error f => .fail f

/-- Shows a layout: a line for each column, or the place of each node. -/
def layout (config : AppConfig) (report : Graph.Report) (asJson : Bool) : Outcome :=
  match report.graph.layout config.layout with
  | .error e => .fail (.error e)
  | .ok l =>
    if asJson then
      .say [(Json.obj (l.placements.map fun p => (p.id, p.position.toJson))).pretty]
    else
      .say (l.columns.zipIdx.map fun (ids, rank) =>
        "rank " ++ toString rank ++ ": " ++ String.intercalate ", " ids)

/-- The fault that an attempt ends in. -/
def faultOf {α : Type} : Except Error α → List Error
  | .ok _ => []
  | .error e => [e]

/-- **Reports what is wrong with a definition.** -/
def validate (config : AppConfig) (file : String) (report : Graph.Report) (strict : Bool) :
    Outcome :=
  let g := report.graph
  let roundTrip := g.verifyRoundTrip (Registry.ofConfig config)
  let faults := report.diagnostics ++ faultOf (g.layout config.layout) ++ faultOf roundTrip
  let lines := (file ++ ": " ++ toString g.nodes.length ++ " nodes, "
      ++ toString g.edges.length ++ " edges") :: faults.map fun e => "  " ++ e.message
  if !report.isClean then .fail (.structuralProblems report.diagnostics.length) lines
  else
    match strict, roundTrip with
    | true, .error e => .fail (.error e) lines
    | _, _ => .say (lines ++ ["OK"])

/-- Writes a definition the way it would be saved. -/
def exportAs (report : Graph.Report) (format : Format) (path : Option String) : Outcome :=
  let definition := report.graph.toDefinition
  let text := match format with
    | .yaml => definition.toYamlText
    | .json => definition.toJsonText
  match path with
  | some path => { file := some (path, text) }
  | none => { output := text }

/-- Shows the configuration. -/
def showConfig (config : AppConfig) : Outcome :=
  match config.toTomlText? with
  | some text => .say [text]
  | none => .fail .unwritableConfig

/-! ## Commands on a runtime -/

/-- The monitor after so many polls. -/
def poll (rt : AgentRuntime σ) (m : Monitor) : Nat → Asking σ Monitor
  | 0 => return m
  | polls + 1 => do
    let (m, _) ← m.tick rt
    poll rt m polls

/-- Follows the first live run. -/
def watch (rt : AgentRuntime σ) (m : Monitor) (polls : Nat) (s : σ) : Outcome × σ :=
  let p := (do poll rt (← m.start rt) polls : Asking σ Monitor) s
  (.say (p.events.flatMap eventLines), p.value.2)

/-- Lists finished runs. -/
def history (rt : AgentRuntime σ) (limit : Nat) (s : σ) : Outcome × σ :=
  match rt.fetchHistory limit s with
  | (.ok [], s) => (.say ["No runs recorded yet."], s)
  | (.ok runs, s) => (.say (runs.flatMap runLines), s)
  | (.error e, s) => (.fail (.error e), s)

/-- Shows how a finished run ended. -/
def inspect (rt : AgentRuntime σ) (m : Monitor) (runId : String) (s : σ) : Outcome × σ :=
  match (m.loadHistoricalRun rt runId s).value with
  | ((_, .error e), s) => (.fail (.error e), s)
  | ((m, .ok run), s) =>
    (.say ((["Run " ++ runId ++ " (" ++ run.workflowName ++ "): " ++ run.status.getD "unknown"]
      ++ m.session.graph.nodes.map nodeLine) ++ run.error.toList.map ("error: " ++ ·)), s)

/-- Polls once, after the start. -/
def startAndPoll (rt : AgentRuntime σ) (m : Monitor) : Asking σ (Monitor × TickOutcome) := do
  let m ← m.start rt
  m.tick rt

/-- **Answers the gate that waits** in the first live run. -/
def approve (rt : AgentRuntime σ) (m : Monitor) (address : String) (requestId : Option String)
    (deny : Bool) (s : σ) : Outcome × σ :=
  match (startAndPoll rt m s).value with
  | ((_, .degraded), s) => (.fail (.unreachable address), s)
  | ((m, _), s) =>
    match requestId.or (m.session.approvals.outstanding.map ApprovalRequest.requestId) with
    | none => (.fail .noGateWaits, s)
    | some id =>
      match (m.submitApproval rt id (!deny) s).value with
      | ((_, .error e), s) => (.fail (.error e), s)
      | ((_, .ok (some acknowledgement)), s) => (.say [acknowledgement.message], s)
      | ((_, .ok none), s) => (.say ["Denied " ++ id ++ " (not sent to the runtime)"], s)

/-- Stores a definition at the runtime. -/
def save (rt : AgentRuntime σ) (m : Monitor) (name : String) (report : Graph.Report) (s : σ) :
    Outcome × σ :=
  let m := { m with session := (m.session.loadDefinition name report).value }
  match (m.save rt name s).value with
  | (.ok acknowledgement, s) => (.say [acknowledgement.message], s)
  | (.error e, s) => (.fail (.error e), s)

/-! ## Command lines -/

/-- **Carries out a command.** -/
def perform (surroundings : Surroundings) (link : Http.Link σ) (polls : Nat)
    (config : AppConfig) (command : Command) (s : σ) : Outcome × σ :=
  let rt := Http.runtime config.runtime link
  let monitor := Monitor.ofConfig config
  match command with
  | .layout file asJson => (onFile surroundings config file (layout config · asJson), s)
  | .validate file strict => (onFile surroundings config file (validate config file · strict), s)
  | .exportAs file format path => (onFile surroundings config file (exportAs · format path), s)
  | .watch => watch rt monitor polls s
  | .history limit => history rt (limit.getD config.sync.historyLimit) s
  | .inspect runId => inspect rt monitor runId s
  | .approve requestId deny => approve rt monitor config.runtime.baseUrl requestId deny s
  | .save file name =>
    match name.or (Path.fileName? file) with
    | none => (.fail .namelessFile, s)
    | some name =>
      match buildFile surroundings (Registry.ofConfig config) file with
      | .ok report => save rt monitor name report s
      | .error f => (.fail f, s)
  | .config => (showConfig config, s)

/-- A configuration with what the command line overrides. -/
def Invocation.override (i : Invocation) (config : AppConfig) : AppConfig :=
  { config with
    runtime := { config.runtime with
      baseUrl := i.baseUrl.getD config.runtime.baseUrl
      apiKey := i.apiKey.or config.runtime.apiKey } }

/-- The files that a command may read. -/
def Command.files : Command → List String
  | .layout file _ | .validate file _ | .exportAs file .. | .save file _ => [file]
  | _ => []

/-- **The files that may be read for a command line.** -/
def Invocation.files (i : Invocation) (env : Environment) : List String :=
  i.configFile.elim (AppConfig.localPath :: (AppConfig.homePath? env).toList) ([·])
    ++ i.command.files

/-- This version of the program. -/
def versionText : String := "flowdeck 0.3.0"

/-- **Carries out a command line.** -/
def execute (surroundings : Surroundings) (link : Http.Link σ) (polls : Nat)
    (words : List String) (s : σ) : Outcome × σ :=
  match Request.read surroundings.env words with
  | .error e => ({ ending := .misuse e }, s)
  | .ok .version => (.say [versionText], s)
  | .ok (.introduction true) => (.say [Outcome.introduction], s)
  | .ok (.introduction false) => ({ ending := .silence }, s)
  | .ok (.invocation i) =>
    match AppConfig.discover surroundings i.configFile with
    | .error e => (.fail (.error e), s)
    | .ok config => perform surroundings link polls (i.override config) i.command s

/-- The configuration to watch with, if that is what a command line asks for. -/
def watching? (surroundings : Surroundings) (words : List String) : Option AppConfig :=
  match Request.read surroundings.env words with
  | .ok (.invocation i) =>
    if i.command = .watch then
      (AppConfig.discover surroundings i.configFile).toOption.map i.override
    else none
  | _ => none

end AgentWorkflow.Cli
