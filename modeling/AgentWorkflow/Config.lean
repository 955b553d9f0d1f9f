import AgentWorkflow.NodeType

/-!
# Configuration

What the operator can set: where the runtime lives, how it is polled, how
graphs are laid out and edited, and which node types exist beyond the builtins.
Every part has a default, so an empty configuration is complete. The same
records are read from JSON and TOML; both arrive here as documents.
-/

namespace AgentWorkflow

/-- Where the runtime lives and how to talk to it. -/
structure RuntimeConfig where
  /-- The address that paths are appended to. -/
  baseUrl : String := "http://localhost:8000"
  /-- Sent as it is in the `Authorization` header of requests that change
  something. -/
  apiKey : Option String := none
  /-- How long to wait for an answer. -/
  timeoutSecs : Nat := 10

/-- How runs are polled and gates are found. -/
structure SyncConfig where
  /-- The time between two polls, in milliseconds. -/
  pollIntervalMs : Nat := 2000
  /-- The definition shown when nothing runs, and in place of one that cannot
  be loaded. -/
  defaultWorkflow : String := "default_agent_loop.yaml"
  /-- The type of the nodes that wait for the operator. -/
  gateType : String := "GateNode"
  /-- How many finished runs to list. -/
  historyLimit : Nat := 50

/-- The time between two polls as it is kept: never zero. -/
def SyncConfig.pollInterval (c : SyncConfig) : Nat := max 1 c.pollIntervalMs

/-- The distances of the automatic layout. -/
structure LayoutConfig where
  /-- From one column to the next. -/
  xSpacing : Float := 250.0
  /-- From one row to the next. -/
  ySpacing : Float := 150.0
  /-- In front of the first column and row. -/
  margin : Float := 100.0

/-- How graphs are edited. -/
structure EditorConfig where
  /-- Whether a graph that does not survive writing and reading is refused. -/
  strictRoundTrip : Bool := false
  /-- What stands in front of type names inside a graph. -/
  typeNamespace : String := "agent/"

/-- A node type as the operator declares it. -/
structure NodeTypeDeclaration where
  /-- The bare name. -/
  name : String
  /-- What to show for it; the name when nothing is said. -/
  title : Option String := none
  /-- The slots that can be wired to. -/
  inputs : List Slot := []
  /-- The slots that can be read. -/
  outputs : List Slot := []
  /-- Properties a node has unless it says otherwise. -/
  defaults : Fields := []

/-- The whole configuration. -/
structure AppConfig where
  /-- Where the runtime lives. -/
  runtime : RuntimeConfig := {}
  /-- How runs are polled. -/
  sync : SyncConfig := {}
  /-- The distances of the layout. -/
  layout : LayoutConfig := {}
  /-- How graphs are edited. -/
  editor : EditorConfig := {}
  /-- Node types on top of the builtins, in the order of their declaration. -/
  nodeTypes : List NodeTypeDeclaration := []

/-- The node type a declaration declares. -/
def NodeTypeDeclaration.toSpec (t : NodeTypeDeclaration) : NodeTypeSpec :=
  ⟨t.name, t.title.getD t.name, t.inputs, t.outputs, t.defaults⟩

/-! ## Reading -/

/-- Reads the runtime's part. -/
def RuntimeConfig.ofDocument? (d : Document) : Option RuntimeConfig := do
  let base : RuntimeConfig := {}
  let fs ← d.fields? ["base_url", "api_key", "timeout_secs"]
  let baseUrl ← Document.defaulted fs "base_url" base.baseUrl Document.text?
  let apiKey ← Document.optional fs "api_key" Document.text?
  let timeoutSecs ← Document.defaulted fs "timeout_secs" base.timeoutSecs Document.word?
  return ⟨baseUrl, apiKey, timeoutSecs⟩

/-- Reads the polling part. -/
def SyncConfig.ofDocument? (d : Document) : Option SyncConfig := do
  let base : SyncConfig := {}
  let fs ← d.fields? ["poll_interval_ms", "default_workflow", "gate_type", "history_limit"]
  let pollIntervalMs ←
    Document.defaulted fs "poll_interval_ms" base.pollIntervalMs Document.word?
  let defaultWorkflow ←
    Document.defaulted fs "default_workflow" base.defaultWorkflow Document.text?
  let gateType ← Document.defaulted fs "gate_type" base.gateType Document.text?
  let historyLimit ← Document.defaulted fs "history_limit" base.historyLimit Document.word?
  return ⟨pollIntervalMs, defaultWorkflow, gateType, historyLimit⟩

/-- Reads the layout's part. -/
def LayoutConfig.ofDocument? (d : Document) : Option LayoutConfig := do
  let base : LayoutConfig := {}
  let fs ← d.fields? ["x_spacing", "y_spacing", "margin"]
  let xSpacing ← Document.defaulted fs "x_spacing" base.xSpacing Document.float?
  let ySpacing ← Document.defaulted fs "y_spacing" base.ySpacing Document.float?
  let margin ← Document.defaulted fs "margin" base.margin Document.float?
  return ⟨xSpacing, ySpacing, margin⟩

/-- Reads the editor's part. -/
def EditorConfig.ofDocument? (d : Document) : Option EditorConfig := do
  let base : EditorConfig := {}
  let fs ← d.fields? ["strict_round_trip", "type_namespace"]
  let strictRoundTrip ←
    Document.defaulted fs "strict_round_trip" base.strictRoundTrip Document.bool?
  let typeNamespace ← Document.defaulted fs "type_namespace" base.typeNamespace Document.text?
  return ⟨strictRoundTrip, typeNamespace⟩

/-- Reads a slot of a declaration; its type may be left out. -/
def NodeTypeDeclaration.slotOfDocument? (d : Document) : Option Slot := do
  let fs ← d.fields? ["name", "type"]
  let name ← Document.required fs "name" Document.text?
  let valueType ← Document.defaulted fs "type" "object" Document.text?
  return ⟨name, valueType⟩

/-- Reads a declaration. -/
def NodeTypeDeclaration.ofDocument? (d : Document) : Option NodeTypeDeclaration := do
  let fs ← d.fields? ["name", "title", "inputs", "outputs", "defaults"]
  let name ← Document.required fs "name" Document.text?
  let title ← Document.optional fs "title" Document.text?
  let inputs ← Document.defaulted fs "inputs" []
    (Document.list? NodeTypeDeclaration.slotOfDocument?)
  let outputs ← Document.defaulted fs "outputs" []
    (Document.list? NodeTypeDeclaration.slotOfDocument?)
  let defaults ← Document.defaulted fs "defaults" [] Document.members?
  return ⟨name, title, inputs, outputs, defaults⟩

/-- **Reads a configuration.** -/
def AppConfig.ofDocument? (d : Document) : Option AppConfig := do
  let fs ← d.fields? ["runtime", "sync", "layout", "editor", "node_types"]
  let runtime ← Document.defaulted fs "runtime" {} RuntimeConfig.ofDocument?
  let sync ← Document.defaulted fs "sync" {} SyncConfig.ofDocument?
  let layout ← Document.defaulted fs "layout" {} LayoutConfig.ofDocument?
  let editor ← Document.defaulted fs "editor" {} EditorConfig.ofDocument?
  let nodeTypes ← Document.defaulted fs "node_types" []
    (Document.list? NodeTypeDeclaration.ofDocument?)
  return ⟨runtime, sync, layout, editor, nodeTypes⟩

/-! ## Writing -/

/-- The runtime's part as an object. -/
def RuntimeConfig.toJson (c : RuntimeConfig) : Json :=
  .obj [("base_url", .str c.baseUrl), ("api_key", .ofText? c.apiKey),
    ("timeout_secs", .num (.int c.timeoutSecs))]

/-- The polling part as an object. -/
def SyncConfig.toJson (c : SyncConfig) : Json :=
  .obj [("poll_interval_ms", .num (.int c.pollIntervalMs)),
    ("default_workflow", .str c.defaultWorkflow), ("gate_type", .str c.gateType),
    ("history_limit", .num (.int c.historyLimit))]

/-- The layout's part as an object. -/
def LayoutConfig.toJson (c : LayoutConfig) : Json :=
  .obj [("x_spacing", .num (.float c.xSpacing)), ("y_spacing", .num (.float c.ySpacing)),
    ("margin", .num (.float c.margin))]

/-- The editor's part as an object. -/
def EditorConfig.toJson (c : EditorConfig) : Json :=
  .obj [("strict_round_trip", .bool c.strictRoundTrip),
    ("type_namespace", .str c.typeNamespace)]

/-- A slot of a declaration as an object. -/
def NodeTypeDeclaration.slotToJson (s : Slot) : Json :=
  .obj [("name", .str s.name), ("type", .str s.valueType)]

/-- The declaration as an object. -/
def NodeTypeDeclaration.toJson (t : NodeTypeDeclaration) : Json :=
  .obj [("name", .str t.name), ("title", .ofText? t.title),
    ("inputs", .arr (t.inputs.map NodeTypeDeclaration.slotToJson)),
    ("outputs", .arr (t.outputs.map NodeTypeDeclaration.slotToJson)),
    ("defaults", .obj t.defaults)]

/-- **The configuration as an object**, complete, defaults included. -/
def AppConfig.toJson (c : AppConfig) : Json :=
  .obj [("runtime", c.runtime.toJson), ("sync", c.sync.toJson), ("layout", c.layout.toJson),
    ("editor", c.editor.toJson),
    ("node_types", .arr (c.nodeTypes.map NodeTypeDeclaration.toJson))]

end AgentWorkflow
