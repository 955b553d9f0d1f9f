import AgentWorkflow.Config
import AgentWorkflow.Toml.Printer

/-!
# The configuration in words

A configuration as the TOML text that would configure the same. What has no
value is left out, and everything else is written, defaults included.
-/

namespace AgentWorkflow

/-- A member that may be missing. -/
def Document.member? (name : String) (value : Option String) : List (String × Document) :=
  value.toList.map fun v => (name, .str v)

/-- A declaration as a table. -/
def NodeTypeDeclaration.toTable (t : NodeTypeDeclaration) : Document :=
  let slots (l : List Slot) : Document := .arr (l.map fun s => (slotToJson s).toDocument)
  .obj ([("name", .str t.name)] ++ Document.member? "title" t.title
    ++ [("inputs", slots t.inputs), ("outputs", slots t.outputs),
      ("defaults", (Json.obj t.defaults).toDocument)])

namespace AppConfig

/-- The configuration as the members of a table. -/
def toTable (c : AppConfig) : List (String × Document) :=
  [("runtime", .obj ([("base_url", .str c.runtime.baseUrl)]
      ++ Document.member? "api_key" c.runtime.apiKey
      ++ [("timeout_secs", .num (.int c.runtime.timeoutSecs))])),
    ("sync", c.sync.toJson.toDocument), ("layout", c.layout.toJson.toDocument),
    ("editor", c.editor.toJson.toDocument),
    ("node_types", .arr (c.nodeTypes.map NodeTypeDeclaration.toTable))]

/-- **The configuration as a TOML text.** A declaration whose defaults hold a
null has none. -/
def toTomlText? (c : AppConfig) : Option String := Toml.text? c.toTable

end AppConfig

end AgentWorkflow
