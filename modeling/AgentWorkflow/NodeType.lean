import AgentWorkflow.Json.Record

/-!
# Node types

A node type declares what its nodes look like: named and typed slots on both
sides, a title, and default properties. Fourteen types are built in; the
configuration may declare more, or declare a builtin anew.
-/

namespace AgentWorkflow

/-- A named, typed slot of a node type. -/
structure Slot where
  /-- The name of the slot. -/
  name : String
  /-- What kind of value passes through it. Nothing checks this. -/
  valueType : String
  deriving DecidableEq

namespace Slot

/-- Reads a slot. -/
def ofDocument? (d : Document) : Option Slot := do
  let fs ← d.fields? ["name", "value_type"]
  let name ← Document.required fs "name" Document.text?
  let valueType ← Document.required fs "value_type" Document.text?
  return ⟨name, valueType⟩

/-- The slot as an object. -/
def toJson (s : Slot) : Json := .obj [("name", .str s.name), ("value_type", .str s.valueType)]

end Slot

/-- The declared shape of a node type. -/
structure NodeTypeSpec where
  /-- The bare name, as definitions write it. -/
  name : String
  /-- What to show for it. -/
  title : String
  /-- The slots that can be wired to. -/
  inputs : List Slot := []
  /-- The slots that can be read. -/
  outputs : List Slot := []
  /-- Properties a node has unless it says otherwise. -/
  defaults : Fields := []

namespace NodeTypeSpec

/-- The input slot of a name. -/
def input? (t : NodeTypeSpec) (name : String) : Option Slot :=
  t.inputs.find? fun s => s.name = name

/-- Whether there is an output slot of a name. -/
def hasOutput (t : NodeTypeSpec) (name : String) : Bool :=
  t.outputs.any fun s => s.name = name

/-- Reads a node type. -/
def ofDocument? (d : Document) : Option NodeTypeSpec := do
  let fs ← d.fields? ["name", "title", "inputs", "outputs", "defaults"]
  let name ← Document.required fs "name" Document.text?
  let title ← Document.required fs "title" Document.text?
  let inputs ← Document.required fs "inputs" (Document.list? Slot.ofDocument?)
  let outputs ← Document.required fs "outputs" (Document.list? Slot.ofDocument?)
  let defaults ← Document.required fs "defaults" Document.members?
  return ⟨name, title, inputs, outputs, defaults⟩

/-- The node type as an object. -/
def toJson (t : NodeTypeSpec) : Json :=
  .obj [("name", .str t.name), ("title", .str t.title),
    ("inputs", .arr (t.inputs.map Slot.toJson)),
    ("outputs", .arr (t.outputs.map Slot.toJson)), ("defaults", .obj t.defaults)]

/-- **The types every registry of the editor starts from.** -/
def builtins : List NodeTypeSpec :=
  [ { name := "InputNode", title := "Input"
      outputs := [⟨"user_text", "string"⟩, ⟨"tools_dict", "object"⟩,
        ⟨"tool_result", "object"⟩, ⟨"consul_http_addr", "string"⟩] },
    { name := "ConsulServiceDiscoveryNode", title := "Service Discovery"
      inputs := [⟨"consul_http_addr", "string"⟩]
      outputs := [⟨"available_services", "object"⟩] },
    { name := "SystemPromptNode", title := "System Prompt"
      inputs := [⟨"tools", "object"⟩, ⟨"available_services", "object"⟩]
      outputs := [⟨"system_prompt", "string"⟩] },
    { name := "ScreenshotNode", title := "Screenshot"
      inputs := [⟨"tools", "object"⟩]
      outputs := [⟨"screenshot_base64", "string"⟩] },
    { name := "PromptBuilderNode", title := "Prompt Builder"
      inputs := [⟨"system_prompt", "string"⟩, ⟨"user_text", "string"⟩,
        ⟨"screenshot", "string"⟩, ⟨"tool_result", "object"⟩]
      outputs := [⟨"messages", "array"⟩] },
    { name := "SimpleLLMNode", title := "Simple LLM"
      inputs := [⟨"messages", "array"⟩, ⟨"user_text", "string"⟩]
      outputs := [⟨"response", "string"⟩]
      defaults := [("model_tier", .str "balanced"),
        ("system_prompt", .str "You are a helpful assistant.")] },
    { name := "VisionLLMNode", title := "Vision LLM"
      inputs := [⟨"messages", "array"⟩]
      outputs := [⟨"response_text", "string"⟩] },
    { name := "ToolParserNode", title := "Tool Parser"
      inputs := [⟨"llm_response", "string"⟩]
      outputs := [⟨"tool_call_data", "object"⟩, ⟨"final_response", "string"⟩] },
    { name := "ConditionalBranchNode", title := "Branch"
      inputs := [⟨"input_value", "object"⟩]
      outputs := [⟨"output_true", "object"⟩, ⟨"output_false", "object"⟩]
      defaults := [("check_if_tool_is", .str "")] },
    { name := "GateNode", title := "Gate"
      inputs := [⟨"input_value", "object"⟩]
      outputs := [⟨"output", "object"⟩] },
    { name := "ExpertRouterNode", title := "Expert Router"
      inputs := [⟨"expert_name", "string"⟩, ⟨"query", "string"⟩]
      outputs := [⟨"expert_response", "string"⟩] },
    { name := "ToolExecutorNode", title := "Tool Executor"
      inputs := [⟨"tool_call_data", "object"⟩]
      outputs := [⟨"tool_result", "object"⟩] },
    { name := "MergeNode", title := "Merge"
      inputs := [⟨"in1", "object"⟩, ⟨"in2", "object"⟩]
      outputs := [⟨"merged_output", "object"⟩] },
    { name := "OutputNode", title := "Output"
      inputs := [⟨"final_output", "object"⟩] } ]

end NodeTypeSpec

end AgentWorkflow
