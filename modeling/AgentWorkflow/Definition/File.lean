import AgentWorkflow.Definition.Yaml
import AgentWorkflow.Error
import AgentWorkflow.Json.Parser
import AgentWorkflow.Json.Printer
import AgentWorkflow.Path

/-!
# Definitions in files

A definition file is JSON if its name ends so and YAML otherwise.
-/

namespace AgentWorkflow

namespace Definition

/-- The definition in a JSON text. -/
def ofJsonText (s : String) : Except Error Definition :=
  match (Document.parse? s).bind ofDocument? with
  | some d => .ok d
  | none => .error (.json "not a definition")

/-- The definition in a YAML text. -/
def ofYamlText (s : String) : Except Error Definition :=
  match ofYamlText? s with
  | some d => .ok d
  | none => .error (.yaml "not a definition")

/-- **The definition in a file**, by the file's path and its text. -/
def ofFile (path text : String) : Except Error Definition :=
  if Path.extension? path = some "json" then ofJsonText text else ofYamlText text

/-- The definition as indented JSON. -/
def toJsonText (d : Definition) : String := d.toJson.pretty

end Definition

end AgentWorkflow
