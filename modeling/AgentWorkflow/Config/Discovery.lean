import AgentWorkflow.Config
import AgentWorkflow.Error
import AgentWorkflow.Path
import AgentWorkflow.Surroundings
import AgentWorkflow.Toml.Parser

/-!
# Finding the configuration

A configuration is a TOML text in which references to the surroundings have
been replaced. It is the file that the operator names; without one, the first
of two usual places that has a file; and without such a file, the defaults. A
file that is there must be right: a broken one is an error, and the next place
is not tried.
-/

namespace AgentWorkflow

namespace AppConfig

/-- The configuration in a TOML text. -/
def ofTomlText (env : Environment) (text : String) : Except Error AppConfig :=
  match (Toml.parse? (String.ofList (env.expand text.toList))).bind ofDocument? with
  | some config => .ok config
  | none => .error (.config "not a configuration")

/-- The configuration in a file. -/
def load (s : Surroundings) (path : String) : Except Error AppConfig :=
  match s.text? path with
  | some text => ofTomlText s.env text
  | none => .error (.configNotFound path)

/-- The usual place beside the work. -/
def localPath : String := "flowdeck.toml"

/-- The usual place at home. -/
def homePath? (env : Environment) : Option String :=
  (env "HOME").map fun home => Path.join (Path.join home ".flowdeck") "config.toml"

/-- **Finds and reads the configuration.** -/
def discover (s : Surroundings) (named : Option String) : Except Error AppConfig :=
  match named with
  | some path => load s path
  | none =>
    match (localPath :: (homePath? s.env).toList).find? s.has with
    | some path => load s path
    | none => .ok {}

end AppConfig

end AgentWorkflow
