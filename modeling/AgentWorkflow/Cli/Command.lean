import AgentWorkflow.Cli.Arguments
import AgentWorkflow.Config.Environment
import AgentWorkflow.Text

/-!
# Commands

What the operator can ask for at a terminal. A command line becomes an
`Invocation`: what overrides the configuration, and one command. The address of
the runtime and the authorization may also come from the surroundings, where
the command line does not give them.
-/

namespace AgentWorkflow.Cli

/-- The format a definition is exported in. -/
inductive Format where
  /-- YAML. -/
  | yaml
  /-- Indented JSON. -/
  | json
  deriving DecidableEq

/-- What to do. -/
inductive Command where
  /-- Show the columns of a definition's graph, or the places of its nodes. -/
  | layout (file : String) (asJson : Bool)
  /-- Report what is wrong with a definition. -/
  | validate (file : String) (strict : Bool)
  /-- Write a definition the way it would be saved. -/
  | exportAs (file : String) (format : Format) (output : Option String)
  /-- Follow the first live run. -/
  | watch
  /-- List finished runs. -/
  | history (limit : Option Nat)
  /-- Show how a finished run ended. -/
  | inspect (runId : String)
  /-- Answer the gate that waits. -/
  | approve (requestId : Option String) (deny : Bool)
  /-- Store a definition at the runtime. -/
  | save (file : String) (name : Option String)
  /-- Show the configuration. -/
  | config
  deriving DecidableEq

/-- A command, and what goes before the configuration. -/
structure Invocation where
  /-- The configuration to read. -/
  configFile : Option String := none
  /-- Where the runtime lives. -/
  baseUrl : Option String := none
  /-- The authorization. -/
  apiKey : Option String := none
  /-- What to do. -/
  command : Command

/-- What a command line asks for. -/
inductive Request where
  /-- To do something. -/
  | invocation (i : Invocation)
  /-- To say what this program is, because the operator asked for it or because
  nothing else was asked for. -/
  | introduction (asked : Bool)
  /-- To say which version of it this is. -/
  | version

/-! ## Values -/

/-- A path, which must not be empty. -/
def pathValue (name value : String) : Except UsageError String :=
  if value = "" then .error (.invalidValue name value) else .ok value

/-- A number that fits in sixty-four bits, perhaps with a plus sign. -/
def numberValue (name value : String) : Except UsageError Nat :=
  let digits := match value.toList with
    | '+' :: r => r
    | r => r
  match (Text.readDigits? 10 digits).filter (· < 0x10000000000000000) with
  | some n => .ok n
  | none => .error (.invalidValue name value)

/-- A format's name. -/
def formatValue (name value : String) : Except UsageError Format :=
  match value with
  | "yaml" => .ok .yaml
  | "json" => .ok .json
  | _ => .error (.invalidValue name value)

/-- A value that may be missing. -/
def optionalValue {α : Type} (a : Arguments) (name : String)
    (read : String → String → Except UsageError α) : Except UsageError (Option α) :=
  match a.value? name with
  | none => .ok none
  | some value => (read name value).map some

/-! ## Reading -/

/-- The one word that a command is about. -/
def onlyWord (name : String) (a : Arguments) : Except UsageError String :=
  match a.words with
  | [word] => .ok word
  | [] => .error (.missing name)
  | _ :: word :: _ => .error (.unexpected word)

/-- The word that a command may be about. -/
def optionalWord (a : Arguments) : Except UsageError (Option String) :=
  match a.words with
  | [] => .ok none
  | [word] => .ok (some word)
  | _ :: word :: _ => .error (.unexpected word)

/-- Refuses words that no command is about. -/
def noWord (a : Arguments) : Except UsageError Unit :=
  match a.words with
  | [] => .ok ()
  | word :: _ => .error (.unexpected word)

/-- The option that asks for an introduction. -/
def helpFlag : Flag := ⟨"help", some 'h', .last⟩

/-- The options of a command, if it is one. -/
def flags? (command : String) : Option (List Flag) :=
  match command with
  | "layout" => some [⟨"json", none, .switch⟩]
  | "validate" => some [⟨"strict", none, .switch⟩]
  | "export" => some [⟨"format", none, .value⟩, ⟨"output", some 'o', .value⟩]
  | "history" => some [⟨"limit", none, .value⟩]
  | "approve" => some [⟨"deny", none, .switch⟩]
  | "save" => some [⟨"name", none, .value⟩]
  | "watch" | "inspect" | "config" => some []
  | _ => none

/-- Reads a command from its name and its arguments. -/
def Command.ofArguments (command : String) (a : Arguments) : Except UsageError Command := do
  match command with
  | "layout" => return .layout (← pathValue "FILE" (← onlyWord "FILE" a)) (a.has "json")
  | "validate" => return .validate (← pathValue "FILE" (← onlyWord "FILE" a)) (a.has "strict")
  | "export" =>
    let format ← optionalValue a "format" formatValue
    let output ← optionalValue a "output" pathValue
    return .exportAs (← pathValue "FILE" (← onlyWord "FILE" a)) (format.getD .yaml) output
  | "watch" => noWord a *> return .watch
  | "history" => noWord a *> return .history (← optionalValue a "limit" numberValue)
  | "inspect" => return .inspect (← onlyWord "RUN_ID" a)
  | "approve" => return .approve (← optionalWord a) (a.has "deny")
  | "save" => return .save (← pathValue "FILE" (← onlyWord "FILE" a)) (a.value? "name")
  | _ => noWord a *> return .config

/-- The options in front of a command. -/
def commonFlags : List Flag :=
  [⟨"config", some 'c', .value⟩, ⟨"base-url", none, .value⟩, ⟨"api-key", none, .value⟩,
    ⟨"version", some 'V', .last⟩, helpFlag]

/-- **Reads a command line.** A line that says nothing asks for an
introduction. -/
def Request.read (env : Environment) (words : List String) : Except UsageError Request := do
  let a ← Arguments.read commonFlags true none {} words
  if a.has "version" then return .version
  if a.has "help" then return .introduction true
  noWord a
  let configFile ← optionalValue a "config" pathValue
  let baseUrl := (a.value? "base-url").or (env "FLOWDECK_BASE_URL")
  let apiKey := (a.value? "api-key").or (env "FLOWDECK_API_KEY")
  match a.rest with
  | "help" :: _ => return .introduction true
  | name :: words =>
    match flags? name with
    | none => throw (.unknownCommand name)
    | some flags =>
      let b ← Arguments.read (helpFlag :: flags) false none {} words
      if b.has "help" then return .introduction true
      return .invocation { configFile, baseUrl, apiKey, command := ← Command.ofArguments name b }
  | [] =>
    if a.options.isEmpty ∧ baseUrl.isNone ∧ apiKey.isNone then return .introduction false
    else throw .missingCommand

end AgentWorkflow.Cli
