/-!
# Arguments of a command line

A command line is a list of words. A word that begins with a hyphen names
options, and every other word stands for itself: a command's name first, then
what the command is about. After the word `--` all words stand for themselves.

**Options.** A long name follows two hyphens and a letter one. A value follows
in the same word or is the next word, which then must not look like an option;
a single hyphen does not. Each option may be given once.
-/

namespace AgentWorkflow.Cli

/-- What is wrong with a command line. -/
inductive UsageError where
  /-- No option has this name. -/
  | unknownOption (name : String)
  /-- An option was given twice. -/
  | repeatedOption (name : String)
  /-- An option has no value. -/
  | missingValue (name : String)
  /-- An option has a value and should not. -/
  | unwantedValue (name : String)
  /-- A value is none that the option can have. -/
  | invalidValue (name value : String)
  /-- No command has this name. -/
  | unknownCommand (name : String)
  /-- There is no command. -/
  | missingCommand
  /-- There is a word too many. -/
  | unexpected (word : String)
  /-- A word is missing. -/
  | missing (name : String)
  deriving DecidableEq

/-- What is wrong, in words. -/
def UsageError.message : UsageError → String
  | unknownOption name => "unexpected argument '" ++ name ++ "' found"
  | repeatedOption name => "the argument '--" ++ name ++ "' cannot be used multiple times"
  | missingValue name => "a value is required for '--" ++ name ++ "' but none was supplied"
  | unwantedValue name => "unexpected value for '--" ++ name ++ "' found; no more were expected"
  | invalidValue name value => "invalid value '" ++ value ++ "' for '" ++ name ++ "'"
  | unknownCommand name => "unrecognized subcommand '" ++ name ++ "'"
  | missingCommand => "a subcommand is required but one was not provided"
  | unexpected word => "unexpected argument '" ++ word ++ "' found"
  | missing name => "the required argument <" ++ name ++ "> was not provided"

/-- What an option asks for. -/
inductive Flag.Kind where
  /-- A value. -/
  | value
  /-- Nothing. -/
  | switch
  /-- Nothing, and that nothing behind it be read. -/
  | last
  deriving DecidableEq

/-- An option that may be given. -/
structure Flag where
  /-- Its long name. -/
  name : String
  /-- Its letter, if it has one. -/
  letter : Option Char := none
  /-- What it asks for. -/
  kind : Flag.Kind := .value

/-- What a list of words gives. -/
structure Arguments where
  /-- The options with their values, empty for those that have none. -/
  options : List (String × String) := []
  /-- The words that stand for themselves. -/
  words : List String := []
  /-- The words that were not read, from a command's name on. -/
  rest : List String := []

namespace Arguments

/-- Adds an option. -/
def addOption (a : Arguments) (name value : String) : Except UsageError Arguments :=
  if (a.options.lookup name).isSome then .error (.repeatedOption name)
  else .ok { a with options := a.options ++ [(name, value)] }

/-- The value of an option. -/
def value? (a : Arguments) (name : String) : Option String := a.options.lookup name

/-- Whether an option is given. -/
def has (a : Arguments) (name : String) : Bool := (a.value? name).isSome

end Arguments

/-- Whether a word names options. -/
def looksLikeOption (word : String) : Bool :=
  word.toList.head? = some '-' && decide (word ≠ "-")

/-- What a word says about options: nothing, a name without its value, or a
name with it. -/
inductive Naming where
  /-- The word stands for itself. -/
  | word
  /-- The option, and what is attached to its name. -/
  | option (flag : Flag) (attached : Option String)

/-- What stands behind an equals sign, with or without one. -/
def attachedText : List Char → String
  | '=' :: r => String.ofList r
  | r => String.ofList r

/-- **Takes a word apart.** -/
def Naming.ofWord (flags : List Flag) (word : String) : Except UsageError Naming :=
  match word.toList with
  | '-' :: '-' :: r =>
    let name := String.ofList (r.takeWhile (· ≠ '='))
    match flags.find? fun f => f.name = name, r.dropWhile (· ≠ '=') with
    | some flag, [] => .ok (.option flag none)
    | some flag, attached => .ok (.option flag (some (attachedText attached)))
    | none, _ => .error (.unknownOption word)
  | '-' :: c :: r =>
    match flags.find? fun f => f.letter = some c with
    | some flag =>
      .ok (.option flag (if r.isEmpty then none else some (attachedText r)))
    | none => .error (.unknownOption word)
  | _ => .ok .word

/-- **Reads words** up to the end, or up to the first one that stands for itself
if that is a command's name. An option may wait for its value. -/
def Arguments.read (flags : List Flag) (beforeCommand : Bool) :
    Option Flag → Arguments → List String → Except UsageError Arguments
  | none, a, [] => .ok a
  | some flag, _, [] => .error (.missingValue flag.name)
  | some flag, a, word :: rest =>
    if looksLikeOption word then .error (.missingValue flag.name)
    else (a.addOption flag.name word).bind fun a => read flags beforeCommand none a rest
  | none, a, word :: rest =>
    if word = "--" then .ok { a with words := a.words ++ rest }
    else
      match Naming.ofWord flags word with
      | .error e => .error e
      | .ok .word =>
        if beforeCommand then .ok { a with rest := word :: rest }
        else read flags beforeCommand none { a with words := a.words ++ [word] } rest
      | .ok (.option flag attached) =>
        match flag.kind, attached with
        | .value, some value =>
          (a.addOption flag.name value).bind fun a => read flags beforeCommand none a rest
        | .value, none => read flags beforeCommand (some flag) a rest
        | _, some _ => .error (.unwantedValue flag.name)
        | .switch, none =>
          (a.addOption flag.name "").bind fun a => read flags beforeCommand none a rest
        | .last, none => a.addOption flag.name ""

end AgentWorkflow.Cli
