import AgentWorkflow.Cli.Arguments
import AgentWorkflow.Error

/-!
# Outcomes of commands

What a command leaves behind: what it says, how it ends, and the file that it
wants written. Nothing is printed or written by the commands themselves; a
file that cannot be written turns the outcome into a failure.
-/

namespace AgentWorkflow.Cli

/-- Why a command could not do what it was asked for. -/
inductive Failure where
  /-- Something went wrong on the way. -/
  | error (e : Error)
  /-- A definition cannot be read. -/
  | loading (file : String) (cause : Error)
  /-- A file cannot be written. -/
  | writing (file : String)
  /-- A definition has so many faults. -/
  | structuralProblems (count : Nat)
  /-- The runtime cannot be reached. -/
  | unreachable (address : String)
  /-- No gate waits for an answer. -/
  | noGateWaits
  /-- The path leads to no file that could lend its name. -/
  | namelessFile
  /-- The configuration holds a null. -/
  | unwritableConfig

/-- The failure in words, its cause behind it. -/
def Failure.message : Failure → String
  | error e => e.message
  | loading file cause => "loading " ++ file ++ "\n\nCaused by:\n    " ++ cause.message
  | writing file => "writing " ++ file
  | structuralProblems count => toString count ++ " structural problem(s)"
  | unreachable address => "runtime at " ++ address ++ " is unreachable"
  | noGateWaits => "no gate is waiting for approval"
  | namelessFile => "file has no name"
  | unwritableConfig => "unsupported unit type"

/-- How a command ends. -/
inductive Ending where
  /-- It did what it was asked for. -/
  | success
  /-- It could not. -/
  | failure (f : Failure)
  /-- It was not understood. -/
  | misuse (e : UsageError)
  /-- It was not given. -/
  | silence

/-- What a command leaves behind. -/
structure Outcome where
  /-- What it says. -/
  output : String := ""
  /-- How it ends. -/
  ending : Ending := .success
  /-- The file it wants written: its path and its text. -/
  file : Option (String × String) := none

namespace Outcome

/-- What this program is, in a line. -/
def introduction : String := "Edit, lay out and monitor agent workflow graphs"

/-- Lines, each with its end. -/
def text (lines : List String) : String := String.join (lines.map (· ++ "\n"))

/-- The outcome of saying some lines. -/
def say (lines : List String) : Outcome := { output := text lines }

/-- The outcome of failing after some lines. -/
def fail (f : Failure) (lines : List String := []) : Outcome :=
  { output := text lines, ending := .failure f }

/-- Whether the command did what it was asked for. -/
def succeeded (o : Outcome) : Bool :=
  match o.ending with
  | .success => true
  | _ => false

/-- The outcome if its file cannot be written. -/
def unwritten (o : Outcome) : Outcome :=
  match o.file with
  | none => o
  | some (path, _) => { o with ending := .failure (.writing path), file := none }

/-- The number a command ends with. -/
def exitCode (o : Outcome) : Nat :=
  match o.ending with
  | .success => 0
  | .failure _ => 1
  | .misuse _ | .silence => 2

/-- What a command complains about. -/
def complaint (o : Outcome) : String :=
  match o.ending with
  | .success => ""
  | .failure f => "Error: " ++ f.message ++ "\n"
  | .misuse e => "error: " ++ e.message ++ "\n"
  | .silence => introduction ++ "\n"

end Outcome

end AgentWorkflow.Cli
