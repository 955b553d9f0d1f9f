import AgentWorkflow.Config.Environment

/-!
# Surroundings

What can be seen of the machine the library runs on: its variables and its
files. Nothing here is read while a computation runs; what a computation sees
is fixed before it begins.
-/

namespace AgentWorkflow

/-- Variables and files. -/
structure Surroundings where
  /-- The variables. -/
  env : Environment
  /-- Whether a path leads to anything. -/
  has : String → Bool
  /-- The text of the file a path leads to; nothing if there is no file, or if
  what it holds is not text. -/
  text? : String → Option String

end AgentWorkflow
