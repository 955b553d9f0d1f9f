import AgentWorkflow.Error
import AgentWorkflow.Text

/-!
# Names of stored definitions

A runtime stores definitions by name, in one directory. A name that could lead
out of that directory, or to something that is not a definition, is refused
before anybody is asked.
-/

namespace AgentWorkflow

/-- Whether a definition may be stored under a name: it leads nowhere else, and
its ending is that of a definition. -/
def isWorkflowName (name : String) : Bool :=
  let s := name.toList
  !Text.occursIn ['.', '.'] s && !s.contains '/' && !s.contains '\\'
    && (".yaml".toList.isSuffixOf s || ".yml".toList.isSuffixOf s)

/-- **Refuses a name** under which no definition may be stored. -/
def checkWorkflowName (name : String) : Except Error Unit :=
  if isWorkflowName name then .ok () else .error (.invalidWorkflowName name)

end AgentWorkflow
