/-!
# Paths

The parts of a path that matter here: the name of the file it leads to, the
ending of that name, and a path inside a directory. Slashes separate names, any
number of them like one, and a single dot leads nowhere.
-/

namespace AgentWorkflow.Path

/-- The names along a path. -/
def names (path : List Char) : List (List Char) :=
  (path.splitOn '/').filter fun n => !n.isEmpty && n ≠ ['.']

/-- The name of the file a path leads to. -/
def fileName? (path : String) : Option String :=
  match (names path.toList).getLast? with
  | some name => if name = ['.', '.'] then none else some (String.ofList name)
  | none => none

/-- What stands behind the last dot of a name, if anything stands in front of
it. -/
def ending? (name : List Char) : Option (List Char) :=
  let behind := name.reverse.takeWhile (· ≠ '.')
  if name.length ≤ behind.length + 1 then none else some behind.reverse

/-- The ending of the name of the file a path leads to. -/
def extension? (path : String) : Option String :=
  (fileName? path).bind fun name => (ending? name.toList).map String.ofList

/-- A path inside a directory. An absolute path leads to the same place from
everywhere. -/
def join (directory path : String) : String :=
  if path.toList.head? = some '/' || directory = "" then path
  else if directory.toList.getLast? = some '/' then directory ++ path
  else directory ++ "/" ++ path

end AgentWorkflow.Path
