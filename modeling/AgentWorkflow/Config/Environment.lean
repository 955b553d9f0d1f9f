/-!
# Environment references

A configuration may name variables of its surroundings where it does not want
to spell out a value: `${NAME}` stands for the value of `NAME`. The text is
passed over once, from left to right, and what was put in is not looked at
again. A reference to a variable that is not set stays as it is.
-/

namespace AgentWorkflow

/-- The variables of the surroundings. -/
abbrev Environment := String → Option String

namespace Environment

/-- The spelling of a reference. -/
def reference (name : List Char) : List Char := ['$', '\x7b'] ++ name ++ ['\x7d']

/-- **Puts in the values that a text refers to.** A name runs to the first
closing brace; where none follows, it runs to the end of the text, and the
brace is added. -/
def expand (env : Environment) : List Char → List Char
  | '$' :: '\x7b' :: r =>
    let name := r.takeWhile (· ≠ '\x7d')
    ((env (String.ofList name)).map String.toList).getD (reference name)
      ++ expand env ((r.dropWhile (· ≠ '\x7d')).drop 1)
  | c :: r => c :: expand env r
  | [] => []
termination_by s => s.length
decreasing_by
  · have := (List.dropWhile_suffix (l := r) (· ≠ '\x7d')).length_le
    simp only [List.length_drop, List.length_cons]
    omega
  · simp

/-- The names that a text refers to. -/
def names : List Char → List String
  | '$' :: '\x7b' :: r =>
    String.ofList (r.takeWhile (· ≠ '\x7d')) :: names ((r.dropWhile (· ≠ '\x7d')).drop 1)
  | _ :: r => names r
  | [] => []
termination_by s => s.length
decreasing_by
  · have := (List.dropWhile_suffix (l := r) (· ≠ '\x7d')).length_le
    simp only [List.length_drop, List.length_cons]
    omega
  · simp

end Environment

end AgentWorkflow
