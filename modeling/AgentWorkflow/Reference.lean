import AgentWorkflow.Definition

/-!
# References inside values

The value of an input may be any JSON, and connections may sit anywhere
inside it. Two shapes are recognised. A *bare* reference is an object with the
texts `from_node` and `from_output`; it is taken whole, and nothing inside it
is looked at again. A *wrapped* reference is the member `connection` of an
object, holding a bare one; the other members of that object are still
searched. Everything is visited in the order in which it was written.

The search goes down a fixed number of levels, counted from the value itself,
and passes over what lies deeper. Definitions that people write come nowhere
near that depth; the bound is for values that were generated.
-/

namespace AgentWorkflow

/-- **The connection a value is**, if it is an object that names a node and an
output of it as texts. Its other members do not matter. -/
def Connection.ofValue? (value : Json) : Option Connection := do
  let fromNode ← (← value.get? "from_node").text?
  let fromOutput ← (← value.get? "from_output").text?
  return ⟨fromNode, fromOutput⟩

namespace Json

/-- The connections within the first `levels` levels of a value. -/
def referencesWithin : Nat → Json → List Connection
  | 0, _ => []
  | levels + 1, .obj members =>
    match Connection.ofValue? (.obj members) with
    | some c => [c]
    | none =>
      members.flatMap fun m =>
        match if m.1 = "connection" then Connection.ofValue? m.2 else none with
        | some c => [c]
        | none => referencesWithin levels m.2
  | levels + 1, .arr items => items.flatMap (referencesWithin levels)
  | _ + 1, _ => []

/-- How many levels of a value are searched: the value itself and sixty-four
below it. -/
def searchedLevels : Nat := 65

/-- **All connections a value holds**, in the order in which they were
written. -/
def references (value : Json) : List Connection := value.referencesWithin searchedLevels

end Json

end AgentWorkflow
