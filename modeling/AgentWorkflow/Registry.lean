import AgentWorkflow.Config
import AgentWorkflow.Text

/-!
# The registry of node types

A registry knows node types by their bare names. Inside a graph a type carries
the registry's namespace in front of its name; `get?` takes either form, so a
caller need not know whether a name comes from a definition or from a graph.

The namespace is cut off before the name is looked up. A declared name that
itself begins with the namespace is therefore kept under a key that no look-up
of it reaches.
-/

namespace AgentWorkflow

/-- A registry: node types with distinct names, and the namespace of graphs
built with it. -/
structure Registry where
  /-- The types, in the order in which their names were first registered. -/
  types : List NodeTypeSpec := []
  /-- What stands in front of type names inside a graph. -/
  typeNamespace : String := "agent/"

namespace Registry

/-- Puts a type in place of the one of the same name, or at the end. -/
def insertType (spec : NodeTypeSpec) : List NodeTypeSpec → List NodeTypeSpec
  | [] => [spec]
  | t :: rest => if t.name = spec.name then spec :: rest else t :: insertType spec rest

/-- Registers a type, in place of any earlier type of that name. -/
def register (r : Registry) (spec : NodeTypeSpec) : Registry :=
  { r with types := insertType spec r.types }

/-- A type name without the namespace, if it carries it. -/
def bareName (r : Registry) (nodeType : String) : String :=
  match Text.dropStart? r.typeNamespace.toList nodeType.toList with
  | some rest => String.ofList rest
  | none => nodeType

/-- A type name with the namespace, in front of it exactly once. -/
def graphName (r : Registry) (nodeType : String) : String :=
  r.typeNamespace ++ r.bareName nodeType

/-- The type a name stands for, in either form. -/
def get? (r : Registry) (nodeType : String) : Option NodeTypeSpec :=
  let name := r.bareName nodeType
  r.types.find? fun t => t.name = name

/-- Whether a name stands for a type. -/
def contains (r : Registry) (nodeType : String) : Bool := (r.get? nodeType).isSome

/-- The bare names of all types, sorted. -/
def names (r : Registry) : List String :=
  (r.types.map NodeTypeSpec.name).mergeSort fun a b => decide (a ≤ b)

/-- The builtin types under a namespace. -/
def builtinsUnder (typeNamespace : String) : Registry :=
  NodeTypeSpec.builtins.foldl register { typeNamespace := typeNamespace }

/-- The builtin types. -/
def withBuiltins : Registry := builtinsUnder "agent/"

/-- **The registry of a configuration**: the builtins, then the declared types
in order, under the configured namespace. -/
def ofConfig (config : AppConfig) : Registry :=
  (config.nodeTypes.map NodeTypeDeclaration.toSpec).foldl register
    (builtinsUnder config.editor.typeNamespace)

end Registry

end AgentWorkflow
