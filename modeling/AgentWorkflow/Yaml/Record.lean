import AgentWorkflow.Yaml.Scalar

/-!
# Records in YAML nodes

How records are taken out of YAML nodes. The shapes are those of records in
documents, with two differences. A record must be a mapping, where nothing at
all counts as an empty one. And a scalar is a string, whatever its text, where
a string is wanted: only where any value will do does its text decide.

**References** are followed where something is read and not before, so that
parts nobody asks for may refer to themselves. Whoever does ask is protected
by two bounds: on the depth of what is read, and on the number of references
followed, which may be a hundred times the length of the document.
-/

namespace AgentWorkflow.Yaml

/-- Reading from a document: it knows the named nodes, and how many references
may still be followed, and it may fail. -/
abbrev Reading := ReaderT (List (Nat × Node Nat)) (StateT Nat Option)

namespace Reading

/-- What a node refers to, or the node itself. -/
def follow (n : Node Nat) : Reading (Node Nat) :=
  match n with
  | .repetition number => do
    match ← get with
    | 0 => failure
    | left + 1 =>
      set left
      ((← read).lookup number).getM
  | n => return n

/-- A string: the text of any scalar. -/
def text (n : Node Nat) : Reading String := do
  match ← follow n with
  | .scalar _ s => return s.text
  | _ => failure

/-- The entries of a sequence; nothing at all is an empty one. -/
def entries (n : Node Nat) : Reading (List (Node Nat)) := do
  match ← follow n with
  | .sequence _ _ items => return items
  | .scalar _ s => if s.isEmpty then return [] else failure
  | _ => failure

/-- The members of a mapping; nothing at all is an empty one. -/
def members (n : Node Nat) : Reading (List (Node Nat × Node Nat)) := do
  match ← follow n with
  | .mapping _ _ members => return members
  | .scalar _ s => if s.isEmpty then return [] else failure
  | _ => failure

/-- A sequence of things that can all be read. -/
def list {α : Type} (element : Node Nat → Reading α) (n : Node Nat) : Reading (List α) := do
  (← entries n).mapM element

/-- Something that may be absent. -/
def optional {α : Type} (present : Node Nat → Reading α) (n : Node Nat) : Reading (Option α) := do
  let n ← follow n
  match n with
  | .scalar _ s => if ← s.isAbsent?.getM then return none else return some (← present n)
  | n => return some (← present n)

/-- The members of a mapping by the texts of their keys. -/
def textMembers (n : Node Nat) : Reading (List (String × Node Nat)) := do
  (← members n).mapM fun m => return (← text m.1, m.2)

/-- The known members of a record; none of them may be given twice. -/
def fields (names : List String) (all : List (String × Node Nat)) :
    Reading (List (String × Node Nat)) :=
  let known := all.filter fun m => names.contains m.1
  if (known.map Prod.fst).Nodup then return known else failure

/-- A field that must be there. -/
def required {α : Type} (fields : List (String × Node Nat)) (name : String)
    (present : Node Nat → Reading α) : Reading α := do
  present (← (fields.lookup name).getM)

/-- A field that may be missing. -/
def defaulted {α : Type} (fields : List (String × Node Nat)) (name : String) (default : α)
    (present : Node Nat → Reading α) : Reading α :=
  match fields.lookup name with
  | none => return default
  | some n => present n

/-- **Any value**, of at most so many levels. With `strictKeys` the keys of
mappings must stand for strings; without, their texts will do. -/
def value (strictKeys : Bool) : Nat → Node Nat → Reading Json
  | levels, n => do
    match ← follow n, levels with
    | .scalar _ s, _ => s.value?.getM
    | .sequence _ tag items, levels + 1 =>
      if tag = some .unknownKind then failure
      return .arr (← items.mapM (value strictKeys levels))
    | .mapping _ tag members, levels + 1 =>
      if tag = some .unknownKind then failure
      let members ← members.mapM fun m => do
        let key ←
          if strictKeys then
            match ← value strictKeys levels m.1 with
            | .str s => pure s
            | _ => failure
          else text m.1
        return (key, ← value strictKeys levels m.2)
      return .obj (Fields.ofMembers members)
    | _, _ => failure
termination_by structural levels => levels

/-- How many levels of a document are read. -/
def maxLevels : Nat := 128

/-- Reads a document. -/
def run {α : Type} (read : Node Nat → Reading α) (document : Node Nat) : Option α :=
  (read document document.named.reverse (100 * document.size)).map Prod.fst

end Reading

end AgentWorkflow.Yaml
