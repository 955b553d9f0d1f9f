/-!
# The nodes of a YAML document

What a YAML document is once punctuation is gone: scalars, sequences and
mappings, any of which may carry a tag and a name, and references to named
nodes. Of a tag only that matters which decides how a scalar is read.

**Names.** A name may be given to several nodes one after the other, and a
reference means one given before it. Nodes are therefore numbered: a node gets
as its number how many different names have been given before it, and a
reference gets the number of the node that had the name last. Giving a name a
second time does not make it a new name, so two nodes can get one number; then
every reference with that number, wherever it stands, leads to the later of
the two.
-/

namespace AgentWorkflow.Yaml

/-- What a tag says about a node. -/
inductive Tag where
  /-- The value is null. -/
  | null
  /-- The value is a truth value. -/
  | bool
  /-- The value is an integer. -/
  | int
  /-- The value is a double. -/
  | float
  /-- The value is of a kind of its own, which nobody here knows. -/
  | unknownKind
  /-- Nothing that matters here: scalars are strings. -/
  | other
  deriving DecidableEq

/-- The tag that bytes spell. An address that begins with an exclamation mark
and is no text says nothing. -/
def Tag.ofBytes (bytes : List UInt8) : Option Tag :=
  match String.fromUTF8? (ByteArray.mk bytes.toArray) with
  | none => if bytes.head? = some 33 then none else some .other
  | some "tag:yaml.org,2002:null" => some .null
  | some "tag:yaml.org,2002:bool" => some .bool
  | some "tag:yaml.org,2002:int" => some .int
  | some "tag:yaml.org,2002:float" => some .float
  | some s => if s.toList.head? = some '!' then some .unknownKind else some .other

/-- A scalar as it was written. -/
structure Scalar where
  /-- What its tag says. -/
  tag : Option Tag := none
  /-- Whether it was written plainly. -/
  plain : Bool := true
  /-- Its text. -/
  text : String := ""

/-- A node; names of nodes are of type `α`. -/
inductive Node (α : Type) where
  /-- A reference to a named node. -/
  | repetition (name : α)
  /-- A scalar. -/
  | scalar (anchor : Option α) (content : Scalar)
  /-- A sequence. -/
  | sequence (anchor : Option α) (tag : Option Tag) (items : List (Node α))
  /-- A mapping. -/
  | mapping (anchor : Option α) (tag : Option Tag) (members : List (Node α × Node α))
  deriving Inhabited

namespace Node

variable {α : Type}

/-- What stands where nothing is written. -/
def empty : Node α := .scalar none {}

/-- The name a node was given. -/
def anchor? : Node α → Option α
  | repetition _ => none
  | scalar anchor _ | sequence anchor _ _ | mapping anchor _ _ => anchor

/-! ## Numbering -/

/-- The names given so far, each with the number it stands for. -/
abbrev Names := List (String × Nat)

/-- Gives a name to the next node, and the number that goes with it. -/
def Names.give (names : Names) (anchor : Option String) : Option Nat × Names :=
  match anchor with
  | none => (none, names)
  | some name => (some names.length, (name, names.length) :: names.filter fun n => n.1 != name)

mutual

/-- Turns names into numbers; none if a reference leads nowhere. -/
def numbered? (names : Names) : Node String → Option (Node Nat × Names)
  | repetition name => (names.lookup name).map fun n => (repetition n, names)
  | scalar anchor content =>
    let (anchor, names) := names.give anchor
    some (scalar anchor content, names)
  | sequence anchor tag items =>
    let (anchor, names) := names.give anchor
    (itemsNumbered? names items).map fun (items, names) => (sequence anchor tag items, names)
  | mapping anchor tag members =>
    let (anchor, names) := names.give anchor
    (membersNumbered? names members).map fun (members, names) =>
      (mapping anchor tag members, names)

/-- Turns names in entries into numbers. -/
def itemsNumbered? (names : Names) : List (Node String) → Option (List (Node Nat) × Names)
  | [] => some ([], names)
  | n :: rest =>
    match numbered? names n with
    | none => none
    | some (n, names) => (itemsNumbered? names rest).map fun (rest, names) => (n :: rest, names)

/-- Turns names in keys and values into numbers. -/
def membersNumbered? (names : Names) :
    List (Node String × Node String) → Option (List (Node Nat × Node Nat) × Names)
  | [] => some ([], names)
  | (k, v) :: rest =>
    match numbered? names k with
    | none => none
    | some (k, names) =>
      match numbered? names v with
      | none => none
      | some (v, names) =>
        (membersNumbered? names rest).map fun (rest, names) => ((k, v) :: rest, names)

end

mutual

/-- All named nodes inside a node, itself included, as they were written. -/
def named (n : Node Nat) : List (Nat × Node Nat) :=
  (n.anchor?.toList.map fun a => (a, n)) ++
    match n with
    | repetition _ | scalar .. => []
    | sequence _ _ items => itemsNamed items
    | mapping _ _ members => membersNamed members

/-- All named nodes inside entries. -/
def itemsNamed : List (Node Nat) → List (Nat × Node Nat)
  | [] => []
  | n :: rest => named n ++ itemsNamed rest

/-- All named nodes inside keys and values. -/
def membersNamed : List (Node Nat × Node Nat) → List (Nat × Node Nat)
  | [] => []
  | (k, v) :: rest => named k ++ (named v ++ membersNamed rest)

end

mutual

/-- How long a node is: one for a scalar or reference, and for a collection its
two ends and what is between them. -/
def size : Node α → Nat
  | repetition _ | scalar .. => 1
  | sequence _ _ items => 2 + itemsSize items
  | mapping _ _ members => 2 + membersSize members

/-- How long entries are. -/
def itemsSize : List (Node α) → Nat
  | [] => 0
  | n :: rest => size n + itemsSize rest

/-- How long keys and values are. -/
def membersSize : List (Node α × Node α) → Nat
  | [] => 0
  | (k, v) :: rest => size k + size v + membersSize rest

end

end Node

end AgentWorkflow.Yaml
