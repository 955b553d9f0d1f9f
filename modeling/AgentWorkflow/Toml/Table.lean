import AgentWorkflow.Json.Document
import AgentWorkflow.Toml.Key

/-!
# Tables in TOML

A table comes into being in one of three ways: a header names it, a header
leads through it, or a dotted key leads through it. Which it was decides what
may happen to it later, since no text may say twice what a table holds:

* a table that a header led through may still get a header of its own, and then
  counts as written there;
* a dotted key may pass through a table that a header led through, but ends in
  a table only if dotted keys made it;
* a table in braces is closed with its brace, and so is every other value.

Headers in double brackets add to an array of tables, and a path that leads
through such an array leads through its last table.
-/

namespace AgentWorkflow.Toml

/-- How a table came into being. -/
inductive Origin where
  /-- It has a header, or is an element of an array or the whole text. -/
  | header
  /-- A header leads through it. -/
  | path
  /-- A dotted key leads through it. -/
  | dotted
  deriving DecidableEq

/-- What a key of a table can stand for. -/
inductive Entry where
  /-- A value, which nothing can be added to. -/
  | value (d : Document)
  /-- A table. -/
  | table (origin : Origin) (members : List (String × Entry))
  /-- An array of tables. -/
  | tables (elements : List (List (String × Entry)))

/-- What a table holds, in order. -/
abbrev Members := List (String × Entry)

namespace Members

/-- Puts another entry in the place of a key. -/
def replace (members : Members) (key : String) (entry : Entry) : Members :=
  members.map fun m => if m.1 = key then (key, entry) else m

/-- **Changes the table that a path leads to.** Tables that are missing on the
way come into being. -/
def alter (origin : Origin) (change : Origin → Members → Option Members) :
    List String → Origin → Members → Option Members
  | [], own, members => change own members
  | key :: path, _, members =>
    match members.lookup key with
    | none => (alter origin change path origin []).map fun t => members ++ [(key, .table origin t)]
    | some (.value _) => none
    | some (.table own t) =>
      if origin = .dotted ∧ own = .header then none
      else (alter origin change path own t).map fun t => members.replace key (.table own t)
    | some (.tables elements) =>
      elements.getLast?.bind fun t =>
        (alter origin change path .header t).map fun t =>
          members.replace key (.tables (elements.dropLast ++ [t]))

/-- **Gives a key its value.** The key must be new, and if it is dotted, the
table it ends in must be one that dotted keys made. -/
def add (members : Members) (key : Key) (value : Document) : Option Members :=
  alter .dotted (fun own t =>
    if (own = .dotted) = key.path.isEmpty ∨ (t.lookup key.name).isSome then none
    else some (t ++ [(key.name, .value value)])) key.path .header members

/-- Gives many keys their values. -/
def addAll (members : Members) (pairs : List (Key × Document)) : Option Members :=
  pairs.foldlM (fun t p => t.add p.1 p.2) members

/-- **Adds the table that a header names**, and what is written under it. -/
def addTable (members : Members) (key : Key) (pairs : List (Key × Document)) : Option Members :=
  alter .path (fun _ t =>
    match t.lookup key.name with
    | none => (addAll [] pairs).map fun new => t ++ [(key.name, .table .header new)]
    | some (.table .path old) =>
      (addAll old pairs).map fun new =>
        t.filter (·.1 ≠ key.name) ++ [(key.name, .table .header new)]
    | _ => none) key.path .header members

/-- **Adds an element to the array of tables that a header names**, with what is
written under it. -/
def addElement (members : Members) (key : Key) (pairs : List (Key × Document)) :
    Option Members :=
  alter .path (fun _ t =>
    match t.lookup key.name with
    | none => (addAll [] pairs).map fun new => t ++ [(key.name, .tables [new])]
    | some (.tables elements) =>
      (addAll [] pairs).map fun new => t.replace key.name (.tables (elements ++ [new]))
    | _ => none) key.path .header members

end Members

mutual

/-- The entry as a document. -/
def Entry.toDocument : Entry → Document
  | .value d => d
  | .table _ t => .obj (Members.toDocuments t)
  | .tables elements => .arr (Members.elementDocuments elements)

/-- The entries as documents. -/
def Members.toDocuments : Members → List (String × Document)
  | [] => []
  | (k, e) :: rest => (k, e.toDocument) :: Members.toDocuments rest

/-- The tables of an array as documents. -/
def Members.elementDocuments : List (List (String × Entry)) → List Document
  | [] => []
  | t :: rest => .obj (Members.toDocuments t) :: Members.elementDocuments rest

end

end AgentWorkflow.Toml
