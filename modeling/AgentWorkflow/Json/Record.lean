import AgentWorkflow.Json.Document

/-!
# Records in documents

How the records of this library are taken out of documents. A record is an
object whose known fields occur at most once and whose other members do not
matter, or an array of the leading fields in their declared order. Both shapes
become the same list of known fields with their documents, from which the
fields are then read one by one: required ones, ones with a default, and
optional ones, for which null means absence.

Readers fail silently. Which of several faults of a document is reported is
not part of any contract here, so `none` is all that is left to say.
-/

namespace AgentWorkflow

namespace Document

/-- The known fields of a record, as far as the document gives them. None if a
known field is given twice, or if an array holds more elements than there are
fields. -/
def fields? (names : List String) : Document → Option (List (String × Document))
  | obj members =>
    let known := members.filter fun m => names.contains m.1
    if (known.map Prod.fst).Nodup then some known else none
  | arr items => if items.length ≤ names.length then some (names.zip items) else none
  | _ => none

/-- A field that must be there. -/
def required {α : Type} (fields : List (String × Document)) (name : String)
    (read : Document → Option α) : Option α :=
  (fields.lookup name).bind read

/-- A field that may be missing. -/
def defaulted {α : Type} (fields : List (String × Document)) (name : String) (default : α)
    (read : Document → Option α) : Option α :=
  match fields.lookup name with
  | none => some default
  | some d => read d

/-- A field that may be missing or null. -/
def optional {α : Type} (fields : List (String × Document)) (name : String)
    (read : Document → Option α) : Option (Option α) :=
  match fields.lookup name with
  | none | some null => some none
  | some d => (read d).map some

/-- A string. -/
def text? : Document → Option String
  | str s => some s
  | _ => none

/-- A truth value. -/
def bool? : Document → Option Bool
  | bool b => some b
  | _ => none

/-- An unsigned 64-bit integer. -/
def word? : Document → Option Nat
  | num n => n.toWord?
  | _ => none

/-- A double; integers are taken for the nearest one. -/
def float? : Document → Option Float
  | num n => some n.toFloat
  | _ => none

/-- An array whose elements can all be read. -/
def list? {α : Type} (read : Document → Option α) : Document → Option (List α)
  | arr items => items.mapM read
  | _ => none

/-- The members of an object. -/
def members? : Document → Option Fields
  | obj members => (membersToJson? members).map Fields.ofMembers
  | _ => none

/-- Something that null stands in for. -/
def orNull {α : Type} (default : α) (read : Document → Option α) : Document → Option α
  | null => some default
  | d => read d

/-- One of a fixed set of names: the name as a string, or as the only key of
an object, with null. -/
def name? : Document → Option String
  | str s => some s
  | obj [(s, null)] => some s
  | _ => none

end Document

/-- A text or nothing, nothing written as null. -/
def Json.ofText? (s : Option String) : Json := s.elim .null .str

end AgentWorkflow
