import AgentWorkflow.Json.Value

/-!
# Documents: texts as they were read

A text says more than the value it stands for. It may name a member twice,
and it may hold parts that have no value: a number too large for a double, an
escape that is half of a character, brackets nested too deeply. Whether such a
part matters is for the reader to decide: whoever asks for it fails, and
whoever skips it does not notice. A `Document` keeps all members in order,
repeated ones too, and marks the parts without a value.

Every value is also a document, one without repetitions or unusable parts
(`Json.toDocument`), so that the same readers take records out of texts and out
of values.
-/

namespace AgentWorkflow

/-- A text as it was read. -/
inductive Document where
  /-- The null value. -/
  | null
  /-- A truth value. -/
  | bool (b : Bool)
  /-- A number; formats other than JSON can spell infinities and NaN. -/
  | num (n : JsonNumber)
  /-- A string. -/
  | str (s : String)
  /-- An array. -/
  | arr (items : List Document)
  /-- An object with all its members, repeated keys included. -/
  | obj (members : List (String × Document))
  /-- A part that is well formed and stands for nothing. -/
  | unusable
  deriving Inhabited

namespace Document

mutual

/-- **The value a document stands for.** A repeated key keeps its first place
and takes its last value; a number that is not finite becomes null. Nothing is
the value of a document with an unusable part. -/
def toJson? : Document → Option Json
  | null => some .null
  | bool b => some (.bool b)
  | num (.int n) => some (.num (.int n))
  | num (.float x) => some (if x.isFinite then .num (.float x) else .null)
  | str s => some (.str s)
  | arr items => (itemsToJson? items).map .arr
  | obj members => (membersToJson? members).map fun ms => .obj (Fields.ofMembers ms)
  | unusable => none

/-- The values of all elements. -/
def itemsToJson? : List Document → Option (List Json)
  | [] => some []
  | d :: rest =>
    match toJson? d, itemsToJson? rest with
    | some j, some js => some (j :: js)
    | _, _ => none

/-- The values of all members. -/
def membersToJson? : List (String × Document) → Option (List (String × Json))
  | [] => some []
  | (k, d) :: rest =>
    match toJson? d, membersToJson? rest with
    | some j, some js => some ((k, j) :: js)
    | _, _ => none

end

end Document

namespace Json

mutual

/-- The value as a document. -/
def toDocument : Json → Document
  | null => .null
  | bool b => .bool b
  | num n => .num n
  | str s => .str s
  | arr items => .arr (itemsToDocument items)
  | obj members => .obj (membersToDocument members)

/-- The elements as documents. -/
def itemsToDocument : List Json → List Document
  | [] => []
  | j :: rest => toDocument j :: itemsToDocument rest

/-- The members as documents. -/
def membersToDocument : List (String × Json) → List (String × Document)
  | [] => []
  | (k, j) :: rest => (k, toDocument j) :: membersToDocument rest

end

end Json

end AgentWorkflow
