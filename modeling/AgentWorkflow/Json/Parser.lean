import AgentWorkflow.Json.Token

/-!
# Reading JSON

The second half of reading JSON: the tokens of a text are fed, one by one,
to a machine that keeps the brackets still open. The machine is a fold over the
tokens, so no bound on its steps is needed, and the number of open brackets is
the length of its stack. Brackets nested deeper than `maxDepth` are read like
any others but leave an unusable document: a reader that skips them succeeds,
one that wants them fails.
-/

namespace AgentWorkflow

namespace Document

/-- How deeply the brackets of a usable part may nest. -/
def maxDepth : Nat := 127

/-- An open bracket and what has been read inside it, last first. -/
inductive OpenBracket where
  /-- An array. -/
  | arr (items : List Document)
  /-- An object. A key without a character for some escape spoils it. -/
  | obj (members : List (Option String × Document))

/-- What may come next. -/
inductive Expects where
  /-- A value; directly after an opening bracket also its end. -/
  | value (first : Bool)
  /-- A key; directly after an opening brace also its end. -/
  | key (first : Bool)
  /-- The colon after this key. -/
  | colon (key : Option String)
  /-- The value of this key. -/
  | member (key : Option String)
  /-- A comma or the end of the innermost bracket. -/
  | separator
  /-- Nothing: the text is complete and stands for this document. -/
  | nothing (result : Document)

/-- The reader between two tokens: open brackets, innermost first, and what
comes next. -/
structure Reader where
  /-- The open brackets. -/
  stack : List OpenBracket
  /-- What may come next. -/
  expects : Expects

namespace Reader

/-- Adds a complete value. -/
def add (r : Reader) (d : Document) : Option Reader :=
  match r.expects, r.stack with
  | .value _, [] => some ⟨[], .nothing d⟩
  | .value _, .arr items :: rest => some ⟨.arr (d :: items) :: rest, .separator⟩
  | .member key, .obj members :: rest =>
    some ⟨.obj ((key, d) :: members) :: rest, .separator⟩
  | _, _ => none

/-- The members of a finished object, unless a key spoils it. -/
def finishMembers (members : List (Option String × Document)) : Document :=
  match members.reverse.mapM fun m => m.1.map fun k => (k, m.2) with
  | some ms => .obj ms
  | none => .unusable

/-- Closes the innermost bracket with the document it holds. -/
def close (r : Reader) (d : Document) : Option Reader :=
  let d := if maxDepth < r.stack.length then .unusable else d
  match r.stack with
  | [] => none
  | _ :: [] => some ⟨[], .nothing d⟩
  | _ :: .arr items :: rest => some ⟨.arr (d :: items) :: rest, .separator⟩
  | _ :: .obj ((key, _) :: members) :: rest =>
    some ⟨.obj ((key, d) :: members) :: rest, .separator⟩
  | _ :: .obj [] :: _ => none

/-- Opens a bracket. The member it belongs to is noted at once, to be filled
when the bracket closes. -/
def openBracket (r : Reader) (b : OpenBracket) (next : Expects) : Option Reader :=
  match r.expects, r.stack with
  | .value _, outer => some ⟨b :: outer, next⟩
  | .member key, .obj members :: rest =>
    some ⟨b :: .obj ((key, .null) :: members) :: rest, next⟩
  | _, _ => none

/-- One token. -/
def step (r : Reader) : JsonToken → Option Reader
  | .openArr => r.openBracket (.arr []) (.value true)
  | .openObj => r.openBracket (.obj []) (.key true)
  | .closeArr =>
    match r.expects, r.stack with
    | .separator, .arr items :: _ => r.close (.arr items.reverse)
    | .value true, .arr _ :: _ => r.close (.arr [])
    | _, _ => none
  | .closeObj =>
    match r.expects, r.stack with
    | .separator, .obj members :: _ => r.close (finishMembers members)
    | .key true, .obj _ :: _ => r.close (.obj [])
    | _, _ => none
  | .comma =>
    match r.expects, r.stack with
    | .separator, .arr _ :: _ => some { r with expects := .value false }
    | .separator, .obj _ :: _ => some { r with expects := .key false }
    | _, _ => none
  | .colon =>
    match r.expects with
    | .colon key => some { r with expects := .member key }
    | _ => none
  | .text s =>
    match r.expects with
    | .key _ => some { r with expects := .colon s }
    | _ => r.add (s.elim .unusable .str)
  | .leaf d => r.add d

end Reader

/-- **Reads a JSON text**; none if it is not one. -/
def parse? (text : String) : Option Document :=
  match (JsonToken.tokens? text.toList).bind fun ts =>
      ts.foldlM Reader.step ⟨[], .value false⟩ with
  | some ⟨_, .nothing d⟩ => some d
  | _ => none

end Document

/-- The value a JSON text stands for, if it stands for one. -/
def Json.parse? (text : String) : Option Json :=
  (Document.parse? text).bind Document.toJson?

end AgentWorkflow
