import AgentWorkflow.Toml.Quoted

/-!
# Keys in TOML

A key is one or more parts with dots between them: all but the last part lead
through tables, and the last one names something in the table they lead to. A
part is bare or quoted on one line, and blanks around the dots do not matter.
-/

namespace AgentWorkflow.Toml

/-- A key. -/
structure Key where
  /-- The tables to go through. -/
  path : List String := []
  /-- The name in the last of them. -/
  name : String

/-- How deep arrays, inline tables and the parts of a key may nest; at this
depth is too deep. -/
def depthLimit : Nat := 80

/-- Whether a character may stand in a bare part of a key. -/
def isBare (c : Char) : Bool := c.isAlphanum || c = '_' || c = '-'

/-- The part of a key that begins here, and what follows it. -/
def part? (s : List Char) : Option (String × List Char) :=
  match s with
  | '\x22' :: r => (basic? r).map fun (p, t) => (String.ofList p, t)
  | '\'' :: r => (literal? r).map fun (p, t) => (String.ofList p, t)
  | _ =>
    if (s.takeWhile isBare).isEmpty then none
    else some (String.ofList (s.takeWhile isBare), s.dropWhile isBare)

/-- The parts of the key that begins here, and what follows them. -/
def parts? (s : List Char) : Option (List String × List Char) :=
  match part? (skipBlanks s) with
  | none => none
  | some (p, r) =>
    match skipBlanks r with
    | '.' :: r' =>
      if r'.length < s.length then (parts? r').map fun (ps, t) => (p :: ps, t) else none
    | r' => some ([p], r')
termination_by s.length

/-- **The key that begins here**, with the blanks around it, and what follows. -/
def key? (s : List Char) : Option (Key × List Char) := do
  let (parts, r) ← parts? s
  let name ← parts.getLast?
  if parts.length < depthLimit then some (⟨parts.dropLast, name⟩, r) else none

end AgentWorkflow.Toml
