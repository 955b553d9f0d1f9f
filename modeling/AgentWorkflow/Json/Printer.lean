import AgentWorkflow.Decimal.Style
import AgentWorkflow.Json.Value

/-!
# Writing JSON

Two spellings of a value: `Json.compact` on one line without blanks, and
`Json.pretty` with one member or element per line, indented by two spaces.
Members are written in their order. Escapes are used only where JSON demands
them: for quotes, backslashes and control characters.
-/

namespace AgentWorkflow

namespace JsonNumber

/-- The text of a number. Infinities and NaN have no JSON spelling and read
`null`. -/
def render : JsonNumber → String
  | int n => toString n
  | float x => if x.isFinite then DecimalStyle.json.float x else "null"

end JsonNumber

namespace Json

/-- A character inside a string: the short escapes where JSON has one,
`\u00xx` in small letters for the other control characters, itself
otherwise. -/
def escapeChar (c : Char) : List Char :=
  if c = '\x22' then ['\\', '\x22']
  else if c = '\\' then ['\\', '\\']
  else if c = '\n' then ['\\', 'n']
  else if c = '\r' then ['\\', 'r']
  else if c = '\t' then ['\\', 't']
  else if c.toNat = 8 then ['\\', 'b']
  else if c.toNat = 12 then ['\\', 'f']
  else if c.toNat < 32 then
    ['\\', 'u'] ++ (Text.hex 4 c.toNat).map Char.toLower
  else [c]

/-- A string in quotes. -/
def quote (s : String) : String :=
  "\x22" ++ String.ofList (s.toList.flatMap escapeChar) ++ "\x22"

mutual

/-- The value on one line, without blanks. -/
def compact : Json → String
  | null => "null"
  | bool b => if b then "true" else "false"
  | num n => n.render
  | str s => quote s
  | arr items => "[" ++ compactItems items ++ "]"
  | obj members => "\x7b" ++ compactMembers members ++ "\x7d"

/-- Elements separated by commas. -/
def compactItems : List Json → String
  | [] => ""
  | [x] => compact x
  | x :: rest => compact x ++ "," ++ compactItems rest

/-- Members separated by commas. -/
def compactMembers : List (String × Json) → String
  | [] => ""
  | [(k, v)] => quote k ++ ":" ++ compact v
  | (k, v) :: rest => quote k ++ ":" ++ compact v ++ "," ++ compactMembers rest

end

/-- The line break in front of something `level` steps in. -/
def breakTo (level : Nat) : String := "\n" ++ Text.repeated (2 * level) ' '

mutual

/-- The value over several lines, its own brackets `level` steps in. -/
def prettyAt (level : Nat) : Json → String
  | null => "null"
  | bool b => if b then "true" else "false"
  | num n => n.render
  | str s => quote s
  | arr [] => "[]"
  | arr (x :: rest) =>
    "[" ++ breakTo (level + 1) ++ prettyAt (level + 1) x ++ prettyItems (level + 1) rest
      ++ breakTo level ++ "]"
  | obj [] => "\x7b\x7d"
  | obj ((k, v) :: rest) =>
    "\x7b" ++ breakTo (level + 1) ++ quote k ++ ": " ++ prettyAt (level + 1) v
      ++ prettyMembers (level + 1) rest ++ breakTo level ++ "\x7d"

/-- The elements after the first, each on a line of its own. -/
def prettyItems (level : Nat) : List Json → String
  | [] => ""
  | x :: rest => "," ++ breakTo level ++ prettyAt level x ++ prettyItems level rest

/-- The members after the first, each on a line of its own. -/
def prettyMembers (level : Nat) : List (String × Json) → String
  | [] => ""
  | (k, v) :: rest =>
    "," ++ breakTo level ++ quote k ++ ": " ++ prettyAt level v ++ prettyMembers level rest

end

/-- **The value over several lines**, two spaces to a step. -/
def pretty (j : Json) : String := prettyAt 0 j

end Json

end AgentWorkflow
