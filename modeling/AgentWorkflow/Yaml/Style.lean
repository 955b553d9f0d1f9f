import AgentWorkflow.Yaml.Scalar
import AgentWorkflow.Yaml.Cursor

/-!
# How a string is written in YAML

A string is written as plainly as possible. It is quoted if its text would be
read as anything but a string, or if something in it would be read as
punctuation; a string of several lines is written on lines of its own. Single
quotes are preferred to double ones, which are left for what cannot be written
as it is.
-/

namespace AgentWorkflow.Yaml

/-- The ways to write a scalar. -/
inductive Style where
  /-- As it is. -/
  | plain
  /-- In single quotes. -/
  | singleQuoted
  /-- In double quotes, with escapes. -/
  | doubleQuoted
  /-- On lines of its own. -/
  | literal
  deriving DecidableEq

/-- Whether a character is written as it is. Those outside the basic plane are
not, although they could be. -/
def isPrintable (c : Char) : Bool :=
  let n := c.toNat
  n = 0xA || (0x20 ≤ n && n ≤ 0x7E) || (0xA0 ≤ n && n ≤ 0xD7FF)
    || (0xE000 ≤ n && n ≤ 0xFFFD && n ≠ 0xFEFF)

namespace Style

/-- Whether nothing, a blank or a break stands in front of or behind a
character. -/
def endsWord (c : Option Char) : Bool := c.all fun c => isBlank c || isBreak c

/-- Whether the beginning of a text would be read as punctuation. -/
def startsWithIndicator : List Char → Bool
  | [] => false
  | c :: rest =>
    "#,[]\x7b\x7d&*!|>'\x22%@`".toList.contains c
      || ((c = '?' || c = ':' || c = '-') && endsWord rest.head?)

/-- Whether something behind the first character would be read as punctuation:
a colon in front of a blank, or a number sign behind one. -/
def holdsIndicator (previous : Char) : List Char → Bool
  | [] => false
  | c :: rest =>
    (c = ':' && endsWord rest.head?) || (c = '#' && endsWord (some previous))
      || holdsIndicator c rest

/-- Whether two neighbouring characters satisfy a condition. -/
def hasNeighbours (test : Char → Char → Bool) (cs : List Char) : Bool :=
  (cs.zip (cs.drop 1)).any fun p => test p.1 p.2

/-- Whether a text may stand as it is, apart from what it would be read as. -/
def allowsPlain (cs : List Char) : Bool :=
  !("---".toList.isPrefixOf cs || "...".toList.isPrefixOf cs)
    && !startsWithIndicator cs
    && !holdsIndicator (cs.head?.getD ' ') (cs.drop 1)
    && !cs.any isBreak
    && cs.all isPrintable
    && cs.head? ≠ some ' ' && cs.getLast? ≠ some ' '

/-- Whether a text may stand in single quotes. -/
def allowsSingleQuotes (cs : List Char) : Bool :=
  cs.all isPrintable
    && !hasNeighbours (fun a b => isBreak a && b = ' ') cs
    && !hasNeighbours (fun a b => a = ' ' && isBreak b) cs

/-- Whether a text may stand on lines of its own. -/
def allowsLiteral (cs : List Char) : Bool :=
  !cs.isEmpty && cs.all isPrintable && cs.getLast? ≠ some ' '
    && !hasNeighbours (fun a b => a = ' ' && isBreak b) cs

/-- Whether a text without quotes would be read as something else than a
string, or looks like a number too much. -/
def needsQuotes (s : String) : Bool :=
  match Scalar.plainValue? s with
  | none => true
  | some (.str _) => isZeroPadded s.toList
  | some _ => true

/-- **How a string is written.** `inKey` tells whether it has to stay on the
line of a key. -/
def ofString (inKey : Bool) (s : String) : Style :=
  let cs := s.toList
  let quoted := if allowsSingleQuotes cs then singleQuoted else doubleQuoted
  if cs.contains '\n' then
    if allowsLiteral cs && !inKey then literal else doubleQuoted
  else if needsQuotes s then quoted
  else if allowsPlain cs then plain
  else quoted

end Style

end AgentWorkflow.Yaml
