/-!
# Places in a YAML text

YAML is a format of columns and lines: where a token stands decides what it
means. A `Cursor` is the part of a text that has not been read, together with
the place where it begins. Five characters end a line, a carriage return and
a line feed together count as one break, and no other character does.
-/

namespace AgentWorkflow.Yaml

/-- Whether a character ends a line. -/
def isBreak (c : Char) : Bool :=
  c = '\n' || c = '\r' || c = '\u0085' || c = '\u2028' || c = '\u2029'

/-- Whether a character is a space or a tab. -/
def isBlank (c : Char) : Bool := c = ' ' || c = '\t'

/-- Whether a character may stand in an anchor, a tag handle or the name of a
directive. -/
def isWordCharacter (c : Char) : Bool := c.isAlphanum || c = '_' || c = '-'

/-- Whether a YAML text may hold a character at all. -/
def isAllowed (c : Char) : Bool :=
  let n := c.toNat
  n = 0x9 || n = 0xA || n = 0xD || (0x20 ≤ n && n ≤ 0x7E) || n = 0x85
    || (0xA0 ≤ n && n ≤ 0xD7FF) || (0xE000 ≤ n && n ≤ 0xFFFD) || 0x10000 ≤ n

/-- The mark that may stand at the beginning of a line and means nothing. -/
def byteOrderMark : Char := '\uFEFF'

/-- The rest of a text, and where it begins. -/
structure Cursor where
  /-- What has not been read. -/
  rest : List Char
  /-- How many characters have been read. -/
  index : Nat := 0
  /-- How many lines have been read. -/
  line : Nat := 0
  /-- How many characters of this line have been read. -/
  column : Nat := 0

namespace Cursor

/-- The character at a distance. -/
def peek? (c : Cursor) (distance : Nat) : Option Char := c.rest[distance]?

/-- Whether the character at a distance is a given one. -/
def sees (c : Cursor) (distance : Nat) (ch : Char) : Bool := c.peek? distance == some ch

/-- Whether nothing, a blank or a break stands at a distance. -/
def endsAt (c : Cursor) (distance : Nat) : Bool :=
  (c.peek? distance).all fun ch => isBlank ch || isBreak ch

/-- Reads some characters of this line. -/
def skip (c : Cursor) (n : Nat) : Cursor :=
  { c with rest := c.rest.drop n, index := c.index + n, column := c.column + n }

/-- Reads all characters up to one that does not pass a test, which must not
lie on another line. -/
def skipWhile (c : Cursor) (test : Char → Bool) : Cursor :=
  c.skip (c.rest.takeWhile test).length

/-- Reads up to a later part of this line. -/
def skipTo (c : Cursor) (rest : List Char) : Cursor := c.skip (c.rest.length - rest.length)

/-- Reads to the end of this line. -/
def skipToBreak (c : Cursor) : Cursor := c.skipWhile fun ch => !isBreak ch

/-- Reads a break. -/
def skipBreak (c : Cursor) : Cursor :=
  let n := if c.sees 0 '\r' && c.sees 1 '\n' then 2 else 1
  { rest := c.rest.drop n, index := c.index + n, line := c.line + 1, column := 0 }

/-- The break as it counts in a scalar: all kinds but the two separators are
the same. -/
def breakText (c : Cursor) : List Char :=
  if c.sees 0 '\u2028' || c.sees 0 '\u2029' then c.rest.take 1 else ['\n']

/-- Whether the cursor stands on a break. -/
def atBreak (c : Cursor) : Bool := (c.peek? 0).any isBreak

/-- Whether a line begins here with three equal characters that stand
alone. -/
def atTriple (c : Cursor) (ch : Char) : Bool :=
  c.column = 0 && c.rest.take 3 == [ch, ch, ch] && c.endsAt 3

/-- Whether a line begins here that starts or ends a document. -/
def atDocumentIndicator (c : Cursor) : Bool := c.atTriple '-' || c.atTriple '.'

/-- The blanks, and perhaps a comment, up to the end of this line; nothing if
something else is there. -/
def finishLine? (c : Cursor) : Option Cursor :=
  let c := c.skipWhile isBlank
  let c := if c.sees 0 '#' then c.skipToBreak else c
  if c.atBreak then some c.skipBreak else if c.rest.isEmpty then some c else none

theorem length_skip_le (c : Cursor) (n : Nat) : (c.skip n).rest.length ≤ c.rest.length := by
  simp [skip]

theorem length_skip_lt {c : Cursor} {n : Nat} (hn : 0 < n) (h : c.rest ≠ []) :
    (c.skip n).rest.length < c.rest.length := by
  have : 0 < c.rest.length := List.length_pos_iff.2 h
  simp only [skip, List.length_drop]
  omega

theorem length_skipBreak_lt {c : Cursor} (h : c.rest ≠ []) :
    c.skipBreak.rest.length < c.rest.length := by
  have : 0 < c.rest.length := List.length_pos_iff.2 h
  simp only [skipBreak, List.length_drop]
  split <;> omega

theorem ne_nil_of_atBreak {c : Cursor} (h : c.atBreak = true) : c.rest ≠ [] := by
  intro hnil
  simp [atBreak, peek?, hnil] at h

end Cursor

end AgentWorkflow.Yaml
