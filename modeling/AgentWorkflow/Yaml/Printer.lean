import AgentWorkflow.Decimal.Style
import AgentWorkflow.Yaml.Style

/-!
# Writing YAML

Values are written in indented collections, one member or entry to a line;
empty collections are brackets. A sequence that is the value of a member is not
indented further than the member, and a collection that is an entry begins on
the line of its dash. A key that is too long for a line, or does not fit on
one, is announced by a question mark.

The writer is a `Pen`. It knows the column it stands in and what it wrote last,
which is what decides between a space and a new line.
-/

namespace AgentWorkflow.Yaml

/-- A pen that writes YAML. -/
structure Pen where
  /-- What has been written, last character first. -/
  written : List Char := []
  /-- How many characters of this line have been written. -/
  column : Nat := 0
  /-- Whether a blank was written last, or nothing yet. -/
  atBlank : Bool := true
  /-- Whether nothing but indentation was written on this line. -/
  atIndentation : Bool := true

namespace Pen

/-- Writes characters that stay on the line. -/
def put (p : Pen) (cs : List Char) : Pen :=
  { p with written := cs.reverse ++ p.written, column := p.column + cs.length }

/-- Writes a break. -/
def putBreak (p : Pen) (c : Char) : Pen := { p with written := c :: p.written, column := 0 }

/-- Moves to a column, on a new line unless this one is still empty up to
there. -/
def indentTo (column : Nat) (p : Pen) : Pen :=
  let p :=
    if !p.atIndentation || p.column > column || (p.column = column && !p.atBlank) then
      p.putBreak '\n'
    else p
  { p.put (List.replicate (column - p.column) ' ') with atBlank := true, atIndentation := true }

/-- Writes punctuation, perhaps behind a space, and perhaps as a part of the
indentation. -/
def indicator (text : String) (spaced indents : Bool) (p : Pen) : Pen :=
  let p := if spaced && !p.atBlank then p.put [' '] else p
  { p.put text.toList with atBlank := false, atIndentation := p.atIndentation && indents }

/-- Writes a text as it is. -/
def plain (cs : List Char) (p : Pen) : Pen :=
  let p := if !p.atBlank && !cs.isEmpty then p.put [' '] else p
  { p.put cs with atBlank := false, atIndentation := false }

/-- Writes the inside of single quotes. Quotes are doubled, and a line behind a
break is indented. -/
def singleQuotedText (column : Nat) (broken : Bool) (p : Pen) : List Char → Pen
  | [] => if broken then p.indentTo column else p
  | c :: rest =>
    if isBreak c then
      singleQuotedText column true { p.putBreak c with atIndentation := true } rest
    else if c = ' ' then singleQuotedText column broken (p.put [c]) rest
    else
      let p := if broken then p.indentTo column else p
      let p := p.put (if c = '\'' then [c, c] else [c])
      singleQuotedText column false { p with atIndentation := false } rest

/-- A character inside double quotes. -/
def escape (c : Char) : List Char :=
  let short : Option Char :=
    [('\x00', '0'), ('\x07', 'a'), ('\x08', 'b'), ('\t', 't'), ('\n', 'n'), ('\x0b', 'v'),
      ('\x0c', 'f'), ('\r', 'r'), ('\x1b', 'e'), ('\x22', '\x22'), ('\\', '\\'),
      ('\u0085', 'N'), ('\u2028', 'L'), ('\u2029', 'P')].lookup c
  match short with
  | some letter => ['\\', letter]
  | none =>
    if isPrintable c then [c]
    else if c.toNat ≤ 0xFF then ['\\', 'x'] ++ Text.hex 2 c.toNat
    else if c.toNat ≤ 0xFFFF then ['\\', 'u'] ++ Text.hex 4 c.toNat
    else ['\\', 'U'] ++ Text.hex 8 c.toNat

/-- Writes the lines of a literal scalar. -/
def literalText (column : Nat) (broken : Bool) (p : Pen) : List Char → Pen
  | [] => p
  | c :: rest =>
    if isBreak c then
      literalText column true { p.putBreak c with atIndentation := true } rest
    else
      let p := if broken then p.indentTo column else p
      literalText column false { p.put [c] with atIndentation := false } rest

/-- What is said behind the indicator of a literal scalar: how far it is
indented, if its first line does not show it, and which breaks at its end
count, if it is not exactly one. -/
def literalHints (cs : List Char) : String :=
  let first := if cs.head?.any fun c => c = ' ' || isBreak c then "2" else ""
  let last := match cs.reverse with
    | [] => "-"
    | c :: before =>
      if !isBreak c then "-" else if before.head?.all isBreak then "+" else ""
  first ++ last

/-- Writes a scalar whose own lines would begin at a column. -/
def scalar (style : Style) (column : Nat) (s : String) (p : Pen) : Pen :=
  let cs := s.toList
  match style with
  | .plain => p.plain cs
  | .singleQuoted =>
    ((p.indicator "'" true false).singleQuotedText column false cs).indicator "'" false false
  | .doubleQuoted =>
    ((p.indicator "\x22" true false).put (cs.flatMap escape)).indicator "\x22" false false
  | .literal =>
    let p := (p.indicator "|" true false).indicator (literalHints cs) false false
    literalText column true { p.putBreak '\n' with atBlank := true, atIndentation := true } cs

/-- Whether a key fits in front of its colon. -/
def isShortKey (key : String) : Bool := key.utf8ByteSize ≤ 128 && !key.toList.any isBreak

/-- Writes a key and the colon behind it. -/
def key (column : Nat) (k : String) (p : Pen) : Pen :=
  let p := p.indentTo column
  if isShortKey k then
    (p.scalar (Style.ofString true k) (column + 2) k).indicator ":" false false
  else
    let p := (p.indicator "?" true true).scalar (Style.ofString false k) (column + 2) k
    (p.indentTo column).indicator ":" true true

mutual

/-- Writes a value in a collection at a column. `ofMember` tells whether it is
the value of a member that stands on this line. -/
def value (column : Nat) (ofMember : Bool) (p : Pen) : Json → Pen
  | .null => p.plain "null".toList
  | .bool b => p.plain (if b then "true" else "false").toList
  | .num (.int n) => p.plain (toString n).toList
  | .num (.float x) => p.plain (DecimalStyle.yaml.float x).toList
  | .str s => p.scalar (Style.ofString false s) (column + 2) s
  | .arr [] => (p.indicator "[" true false).indicator "]" false false
  | .arr (item :: rest) =>
    let column := if ofMember && !p.atIndentation then column else column + 2
    entries column p (item :: rest)
  | .obj [] => (p.indicator "\x7b" true false).indicator "\x7d" false false
  | .obj (m :: rest) => members (column + 2) p (m :: rest)

/-- Writes entries at a column. -/
def entries (column : Nat) (p : Pen) : List Json → Pen
  | [] => p
  | item :: rest =>
    entries column (value column false ((p.indentTo column).indicator "-" true true) item) rest

/-- Writes members at a column. -/
def members (column : Nat) (p : Pen) : List (String × Json) → Pen
  | [] => p
  | (k, v) :: rest => members column (value column true (p.key column k) v) rest

end

end Pen

/-- **The YAML text of an object.** -/
def render (members : List (String × Json)) : String :=
  let p := match members with
    | [] => ((({} : Pen).indicator "\x7b" true false).indicator "\x7d" false false)
    | ms => Pen.members 0 {} ms
  String.ofList (p.indentTo 0).written.reverse

end AgentWorkflow.Yaml
