import AgentWorkflow.Text
import AgentWorkflow.Yaml.Token.Folding

/-!
# Scalars

Four ways to write a scalar. *Plain* ones end where something else begins: at
a colon before a blank, at a comment, at a line that is indented less, and
inside brackets at punctuation. *Quoted* ones end at their quote; in double
quotes there are escapes. *Block* scalars have lines of their own, which are
kept as they are or folded, and end with the first line that is indented less.
-/

namespace AgentWorkflow.Yaml

namespace Cursor

/-! ## Plain scalars -/

/-- Whether a character ends a plain scalar inside brackets. -/
def isFlowPunctuation (c : Char) : Bool := ",[]\x7b\x7d".toList.contains c

/-- Reads a plain scalar that may not go on in front of a column. None if a
tab takes part in the indentation of a line, or if a colon inside brackets is
directly followed by punctuation. -/
def scanPlain? (inFlow : Bool) (column : Nat) (c : Cursor) (f : Folding) :
    Option (Folding × Cursor) :=
  match _ : c.rest with
  | [] => some (f, c)
  | ch :: _ =>
    if isBlank ch then
      if f.broken ∧ c.column < column ∧ ch = '\t' then none
      else scanPlain? inFlow column (c.skip 1) (f.addBlank ch)
    else if isBreak ch then
      scanPlain? inFlow column c.skipBreak (f.addBreak c.breakText)
    else if c.atDocumentIndicator || (f.isPending && ch = '#')
        || (f.isPending && !inFlow && c.column < column) then some (f, c)
    else if inFlow && ch = ':' && (c.peek? 1).any fun n => n = '?' || isFlowPunctuation n then
      none
    else if (ch = ':' && c.endsAt 1) || (inFlow && isFlowPunctuation ch) then some (f, c)
    else scanPlain? inFlow column (c.skip 1) (f.add ch)
termination_by c.rest.length
decreasing_by
  all_goals first
    | exact length_skip_lt (by decide) (by simp [*])
    | exact length_skipBreak_lt (by simp [*])

/-! ## Quoted scalars -/

/-- What a letter stands for behind a backslash. -/
def escaped? (c : Char) : Option Char :=
  [('0', '\x00'), ('a', '\x07'), ('b', '\x08'), ('t', '\t'), ('\t', '\t'), ('n', '\n'),
    ('v', '\x0b'), ('f', '\x0c'), ('r', '\r'), ('e', '\x1b'), (' ', ' '), ('\x22', '\x22'),
    ('/', '/'), ('\\', '\\'), ('N', '\u0085'), ('_', '\u00a0'), ('L', '\u2028'),
    ('P', '\u2029')].lookup c

/-- How many hexadecimal digits follow a letter behind a backslash. -/
def escapeLength? (c : Char) : Option Nat := [('x', 2), ('u', 4), ('U', 8)].lookup c

/-- The character a number stands for; half of a pair is none. -/
def character? (n : Nat) : Option Char := if n.isValidChar then some (Char.ofNat n) else none

/-- The escape at a backslash: its character, and how much to skip. -/
def escape? (c : Cursor) : Option (Char × Nat) := do
  let letter ← c.peek? 1
  match escapeLength? letter with
  | some n =>
    let digits := (c.rest.drop 2).take n
    if digits.length = n then return (← character? (← Text.readDigits? 16 digits), n + 2)
    else none
  | none => return (← escaped? letter, 2)

/-- Reads a scalar in single or double quotes, from behind the first one. None
if it does not end, if a document ends in the middle of it, or if an escape
stands for nothing. -/
def scanQuoted? (single : Bool) (c : Cursor) (f : Folding) : Option (String × Cursor) :=
  let quote := if single then '\'' else '\x22'
  match _ : c.rest with
  | [] => none
  | ch :: _ =>
    if c.atDocumentIndicator then none
    else if isBlank ch then scanQuoted? single (c.skip 1) (f.addBlank ch)
    else if isBreak ch then scanQuoted? single c.skipBreak (f.addBreak c.breakText)
    else if ch = quote then
      if single && c.sees 1 quote then scanQuoted? single (c.skip 2) (f.add quote)
      else some (f.settle.result, c.skip 1)
    else if ch = '\\' ∧ single = false then
      if (c.skip 1).atBreak then scanQuoted? single (c.skip 1).skipBreak f.settle.addEscapedBreak
      else
        match c.escape? with
        | some (e, n) =>
          if 0 < n then scanQuoted? single (c.skip n) (f.add e) else none
        | none => none
    else scanQuoted? single (c.skip 1) (f.add ch)
termination_by c.rest.length
decreasing_by
  all_goals first
    | exact length_skip_lt (by decide) (by simp [*])
    | exact length_skip_lt ‹0 < n› (by simp [*])
    | exact length_skipBreak_lt (by simp [*])
    | exact Nat.lt_of_lt_of_le (length_skipBreak_lt (ne_nil_of_atBreak ‹_›)) (length_skip_le _ _)

/-! ## Block scalars -/

/-- What becomes of the breaks at the end of a block scalar. -/
inductive Chomping where
  /-- The first one counts. -/
  | clip
  /-- None counts. -/
  | strip
  /-- All count. -/
  | keep
  deriving DecidableEq

/-- The chomping a sign asks for. -/
def chomping? (c : Cursor) : Option Chomping :=
  if c.sees 0 '+' then some .keep else if c.sees 0 '-' then some .strip else none

/-- The digit that says how far a block scalar is indented. -/
def increment? (c : Cursor) : Option Nat := (c.peek? 0).bind (Text.digitValue? 10)

/-- The header of a block scalar behind its indicator, in either order: how
breaks at the end count, and by how much it is indented. -/
def scanHeader? (c : Cursor) : Option (Chomping × Option Nat × Cursor) :=
  match c.chomping? with
  | some chomping =>
    match (c.skip 1).increment? with
    | some 0 => none
    | some n => some (chomping, some n, c.skip 2)
    | none => some (chomping, none, c.skip 1)
  | none =>
    match c.increment? with
    | some 0 => none
    | some n =>
      match (c.skip 1).chomping? with
      | some chomping => some (chomping, some n, c.skip 2)
      | none => some (.clip, some n, c.skip 1)
    | none => some (.clip, none, c)

/-- Reads the empty lines in front of a line of a block scalar, and the
indentation of that line: up to a given one, or all of it. Gives the breaks and
the largest indentation seen. None if a tab takes part in the indentation. -/
def scanIndentation? (indent : Option Nat) (c : Cursor) (breaks : List Char) (largest : Nat) :
    Option (List Char × Nat × Cursor) :=
  let spaces := (c.rest.takeWhile (· = ' ')).length
  let c' := c.skip (indent.elim spaces fun n => min spaces (n - c.column))
  let largest := max largest c'.column
  if c'.sees 0 '\t' ∧ indent.all (c'.column < ·) then none
  else if _ : c'.atBreak then
    scanIndentation? indent c'.skipBreak (breaks ++ c'.breakText) largest
  else some (breaks, largest, c')
termination_by c.rest.length
decreasing_by
  exact Nat.lt_of_lt_of_le (length_skipBreak_lt (ne_nil_of_atBreak ‹_›)) (length_skip_le _ _)

/-- What has been read of a block scalar. -/
structure BlockText where
  /-- The text. -/
  text : List Char := []
  /-- The break at the end of the last line. -/
  lineBreak : List Char := []
  /-- The empty lines behind it. -/
  emptyLines : List Char := []
  /-- Whether the last line began with a blank. -/
  startedBlank : Bool := false

/-- The text with one more line. In a folded scalar a break between two lines
that begin with no blank is a space, or nothing if empty lines follow it. -/
def BlockText.addLine (t : BlockText) (folded : Bool) (line lineBreak : List Char)
    (emptyLines : List Char) : BlockText :=
  let startsBlank := line.head?.any isBlank
  let joint :=
    if folded ∧ t.lineBreak = ['\n'] ∧ !t.startedBlank ∧ !startsBlank then
      if t.emptyLines.isEmpty then [' '] else t.emptyLines
    else t.lineBreak ++ t.emptyLines
  { text := t.text ++ joint ++ line, lineBreak, emptyLines, startedBlank := startsBlank }

/-- Reads the lines of a block scalar from the first one on. -/
def scanLines? (folded : Bool) (indent : Nat) (c : Cursor) (t : BlockText) :
    Option (BlockText × Cursor) :=
  if c.column = indent ∧ c.rest ≠ [] then
    let line := c.rest.takeWhile fun ch => !isBreak ch
    let ended := c.skip line.length
    let next := if ended.atBreak then ended.skipBreak else ended
    match scanIndentation? (some indent) next [] 0 with
    | none => none
    | some (breaks, _, next') =>
      let t := t.addLine folded line (if ended.atBreak then ended.breakText else []) breaks
      if next'.rest.length < c.rest.length then scanLines? folded indent next' t
      else some (t, next')
  else some (t, c)
termination_by c.rest.length

/-- **Reads a block scalar** from its indicator on, inside a collection that is
indented to a column (`-1` for none). -/
def scanBlock? (folded : Bool) (parent : Int) (c : Cursor) : Option (String × Cursor) := do
  let (chomping, increment, c) ← (c.skip 1).scanHeader?
  let c ← c.finishLine?
  let given := increment.map fun n => if 0 ≤ parent then parent.toNat + n else n
  let (breaks, largest, c) ← scanIndentation? given c [] 0
  let indent := given.getD (max largest (max (parent + 1).toNat 1))
  let (t, c) ← scanLines? folded indent c { emptyLines := breaks }
  let ending := match chomping with
    | .strip => []
    | .clip => t.lineBreak
    | .keep => t.lineBreak ++ t.emptyLines
  return (String.ofList (t.text ++ ending), c)

end Cursor

end AgentWorkflow.Yaml
