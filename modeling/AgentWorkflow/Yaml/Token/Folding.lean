import AgentWorkflow.Yaml.Cursor

/-!
# Folding lines

A scalar may run over several lines. Blanks at the end and the beginning of a
line do not count, a single break counts as a space, and of several breaks the
first does not count. Blanks inside a line count as they are. What has been
read of a scalar is therefore its text and, apart from that, the blanks and
breaks behind it, which are settled when the next character comes.
-/

namespace AgentWorkflow.Yaml

/-- What has been read of a scalar. -/
structure Folding where
  /-- The text, last character first. -/
  text : List Char := []
  /-- Blanks behind the text, last one first, as long as there is no break. -/
  blanks : List Char := []
  /-- Whether there is a break behind the text. -/
  broken : Bool := false
  /-- The first break. -/
  firstBreak : List Char := []
  /-- The other breaks. -/
  laterBreaks : List Char := []

namespace Folding

/-- Whether anything is to be settled. -/
def isPending (f : Folding) : Bool := f.broken || !f.blanks.isEmpty

/-- A blank. -/
def addBlank (f : Folding) (c : Char) : Folding :=
  if f.broken then f else { f with blanks := c :: f.blanks }

/-- A break. -/
def addBreak (f : Folding) (text : List Char) : Folding :=
  if f.broken then { f with laterBreaks := f.laterBreaks ++ text }
  else { f with blanks := [], broken := true, firstBreak := text }

/-- A break that does not count, but makes the blanks behind it not count
either. -/
def addEscapedBreak (f : Folding) : Folding := { f with broken := true }

/-- What blanks and breaks amount to. -/
def settled (f : Folding) : List Char :=
  if f.broken then
    if f.firstBreak = ['\n'] then
      if f.laterBreaks.isEmpty then [' '] else f.laterBreaks
    else f.firstBreak ++ f.laterBreaks
  else f.blanks.reverse

/-- Settles blanks and breaks. -/
def settle (f : Folding) : Folding := { text := f.settled.reverse ++ f.text }

/-- A character that is neither blank nor break. -/
def add (f : Folding) (c : Char) : Folding :=
  let f := f.settle
  { f with text := c :: f.text }

/-- The text that has been read. -/
def result (f : Folding) : String := String.ofList f.text.reverse

end Folding

end AgentWorkflow.Yaml
