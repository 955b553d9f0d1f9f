/-!
# Lines of a TOML text

TOML is read line by line, but values may run over several lines. Both kinds of
reading need the same few steps: past blanks, past a comment, to the end of a
line, or past everything that means nothing. A line ends with a line feed, with
or without a carriage return before it; a carriage return alone is an error
everywhere, and so is every other control character but the tab.
-/

namespace AgentWorkflow.Toml

/-- Whether a character is a space or a tab. -/
def isBlank (c : Char) : Bool := c = ' ' || c = '\t'

/-- Whether a character may stand in a comment or, as itself, in a string. -/
def isPrintable (c : Char) : Bool := c = '\t' || (0x20 ≤ c.toNat && c.toNat ≠ 0x7F)

/-- What follows the blanks. -/
def skipBlanks (s : List Char) : List Char := s.dropWhile isBlank

/-- What follows the break that is here. -/
def afterBreak? : List Char → Option (List Char)
  | '\n' :: r => some r
  | '\r' :: '\n' :: r => some r
  | _ => none

/-- What follows a comment, if one is here. -/
def skipComment : List Char → List Char
  | '#' :: r => r.dropWhile isPrintable
  | s => s

/-- The next line, if nothing but blanks and a comment is left of this one. -/
def finishLine? (s : List Char) : Option (List Char) :=
  match skipComment (skipBlanks s) with
  | [] => some []
  | r => afterBreak? r

theorem length_skipBlanks_le (s : List Char) : (skipBlanks s).length ≤ s.length :=
  (List.dropWhile_suffix _).length_le

theorem length_skipComment_le (s : List Char) : (skipComment s).length ≤ s.length := by
  unfold skipComment
  split
  · exact Nat.le_succ_of_le (List.dropWhile_suffix _).length_le
  · exact Nat.le_refl _

theorem length_afterBreak_lt {s r : List Char} (h : afterBreak? s = some r) :
    r.length < s.length := by
  unfold afterBreak? at h
  split at h
  · simp_all
  · simp_all only [Option.some.injEq, List.length_cons]
    omega
  · simp at h

/-- What follows the blanks and breaks. -/
def skipLines (s : List Char) : List Char :=
  match _ : afterBreak? (skipBlanks s) with
  | some r => skipLines r
  | none => skipBlanks s
termination_by s.length
decreasing_by exact Nat.lt_of_lt_of_le (length_afterBreak_lt ‹_›) (length_skipBlanks_le s)

/-- What follows the blanks, breaks and comments. -/
def skipSpace (s : List Char) : List Char :=
  match _ : afterBreak? (skipComment (skipBlanks s)) with
  | some r => skipSpace r
  | none => skipComment (skipBlanks s)
termination_by s.length
decreasing_by
  have := length_skipBlanks_le s
  have := length_skipComment_le (skipBlanks s)
  have := length_afterBreak_lt ‹_›
  omega

end AgentWorkflow.Toml
