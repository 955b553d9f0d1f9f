import AgentWorkflow.Json.Printer

/-!
# Previews of outputs

What the editor shows of an output: an image, or a text. An output counts as
an image if it says so (`data:image…`) or if it is a long text made of base64
digits alone; nothing else of that length and alphabet is worth reading.
Arrays and objects are shown as the beginning of their JSON.
-/

namespace AgentWorkflow

/-- What to show of an output. -/
inductive Preview where
  /-- An image, by its address. -/
  | image (source : String)
  /-- A text. -/
  | text (body : String)

namespace Preview

/-- Whether a character may occur in base64. -/
def isBase64Digit (c : Char) : Bool :=
  c.isAlphanum || c = '+' || c = '/' || c = '='

/-- A text of more than this many bytes is an image if it is base64. -/
def longestPlainText : Nat := 500

/-- How many characters of an array or object are shown. -/
def shownCharacters : Nat := 50

/-- The beginning of a text, followed by dots if anything is left out. -/
def abbreviate (s : String) : String :=
  if s.length > shownCharacters then
    String.ofList (s.toList.take shownCharacters) ++ "..."
  else s

/-- **What to show of an output.** Null shows nothing. -/
def ofOutput? : Json → Option Preview
  | .null => none
  | .str s =>
    if "data:image".toList.isPrefixOf s.toList then some (.image s)
    else if s.utf8ByteSize > longestPlainText ∧ s.toList.all isBase64Digit then
      some (.image ("data:image/png;base64," ++ s))
    else some (.text s)
  | .arr items => some (.text (abbreviate (Json.arr items).compact))
  | .obj members => some (.text (abbreviate (Json.obj members).compact))
  | value => some (.text value.compact)

/-- One line for surfaces that cannot show images. -/
def label : Preview → String
  | image _ => "[Image Data]"
  | text body => body

end Preview

end AgentWorkflow
