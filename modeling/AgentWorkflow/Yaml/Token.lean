/-!
# The tokens of a YAML text

Beside the punctuation that is written, a YAML text has punctuation that is
not: where a line is indented further than the collection around it a
collection begins, and where one is indented less a collection ends. Both
kinds are tokens here, so that whoever reads them need not look at columns
again. A key that turns out to be one only at its colon has its token put in
front of it afterwards.
-/

namespace AgentWorkflow.Yaml

/-- A token. -/
inductive Token where
  /-- The version of YAML a document is written in. -/
  | versionDirective (major minor : Nat)
  /-- What a tag handle stands for, as bytes. -/
  | tagDirective (handle : String) (expansion : List UInt8)
  /-- Three dashes. -/
  | documentStart
  /-- Three dots. -/
  | documentEnd
  /-- A sequence begins by indentation. -/
  | blockSequenceStart
  /-- A mapping begins by indentation. -/
  | blockMappingStart
  /-- An indented collection ends. -/
  | blockEnd
  /-- An opening bracket. -/
  | flowSequenceStart
  /-- A closing bracket. -/
  | flowSequenceEnd
  /-- An opening brace. -/
  | flowMappingStart
  /-- A closing brace. -/
  | flowMappingEnd
  /-- The dash of an entry. -/
  | blockEntry
  /-- A comma. -/
  | flowEntry
  /-- A key follows. -/
  | key
  /-- A value follows. -/
  | value
  /-- A node that was named elsewhere. -/
  | repetition (name : String)
  /-- A name for the node that follows. -/
  | anchor (name : String)
  /-- A tag for the node that follows: its handle, and what is written behind
  it, as bytes. -/
  | tag (handle : String) (suffix : List UInt8)
  /-- A scalar, and whether it was written without quotes and on no lines of
  its own. -/
  | scalar (text : String) (plain : Bool)
  deriving DecidableEq

end AgentWorkflow.Yaml
