import AgentWorkflow.Decimal.Style
import AgentWorkflow.Json.Document
import AgentWorkflow.Toml.Key

/-!
# Writing TOML

A document that is an object is written as a TOML text, every table under a
header of its own. TOML has no null: a document that holds one cannot be
written.

**Tables.** The members of a table that are tables, or arrays of nothing but
tables, follow its other members, each under its header. A table that holds
only such members needs no header. Inside of a value there are no headers, and
tables stand in braces.

**Arrays** with more than one element have each on a line of its own.

**Quotes** are the ones that need the fewest escapes: double ones around a text
that holds nothing to escape, single ones or three of them where that saves
escapes, and double ones again where nothing does.
-/

namespace AgentWorkflow.Toml

/-! ## Texts -/

/-- What decides how a text is quoted. -/
structure Quoting where
  /-- Whether the text holds a character that only an escape can spell. -/
  needsEscape : Bool
  /-- Whether it holds a backslash. -/
  backslash : Bool
  /-- Whether it holds a break. -/
  newline : Bool
  /-- The longest run of single quotes. -/
  singles : Nat
  /-- The longest run of double quotes. -/
  doubles : Nat

/-- The length of the longest run of a character, given the run that has begun
and the longest one so far. -/
def longestRun (c : Char) (current longest : Nat) : List Char → Nat
  | [] => max current longest
  | d :: r =>
    if d = c then longestRun c (current + 1) longest r else longestRun c 0 (max current longest) r

/-- What matters about a text. -/
def Quoting.of (s : List Char) : Quoting where
  needsEscape := s.any fun c => c ≠ '\n' && !isPrintable c
  backslash := s.contains '\\'
  newline := s.contains '\n'
  singles := longestRun '\'' 0 0 s
  doubles := longestRun '\x22' 0 0 s

/-- The escape of a character that needs one. -/
def escapeOf (c : Char) : List Char :=
  match c with
  | '\x22' => ['\\', '\x22']
  | '\\' => ['\\', '\\']
  | '\t' => ['\\', 't']
  | '\n' => ['\\', 'n']
  | '\r' => ['\\', 'r']
  | c =>
    if c.toNat = 8 then ['\\', 'b']
    else if c.toNat = 12 then ['\\', 'f']
    else ['\\', 'u'] ++ Text.hex 4 c.toNat

/-- A text with escapes, for double quotes. Inside of three quotes breaks stand
for themselves, and so do quotes that follow fewer than two others. -/
def escaped (inLines : Bool) (quotes : Nat) : List Char → List Char
  | [] => []
  | c :: r =>
    if c = '\x22' then
      if inLines && decide (quotes < 2) then c :: escaped inLines (quotes + 1) r
      else escapeOf c ++ escaped inLines 0 r
    else if inLines && decide (c = '\n') then c :: escaped inLines 0 r
    else if c = '\\' || c = '\t' || !isPrintable c then escapeOf c ++ escaped inLines 0 r
    else c :: escaped inLines 0 r

/-- A text in double quotes. -/
def inDoubles (s : List Char) : List Char := '\x22' :: escaped false 0 s ++ ['\x22']

/-- A text in single quotes. -/
def inSingles (s : List Char) : List Char := '\'' :: s ++ ['\'']

/-- A text in three quotes, from the next line on. -/
def inLines (quote : Char) (s : List Char) : List Char :=
  List.replicate 3 quote ++ '\n' :: s ++ List.replicate 3 quote

/-- **A text with its quotes.** -/
def quotedText (s : List Char) : List Char :=
  let q := Quoting.of s
  if !q.needsEscape && !q.backslash && !q.newline && q.doubles = 0 then inDoubles s
  else if !q.needsEscape && !q.newline && q.singles = 0 then inSingles s
  else if !q.needsEscape && !q.backslash && q.doubles ≤ 2 then inLines '\x22' (escaped true 0 s)
  else if !q.needsEscape && q.singles ≤ 2 then inLines '\'' s
  else if q.newline then inLines '\x22' (escaped true 0 s)
  else inDoubles s

/-- **A part of a key**, quoted if it has to be. -/
def keyText (s : String) : String :=
  let cs := s.toList
  let q := Quoting.of cs
  let needsEscape := q.needsEscape || q.newline
  if !cs.isEmpty && cs.all isBare then s
  else if !needsEscape && !q.backslash && q.doubles = 0 then String.ofList (inDoubles cs)
  else if !needsEscape && q.singles = 0 then String.ofList (inSingles cs)
  else String.ofList (inDoubles cs)

/-! ## Values -/

/-- A number in words. -/
def numberText : JsonNumber → String
  | .int n => toString n
  | .float x =>
    if x.isNaN then "nan"
    else if x.isInf then if x < 0 then "-inf" else "inf"
    else DecimalStyle.toml.float x

/-- The elements of an array, in words. -/
def arrayText : List String → String
  | [] => "[]"
  | [item] => "[" ++ item ++ "]"
  | items => "[" ++ String.join (items.map fun item => "\n    " ++ item ++ ",") ++ "\n]"

/-- The pairs of a table in braces, in words. -/
def bracesText : List String → String
  | [] => "\x7b\x7d"
  | pairs => "\x7b " ++ String.intercalate ", " pairs ++ " \x7d"

mutual

/-- A value in words. -/
def valueText : Document → String
  | .bool b => if b then "true" else "false"
  | .num n => numberText n
  | .str s => String.ofList (quotedText s.toList)
  | .arr items => arrayText (itemTexts items)
  | .obj members => bracesText (pairTexts members)
  | .null | .unusable => ""

/-- The elements of an array, each in words. -/
def itemTexts : List Document → List String
  | [] => []
  | d :: rest => valueText d :: itemTexts rest

/-- The members of a table, each in words. -/
def pairTexts : List (String × Document) → List String
  | [] => []
  | (k, d) :: rest => (keyText k ++ " = " ++ valueText d) :: pairTexts rest

end

/-! ## Tables -/

/-- Whether a document is an object. -/
def isTable : Document → Bool
  | .obj _ => true
  | _ => false

/-- Whether a member of a table gets a header. -/
def hasHeader : Document → Bool
  | .obj _ => true
  | .arr items => !items.isEmpty && items.all isTable
  | _ => false

/-- A table with its header. -/
structure Block where
  /-- The header; the whole text has none. -/
  header : Option String
  /-- What stands under it. -/
  lines : List String

/-- The block of a table. A table in no array is left out if it holds only what
has a header. -/
def block (path : List String) (inArray : Bool) (members : List (String × Document)) :
    List Block :=
  let lines := pairTexts (members.filter fun m => !hasHeader m.2)
  let name := String.intercalate "." (path.map keyText)
  if inArray then [⟨some ("[[" ++ name ++ "]]"), lines⟩]
  else if lines.isEmpty && !members.isEmpty then []
  else [⟨some ("[" ++ name ++ "]"), lines⟩]

mutual

/-- The blocks of the table or array of tables that a path leads to. -/
def blocksOf (path : List String) : Document → List Block
  | .obj members => block path false members ++ memberBlocks path members
  | .arr items => if hasHeader (.arr items) then elementBlocks path items else []
  | _ => []

/-- The blocks of the members of a table. -/
def memberBlocks (path : List String) : List (String × Document) → List Block
  | [] => []
  | (k, d) :: rest => blocksOf (path ++ [k]) d ++ memberBlocks path rest

/-- The blocks of the elements of an array of tables. -/
def elementBlocks (path : List String) : List Document → List Block
  | [] => []
  | .obj members :: rest =>
    block path true members ++ memberBlocks path members ++ elementBlocks path rest
  | _ :: rest => elementBlocks path rest

end

mutual

/-- Whether a document holds nothing that TOML cannot say. -/
def isWritable : Document → Bool
  | .null | .unusable => false
  | .arr items => areWritable items
  | .obj members => membersWritable members
  | _ => true

/-- Whether all elements can be written. -/
def areWritable : List Document → Bool
  | [] => true
  | d :: rest => isWritable d && areWritable rest

/-- Whether all members can be written. -/
def membersWritable : List (String × Document) → Bool
  | [] => true
  | (_, d) :: rest => isWritable d && membersWritable rest

end

/-- A block in words. -/
def Block.text (b : Block) : String :=
  String.join ((b.header.toList ++ b.lines).map (· ++ "\n"))

/-- **The TOML text of a table's members**, if they can be written. An empty
line stands in front of each header but one at the very beginning. -/
def text? (members : List (String × Document)) : Option String :=
  if membersWritable members then
    let lines := pairTexts (members.filter fun m => !hasHeader m.2)
    let blocks := (if lines.isEmpty then [] else [⟨none, lines⟩]) ++ memberBlocks [] members
    some (String.intercalate "\n" (blocks.map Block.text))
  else none

end AgentWorkflow.Toml
