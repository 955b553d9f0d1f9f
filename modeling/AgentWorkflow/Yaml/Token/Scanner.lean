import AgentWorkflow.Yaml.Token.Name
import AgentWorkflow.Yaml.Token.Scalar

/-!
# From a text to its tokens

The scanner reads one token after the other and keeps what tokens depend on:
the columns of the collections around, how many brackets are open, and where a
key might have begun.

**Keys.** Nothing in front of a key says that it is one. Whenever a token
begins that could begin a key, its place is remembered, one place for each
open bracket. A colon that finds a place turns what has been read since into a
key, and the tokens that say so are put in at that place. A place is forgotten
when a line or 1024 characters have passed. A place at the column of the
collection around cannot be anything but a key, so forgetting that one is an
error.
-/

namespace AgentWorkflow.Yaml

/-- A place where a key might have begun. -/
structure KeyPlace where
  /-- Whether there is no other way to read it. -/
  required : Bool
  /-- How many tokens there were before it. -/
  number : Nat
  /-- Its place in the text. -/
  index : Nat
  /-- Its line. -/
  line : Nat
  /-- Its column. -/
  column : Nat

/-- The scanner between two tokens. -/
structure Scanner where
  /-- The rest of the text. -/
  cursor : Cursor
  /-- The tokens so far. -/
  tokens : Array Token := #[]
  /-- The column of the collection around, `-1` if there is none. -/
  indent : Int := -1
  /-- The columns of the collections around that one. -/
  outer : List Int := []
  /-- Whether a key may begin here. -/
  keyAllowed : Bool := true
  /-- Where a key might have begun, for the innermost bracket first and for the
  text outside all brackets last. -/
  places : List (Option KeyPlace) := [none]

namespace Scanner

/-- Whether any bracket is open. -/
def inFlow (s : Scanner) : Bool := s.places.length > 1

/-- Adds a token. -/
def emit (s : Scanner) (t : Token) : Scanner := { s with tokens := s.tokens.push t }

/-- Adds a token behind the first `number` ones. -/
def insert (s : Scanner) (number : Nat) (t : Token) : Scanner :=
  { s with tokens := s.tokens.insertIdxIfInBounds number t }

/-- Reads some characters. -/
def skip (s : Scanner) (n : Nat) : Scanner := { s with cursor := s.cursor.skip n }

/-- Ends the collections that are indented further than a column. -/
def closeTo (column : Int) (s : Scanner) : List Int → Scanner
  | [] => s
  | next :: outer =>
    if s.indent > column then closeTo column { s.emit .blockEnd with indent := next, outer } outer
    else s

/-- Ends the collections that are indented further than a column. Inside
brackets indentation does not matter. -/
def unindent (s : Scanner) (column : Int) : Scanner :=
  if s.inFlow then s else s.closeTo column s.outer

/-- Begins a collection at a column, if the one around is indented less; its
token comes behind the first `number` ones. -/
def indentTo (s : Scanner) (column number : Nat) (t : Token) : Scanner :=
  if s.inFlow || s.indent ≥ column then s
  else { s.insert number t with indent := column, outer := s.indent :: s.outer }

/-! ## Keys -/

/-- Forgets where a key might have begun in the innermost bracket. -/
def forgetKey? (s : Scanner) : Option Scanner :=
  match s.places with
  | [] => some s
  | place :: outer =>
    if place.any KeyPlace.required then none else some { s with places := none :: outer }

/-- Remembers that a key might begin here. -/
def rememberKey? (s : Scanner) : Option Scanner :=
  if s.keyAllowed then do
    let s ← s.forgetKey?
    let place : KeyPlace :=
      { required := !s.inFlow && s.indent = s.cursor.column
        number := s.tokens.size
        index := s.cursor.index
        line := s.cursor.line
        column := s.cursor.column }
    return { s with places := some place :: s.places.drop 1 }
  else some s

/-- Whether a place lies too far back. -/
def isStale (c : Cursor) (place : KeyPlace) : Bool :=
  place.line < c.line || place.index + 1024 < c.index

/-- Forgets the places that lie too far back. -/
def forgetStale? (s : Scanner) : Option Scanner :=
  let stale := s.places.map fun place => place.filter (isStale s.cursor)
  if stale.any fun place => place.any KeyPlace.required then none
  else some { s with places := s.places.map fun place => place.filter fun p => !isStale s.cursor p }

/-! ## Between tokens -/

/-- Moves to where the next token begins, over blanks, comments and breaks.
Outside brackets a key may begin on every new line, and a tab is no blank where
a key may begin. -/
def toToken (inFlow : Bool) (keyAllowed : Bool) (c : Cursor) : Bool × Cursor :=
  let n := if c.column = 0 && c.sees 0 byteOrderMark then 1 else 0
  let blanks := ((c.rest.drop n).takeWhile fun ch =>
    ch = ' ' || (ch = '\t' && (inFlow || !keyAllowed))).length
  let behind := n + blanks
  let comment :=
    if c.sees behind '#' then ((c.rest.drop behind).takeWhile fun ch => !isBreak ch).length else 0
  let c' := c.skip (behind + comment)
  if c'.atBreak then toToken inFlow (keyAllowed || !inFlow) c'.skipBreak else (keyAllowed, c')
termination_by c.rest.length
decreasing_by
  exact Nat.lt_of_lt_of_le (Cursor.length_skipBreak_lt (Cursor.ne_nil_of_atBreak ‹_›))
    (Cursor.length_skip_le _ _)

/-- Moves to where the next token begins, and ends what ends there. -/
def advance? (s : Scanner) : Option Scanner := do
  let (keyAllowed, cursor) := toToken s.inFlow s.keyAllowed s.cursor
  let s ← forgetStale? { s with keyAllowed, cursor }
  return s.unindent s.cursor.column

/-! ## Tokens -/

/-- A token at which all indented collections end. -/
def boundary? (s : Scanner) (token : Token) (c : Cursor) : Option Scanner := do
  let s ← (s.unindent (-1)).forgetKey?
  return { s.emit token with keyAllowed := false, cursor := c }

/-- An opening bracket. -/
def openFlow? (s : Scanner) (token : Token) : Option Scanner := do
  let s ← s.rememberKey?
  return { (s.emit token).skip 1 with places := none :: s.places, keyAllowed := true }

/-- A closing bracket. One that closes nothing is left to the grammar. -/
def closeFlow? (s : Scanner) (token : Token) : Option Scanner := do
  let s ← s.forgetKey?
  return { (s.emit token).skip 1 with
    places := if s.inFlow then s.places.drop 1 else s.places
    keyAllowed := false }

/-- A comma. -/
def flowEntry? (s : Scanner) : Option Scanner := do
  let s ← s.forgetKey?
  return { (s.emit .flowEntry).skip 1 with keyAllowed := true }

/-- The dash of an entry, which may begin a sequence. -/
def blockEntry? (s : Scanner) : Option Scanner := do
  if !s.inFlow && !s.keyAllowed then none
  let s ← (s.indentTo s.cursor.column s.tokens.size .blockSequenceStart).forgetKey?
  return { (s.emit .blockEntry).skip 1 with keyAllowed := true }

/-- The question mark of a key, which may begin a mapping. -/
def explicitKey? (s : Scanner) : Option Scanner := do
  if !s.inFlow && !s.keyAllowed then none
  let s ← (s.indentTo s.cursor.column s.tokens.size .blockMappingStart).forgetKey?
  return { (s.emit .key).skip 1 with keyAllowed := !s.inFlow }

/-- A colon. What has been read since a key might have begun is the key; a
colon without one is a value whose key is empty or was announced. -/
def mappingValue? (s : Scanner) : Option Scanner :=
  match s.places with
  | some place :: outer =>
    let s := (s.insert place.number .key).indentTo place.column place.number .blockMappingStart
    some { (s.emit .value).skip 1 with places := none :: outer, keyAllowed := false }
  | _ =>
    if !s.inFlow && !s.keyAllowed then none
    else
      let s := s.indentTo s.cursor.column s.tokens.size .blockMappingStart
      some { (s.emit .value).skip 1 with keyAllowed := !s.inFlow }

/-- A token that can begin a key and behind which none can begin. -/
def wordLike? (s : Scanner) (scan : Cursor → Option (Token × Cursor)) : Option Scanner := do
  let s ← s.rememberKey?
  let (token, cursor) ← scan s.cursor
  return { s.emit token with keyAllowed := false, cursor }

/-- A block scalar. -/
def blockScalar? (s : Scanner) (folded : Bool) : Option Scanner := do
  let s ← s.forgetKey?
  let (text, cursor) ← s.cursor.scanBlock? folded s.indent
  return { s.emit (.scalar text false) with keyAllowed := true, cursor }

/-- A plain scalar. If it ends on a later line, a key may begin there. -/
def plainScalar? (s : Scanner) : Option Scanner := do
  let s ← s.rememberKey?
  let (f, cursor) ← s.cursor.scanPlain? s.inFlow (s.indent + 1).toNat {}
  return { s.emit (.scalar f.result true) with keyAllowed := f.broken, cursor }

/-- Whether a character in front of another one may begin a plain scalar. -/
def startsPlain (inFlow : Bool) (c : Cursor) (ch : Char) : Bool :=
  let blankFollows := (c.peek? 1).any isBlank
  !(isBlank ch || isBreak ch || "-?:,[]\x7b\x7d#&*!|>'\x22%@`".toList.contains ch)
    || (ch = '-' && !blankFollows)
    || (!inFlow && (ch = '?' || ch = ':') && !c.endsAt 1)

/-- **Reads the token that begins here.** -/
def token? (s : Scanner) (ch : Char) : Option Scanner :=
  let c := s.cursor
  if c.column = 0 ∧ ch = '%' then do
    let (token, c) ← Token.scanDirective? c
    s.boundary? token c
  else if c.atTriple '-' then s.boundary? .documentStart (c.skip 3)
  else if c.atTriple '.' then s.boundary? .documentEnd (c.skip 3)
  else if ch = '[' then s.openFlow? .flowSequenceStart
  else if ch = '\x7b' then s.openFlow? .flowMappingStart
  else if ch = ']' then s.closeFlow? .flowSequenceEnd
  else if ch = '\x7d' then s.closeFlow? .flowMappingEnd
  else if ch = ',' then s.flowEntry?
  else if ch = '-' ∧ c.endsAt 1 then s.blockEntry?
  else if ch = '?' ∧ (s.inFlow ∨ c.endsAt 1) then s.explicitKey?
  else if ch = ':' ∧ (s.inFlow ∨ c.endsAt 1) then s.mappingValue?
  else if ch = '*' then
    s.wordLike? fun c => (Token.scanName? c).map fun (name, c) => (.repetition name, c)
  else if ch = '&' then
    s.wordLike? fun c => (Token.scanName? c).map fun (name, c) => (.anchor name, c)
  else if ch = '!' then s.wordLike? (Token.scanTag? s.inFlow)
  else if ch = '|' ∧ !s.inFlow then s.blockScalar? false
  else if ch = '>' ∧ !s.inFlow then s.blockScalar? true
  else if ch = '\'' ∨ ch = '\x22' then
    s.wordLike? fun c =>
      ((c.skip 1).scanQuoted? (ch = '\'') {}).map fun (text, c) => (.scalar text false, c)
  else if startsPlain s.inFlow c ch then s.plainScalar?
  else none

/-- Reads the tokens that are left, if they are fewer than a bound. Every token
is at least one character long, so a bound above the length of the text is never
met. -/
def scan? : Nat → Scanner → Option (List Token)
  | 0, _ => none
  | bound + 1, s =>
    match s.advance? with
    | none => none
    | some here =>
      match here.cursor.rest with
      | [] => ((here.unindent (-1)).forgetKey?).map fun s => s.tokens.toList
      | ch :: _ =>
        match here.token? ch with
        | none => none
        | some next => scan? bound next

end Scanner

/-- **The tokens of a text**; none if it is no YAML. -/
def Token.scan? (text : String) : Option (List Token) :=
  if text.toList.all isAllowed then
    Scanner.scan? (text.length + 1) { cursor := { rest := text.toList } }
  else none

end AgentWorkflow.Yaml
