import AgentWorkflow.Text
import AgentWorkflow.Yaml.Cursor
import AgentWorkflow.Yaml.Token

/-!
# Anchors, tags and directives

The tokens that are names. Anchors and handles are words; what follows a
handle is part of an address, in which bytes can be written as escapes. The
bytes of such escapes must come in the groups in which UTF-8 writes
characters, but nobody checks whether a group writes one.
-/

namespace AgentWorkflow.Yaml

/-- Whether a character may stand in the address of a tag. Commas and brackets
may only do so where angle brackets enclose the address. -/
def isAddressCharacter (enclosed : Bool) (c : Char) : Bool :=
  isWordCharacter c || ";/?:@&=+$.!~*'()".toList.contains c
    || (enclosed && ",[]".toList.contains c)

/-- How many bytes follow a first byte in its group. -/
def followingBytes? (first : Nat) : Option Nat :=
  if first < 0x80 then some 0
  else if first / 0x20 = 6 then some 1
  else if first / 0x10 = 14 then some 2
  else if first / 0x08 = 30 then some 3
  else none

/-- The bytes of an address, and what stands behind it. `due` bytes of the
current group are still to come. -/
def address? (enclosed : Bool) (due : Nat) : List Char → Option (List UInt8 × List Char)
  | '%' :: a :: b :: rest => do
    let byte ← Text.readDigits? 16 [a, b]
    let due ←
      if due = 0 then followingBytes? byte
      else if byte / 0x40 = 2 then some (due - 1)
      else none
    let (bytes, rest) ← address? enclosed due rest
    return (byte.toUInt8 :: bytes, rest)
  | c :: rest =>
    if isAddressCharacter enclosed c || c = '%' then
      if c = '%' ∨ due ≠ 0 then none
      else do
        let (bytes, rest) ← address? enclosed 0 rest
        return (c.toNat.toUInt8 :: bytes, rest)
    else if due = 0 then some ([], c :: rest) else none
  | [] => if due = 0 then some ([], []) else none

/-- An address of at least one byte. -/
def nonemptyAddress? (enclosed : Bool) (cs : List Char) : Option (List UInt8 × List Char) :=
  (address? enclosed 0 cs).filter fun a => !a.1.isEmpty

/-- The bytes of ASCII text. -/
def asciiBytes (cs : List Char) : List UInt8 := cs.map fun c => c.toNat.toUInt8

namespace Token

/-- The name behind an asterisk or ampersand: a word that ends where it may. -/
def scanName? (c : Cursor) : Option (String × Cursor) :=
  let c := c.skip 1
  let name := c.rest.takeWhile isWordCharacter
  let c := c.skip name.length
  if name.isEmpty then none
  else if c.endsAt 0 || (c.peek? 0).any fun ch => "?:,]\x7d%@`".toList.contains ch then
    some (String.ofList name, c)
  else none

/-- A tag, without what may stand behind it. -/
def scanTagText? : List Char → Option (Token × List Char)
  | '!' :: '<' :: cs => do
    match ← nonemptyAddress? true cs with
    | (suffix, '>' :: rest) => return (.tag "" suffix, rest)
    | _ => none
  | '!' :: cs => do
    let word := cs.takeWhile isWordCharacter
    match cs.drop word.length with
    | '!' :: cs =>
      let (suffix, rest) ← nonemptyAddress? false cs
      return (.tag (String.ofList ('!' :: word ++ ['!'])) suffix, rest)
    | cs =>
      let (bytes, rest) ← address? false 0 cs
      match asciiBytes word ++ bytes with
      | [] => return (.tag "" (asciiBytes ['!']), rest)
      | suffix => return (.tag "!" suffix, rest)
  | _ => none

/-- A tag. A blank or break must follow it, or a comma inside brackets. -/
def scanTag? (inFlow : Bool) (c : Cursor) : Option (Token × Cursor) := do
  let (token, rest) ← scanTagText? c.rest
  let c := c.skipTo rest
  if c.endsAt 0 || (inFlow && c.sees 0 ',') then return (token, c) else none

/-- A number of a version: up to nine digits. -/
def scanVersionNumber? (c : Cursor) : Option (Nat × Cursor) := do
  let digits := c.rest.takeWhile Char.isDigit
  let n ← Text.readDigits? 10 digits
  if digits.length ≤ 9 then return (n, c.skip digits.length) else none

/-- The version in a directive. -/
def scanVersion? (c : Cursor) : Option (Token × Cursor) := do
  let (major, c) ← scanVersionNumber? (c.skipWhile isBlank)
  if !c.sees 0 '.' then none
  let (minor, c) ← scanVersionNumber? (c.skip 1)
  return (.versionDirective major minor, c)

/-- The handle in a directive: one exclamation mark, or a word between two. -/
def scanHandle? : List Char → Option (String × List Char)
  | '!' :: cs =>
    let word := cs.takeWhile isWordCharacter
    match word, cs.drop word.length with
    | word, '!' :: rest => some (String.ofList ('!' :: word ++ ['!']), rest)
    | [], rest => some ("!", rest)
    | _, _ => none
  | _ => none

/-- The handle in a directive, and what it stands for. -/
def scanTagExpansion? (c : Cursor) : Option (Token × Cursor) := do
  let c := c.skipWhile isBlank
  let (handle, rest) ← scanHandle? c.rest
  let c := c.skipTo rest
  if !(c.peek? 0).any isBlank then none
  let c := c.skipWhile isBlank
  let (expansion, rest) ← nonemptyAddress? true c.rest
  let c := c.skipTo rest
  if c.endsAt 0 then return (.tagDirective handle expansion, c) else none

/-- A directive, with the whole of its line. -/
def scanDirective? (c : Cursor) : Option (Token × Cursor) := do
  let c := c.skip 1
  let name := c.rest.takeWhile isWordCharacter
  let c := c.skip name.length
  if !c.endsAt 0 then none
  let (token, c) ← match String.ofList name with
    | "YAML" => scanVersion? c
    | "TAG" => scanTagExpansion? c
    | _ => none
  return (token, ← c.finishLine?)

end Token

end AgentWorkflow.Yaml
