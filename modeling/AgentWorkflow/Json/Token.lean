import AgentWorkflow.Text
import AgentWorkflow.Json.Document

/-!
# JSON tokens

The first half of reading JSON: a text is split into brackets, commas, colons
and leaves. Each scanner returns what it read together with the rest of the
text and the fact that the rest is no longer than what it was given, which is
why the tokenizer ends.

Two kinds of leaves are well formed without standing for anything: a number
too large for a double and a string with half of a surrogate pair. They become
tokens for the unusable document.

**Numbers are read as a significand and a power of ten.** The significand
takes digits as long as it fits in sixty-four bits; a digit it has no room for
only counts towards the exponent when it stands before the point, and is
dropped behind it. The double is then the significand, scaled by one power of
ten in floating point. For numerals of up to fifteen digits and exponents up
to 22 that is the nearest double.
-/

namespace AgentWorkflow

/-- A token of a JSON text. -/
inductive JsonToken where
  /-- An opening square bracket. -/
  | openArr
  /-- A closing square bracket. -/
  | closeArr
  /-- An opening brace. -/
  | openObj
  /-- A closing brace. -/
  | closeObj
  /-- A comma. -/
  | comma
  /-- A colon. -/
  | colon
  /-- A string, or none for one with half a surrogate pair. -/
  | text (s : Option String)
  /-- Any other leaf. -/
  | leaf (d : Document)

namespace JsonToken

/-- What a scanner leaves of `s`. -/
abbrev Rest (s : List Char) := { r : List Char // r.length ≤ s.length }

/-! ## Strings -/

/-- One unit of a string: a character, or one half of a surrogate pair. -/
inductive CharUnit where
  /-- A character. -/
  | char (c : Char)
  /-- The first half of a pair, as an offset of its block. -/
  | high (n : Nat)
  /-- The second half of a pair, as an offset of its block. -/
  | low (n : Nat)

/-- The unit four hexadecimal digits name. -/
def CharUnit.ofCode (n : Nat) : CharUnit :=
  if 0xD800 ≤ n ∧ n < 0xDC00 then .high (n - 0xD800)
  else if 0xDC00 ≤ n ∧ n < 0xE000 then .low (n - 0xDC00)
  else .char (Char.ofNat n)

/-- Joins the halves of surrogate pairs. A half without its other half has no
character. -/
def CharUnit.join? : List CharUnit → Option (List Char)
  | [] => some []
  | .char c :: rest => (join? rest).map (c :: ·)
  | .high h :: .low l :: rest =>
    (join? rest).map (Char.ofNat (0x10000 + h * 0x400 + l) :: ·)
  | _ :: _ => none

/-- The character a one-letter escape names. -/
def escape? (c : Char) : Option Char :=
  if c = '\x22' ∨ c = '\\' ∨ c = '/' then some c
  else if c = 'b' then some (Char.ofNat 8)
  else if c = 'f' then some (Char.ofNat 12)
  else if c = 'n' then some '\n'
  else if c = 'r' then some '\r'
  else if c = 't' then some '\t'
  else none

/-- The units of a string up to its closing quote, and the text after it. -/
def scanString : (s : List Char) → Option (List CharUnit × Rest s)
  | [] => none
  | c :: rest =>
    if c = '\x22' then some ([], ⟨rest, by simp⟩)
    else if c = '\\' then
      match rest with
      | [] => none
      | e :: rest' =>
        if e = 'u' then
          match rest' with
          | a :: b :: c' :: d :: tail =>
            match Text.readDigits? 16 [a, b, c', d], scanString tail with
            | some n, some (units, r) =>
              some (CharUnit.ofCode n :: units, ⟨r.1, by have := r.2; simp; omega⟩)
            | _, _ => none
          | _ => none
        else
          match escape? e, scanString rest' with
          | some x, some (units, r) => some (.char x :: units, ⟨r.1, by have := r.2; simp; omega⟩)
          | _, _ => none
    else if c.toNat < 32 then none
    else
      match scanString rest with
      | some (units, r) => some (.char c :: units, ⟨r.1, by have := r.2; simp; omega⟩)
      | none => none

/-! ## Numbers -/

/-- The scale `10 ^ e` applied to a double; exponents too small for one
division are taken in steps. None when the number is too large. -/
def scale? : Nat → Float → Int → Option Float
  | 0, f, _ => some f
  | fuel + 1, f, e =>
    if e.natAbs ≤ 308 then
      if 0 ≤ e then
        let x := f * Float.ofScientific 1 false e.natAbs
        if x.isFinite then some x else none
      else some (f / Float.ofScientific 1 false e.natAbs)
    else if f == 0.0 then some f
    else if 0 ≤ e then none
    else scale? fuel (f / Float.ofScientific 1 false 308) (e + 308)

/-- The double a significand and an exponent stand for. Four steps take any
significand of sixty-four bits to zero. -/
def toDouble? (negative : Bool) (significand : Nat) (e : Int) : Option Float :=
  (scale? 4 (Float.ofNat significand) e).map fun x => if negative then -x else x

/-- The digits that fit in a significand of sixty-four bits, and how many are
left over. -/
def significand : Nat → List Char → Nat × List Char
  | n, [] => (n, [])
  | n, c :: rest =>
    let n' := n * 10 + (c.toNat - 48)
    if n' < 0x10000000000000000 then significand n' rest else (n, c :: rest)

/-- The number with the given parts: digits before the point, digits behind
it if there is a point, exponent if there is one. -/
def number (negative : Bool) (whole : List Char) (fraction : Option (List Char))
    (e : Option Int) : Document :=
  let (n, left) := significand 0 whole
  let ofFloat : Option Float → Document
    | some x => .num (.float x)
    | none => .unusable
  match fraction, e, left with
  | none, none, [] =>
    if negative then
      if n = 0 ∨ 0x8000000000000000 < n then .num (.float (-(Float.ofNat n)))
      else .num (.int (-(n : Int)))
    else .num (.int n)
  | _, _, _ =>
    let (n, kept) := match fraction with
      | none => (n, 0)
      | some ds =>
        let (n', left') := significand n ds
        (n', ds.length - left'.length)
    ofFloat (toDouble? negative n ((left.length : Int) - (kept : Int) + e.getD 0))

/-- Splits off the digits at the front of a text. -/
def spanDigits (s : List Char) : List Char × Rest s :=
  (s.takeWhile Char.isDigit,
    ⟨s.dropWhile Char.isDigit, (List.dropWhile_suffix _).length_le⟩)

/-- The part behind a point, if there is one: at least one digit. -/
def scanFraction (s : List Char) : Option (Option (List Char) × Rest s) :=
  match s with
  | [] => some (none, ⟨[], Nat.le_refl _⟩)
  | c :: t =>
    if c = '.' then
      match spanDigits t with
      | ([], _) => none
      | (ds, r) => some (some ds, ⟨r.1, by have := r.2; simp; omega⟩)
    else some (none, ⟨c :: t, Nat.le_refl _⟩)

/-- Digits as an exponent. -/
def exponentOf (negative : Bool) (ds : List Char) : Int :=
  let n : Nat := (Text.readDigits? 10 ds).getD 0
  if negative then -(n : Int) else n

/-- The exponent, if there is one: a sign at most and at least one digit. -/
def scanExponent (s : List Char) : Option (Option Int × Rest s) :=
  match s with
  | c :: t =>
    if c = 'e' ∨ c = 'E' then
      match t with
      | '-' :: t' =>
        match spanDigits t' with
        | ([], _) => none
        | (ds, r) => some (some (exponentOf true ds), ⟨r.1, by have := r.2; simp; omega⟩)
      | '+' :: t' =>
        match spanDigits t' with
        | ([], _) => none
        | (ds, r) => some (some (exponentOf false ds), ⟨r.1, by have := r.2; simp; omega⟩)
      | t =>
        match spanDigits t with
        | ([], _) => none
        | (ds, r) => some (some (exponentOf false ds), ⟨r.1, by have := r.2; simp; omega⟩)
    else some (none, ⟨c :: t, Nat.le_refl _⟩)
  | [] => some (none, ⟨[], Nat.le_refl _⟩)

/-- A number whose sign and first digit have been read: more digits, but none
behind a zero, then perhaps a fraction and an exponent. -/
def scanNumber (negative : Bool) (first : Char) (s : List Char) : Option (Document × Rest s) :=
  let (more, r) := spanDigits s
  if first = '0' ∧ more ≠ [] then none
  else
    match scanFraction r.1 with
    | none => none
    | some (fraction, r₁) =>
      match scanExponent r₁.1 with
      | none => none
      | some (e, r₂) =>
        some (number negative (first :: more) fraction e,
          ⟨r₂.1, Nat.le_trans r₂.2 (Nat.le_trans r₁.2 r.2)⟩)

/-! ## The tokenizer -/

/-- JSON's white space: blank, tab and the two line ends. -/
def isBlank (c : Char) : Bool := c = ' ' || c = '\n' || c = '\t' || c = '\r'

/-- The token at the front of a text that begins with `c`. -/
def scan (c : Char) (s : List Char) : Option (JsonToken × Rest s) :=
  let here : Rest s := ⟨s, Nat.le_refl _⟩
  if c = '[' then some (.openArr, here)
  else if c = ']' then some (.closeArr, here)
  else if c = '\x7b' then some (.openObj, here)
  else if c = '\x7d' then some (.closeObj, here)
  else if c = ',' then some (.comma, here)
  else if c = ':' then some (.colon, here)
  else if c = '\x22' then
    match scanString s with
    | some (units, r) => some (.text ((CharUnit.join? units).map String.ofList), r)
    | none => none
  else if c = '-' then
    match s with
    | [] => none
    | d :: t =>
      if d.isDigit then
        (scanNumber true d t).map fun (n, r) => (.leaf n, ⟨r.1, Nat.le_succ_of_le r.2⟩)
      else none
  else if c.isDigit then (scanNumber false c s).map fun (n, r) => (.leaf n, r)
  else
    match s with
    | 'u' :: 'l' :: 'l' :: t =>
      if c = 'n' then some (.leaf .null, ⟨t, by simp; omega⟩) else none
    | 'r' :: 'u' :: 'e' :: t =>
      if c = 't' then some (.leaf (.bool true), ⟨t, by simp; omega⟩) else none
    | 'a' :: 'l' :: 's' :: 'e' :: t =>
      if c = 'f' then some (.leaf (.bool false), ⟨t, by simp; omega⟩) else none
    | _ => none

/-- **The tokens of a text**, or none if it cannot be split into tokens. -/
def tokens? : List Char → Option (List JsonToken)
  | [] => some []
  | c :: s =>
    if isBlank c then tokens? s
    else
      match scan c s with
      | some (t, r) => (tokens? r.1).map (t :: ·)
      | none => none
termination_by s => s.length
decreasing_by
  · simp
  · have := r.2
    simp
    omega

end JsonToken

end AgentWorkflow
