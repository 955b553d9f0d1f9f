import AgentWorkflow.Decimal.Numeral
import AgentWorkflow.Json.Value
import AgentWorkflow.Text
import AgentWorkflow.Yaml.Node

/-!
# What a scalar stands for

A plain scalar without a tag may be null, a truth value, an integer, a double
or a string, and its text alone decides which. A tag decides in its place, and
then the text has to agree; a quoted scalar is a string unless its tag says
otherwise.

Integers are decimal or, behind `0x`, `0o` and `0b`, in another base. Digits
behind a leading zero are a string. Integers of more than sixty-four bits stand
for nothing as long as they have at most 128, and are taken for doubles beyond
that.
-/

namespace AgentWorkflow.Yaml

/-- Whether a text is a spelling of null. -/
def isNull (s : String) : Bool := ["null", "Null", "NULL", "~"].contains s

/-- The truth value a text spells. -/
def bool? (s : String) : Option Bool :=
  if ["true", "True", "TRUE"].contains s then some true
  else if ["false", "False", "FALSE"].contains s then some false
  else none

/-- Whether a character is a sign. -/
def isSign (c : Char) : Bool := c = '+' || c = '-'

/-- Whether a text is digits behind a leading zero, and so not a number. -/
def isZeroPadded (cs : List Char) : Bool :=
  let digits := match cs with
    | c :: rest => if isSign c then rest else cs
    | [] => []
  digits.length > 1 && digits.head? = some '0' && digits.all Char.isDigit

/-- The digits behind a base's mark, or decimal digits. -/
def magnitude? : List Char → Option Nat
  | '0' :: 'x' :: digits => Text.readDigits? 16 digits
  | '0' :: 'o' :: digits => Text.readDigits? 8 digits
  | '0' :: 'b' :: digits => Text.readDigits? 2 digits
  | digits => Text.readDigits? 10 digits

/-- The integer a text spells, of any size. -/
def integer? (cs : List Char) : Option Int :=
  if isZeroPadded cs then none
  else
    match cs with
    | '-' :: rest => (magnitude? rest).map fun n => -(n : Int)
    | '+' :: rest => (magnitude? rest).map Int.ofNat
    | _ => (magnitude? cs).map Int.ofNat

/-- The double a text spells. Infinities and NaN have spellings of their own,
and a numeral too large for a double spells none. -/
def float? (s : String) : Option Float :=
  if [".inf", ".Inf", ".INF", "+.inf", "+.Inf", "+.INF"].contains s then some (1.0 / 0.0)
  else if ["-.inf", "-.Inf", "-.INF"].contains s then some (-1.0 / 0.0)
  else if [".nan", ".NaN", ".NAN"].contains s then some (0.0 / 0.0)
  else
    let unsigned := match s.toList with
      | '+' :: '-' :: _ => none
      | '+' :: rest => some rest
      | cs => some cs
    (unsigned.bind readDecimal?).filter Float.isFinite

/-- The value of a double; those that are not finite have none but null. -/
def floatValue (x : Float) : Json := if x.isFinite then .num (.float x) else .null

/-- Whether an integer fits in a number of bits, signed if it is negative. -/
def fits (bits : Nat) (n : Int) : Bool :=
  if n < 0 then n.natAbs ≤ Nat.pow 2 (bits - 1) else n.toNat < Nat.pow 2 bits

namespace Scalar

/-- The integer a scalar must be. -/
def intValue? (text : String) : Option Json :=
  (integer? text.toList).bind fun n => if fits 64 n then some (.num (.int n)) else none

/-- The value of a plain scalar without a tag; none for an integer between
sixty-four and 128 bits. -/
def plainValue? (text : String) : Option Json :=
  if text = "" || isNull text then some .null
  else
    match bool? text with
    | some b => some (.bool b)
    | none =>
      match (integer? text.toList).filter (fits 128) with
      | some n => if fits 64 n then some (.num (.int n)) else none
      | none =>
        match if isZeroPadded text.toList then none else float? text with
        | some x => some (floatValue x)
        | none => some (.str text)

/-- **The value a scalar stands for**, if it stands for one. -/
def value? (s : Scalar) : Option Json :=
  match s.tag with
  | none => if s.plain then plainValue? s.text else some (.str s.text)
  | some .null => if isNull s.text then some .null else none
  | some .bool => (bool? s.text).map .bool
  | some .int => intValue? s.text
  | some .float => (float? s.text).map floatValue
  | some .unknownKind => none
  | some .other => some (.str s.text)

/-- Whether nothing was written, not even quotes. -/
def isEmpty (s : Scalar) : Bool := s.plain && s.text = ""

/-- Whether the scalar says that something is absent; none if its tag says so
and its text does not agree. -/
def isAbsent? (s : Scalar) : Option Bool :=
  if !s.plain then some false
  else
    match s.tag with
    | none => some (s.text = "" || isNull s.text)
    | some .null => if isNull s.text then some true else none
    | some _ => some false

end Scalar

end AgentWorkflow.Yaml
