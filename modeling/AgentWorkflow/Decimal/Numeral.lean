import AgentWorkflow.Text

/-!
# Reading decimals

A decimal numeral is digits, perhaps with a point among them, and perhaps an
exponent. `Numeral.read?` takes one apart. `Numeral.toFloat` is the double
nearest to it. Exponents may be written with any number of digits, so the
ones no double can reach are settled before any power of ten is formed.
-/

namespace AgentWorkflow

/-- An unsigned decimal numeral, `digits * 10 ^ exponent`. -/
structure Numeral where
  /-- All digits of the numeral, without the point. -/
  digits : Nat
  /-- The exponent written, less the number of digits behind the point. -/
  exponent : Int

namespace Numeral

/-- The exponent part of a numeral: nothing, or `e` with an optional sign and
at least one digit, and then nothing more. -/
def readExponent? : List Char → Option Int
  | [] => some 0
  | c :: rest =>
    if c = 'e' ∨ c = 'E' then
      match rest with
      | '-' :: ds => (Text.readDigits? 10 ds).map fun n => -(n : Int)
      | '+' :: ds => (Text.readDigits? 10 ds).map fun n => (n : Int)
      | ds => (Text.readDigits? 10 ds).map fun n => (n : Int)
    else none

/-- An unsigned numeral: digits with at most one point, at least one digit in
all, and an optional exponent. -/
def read? (cs : List Char) : Option Numeral :=
  let whole := cs.takeWhile Char.isDigit
  let rest := cs.dropWhile Char.isDigit
  let (fraction, rest) := match rest with
    | '.' :: r => (r.takeWhile Char.isDigit, r.dropWhile Char.isDigit)
    | r => ([], r)
  do
    let digits ← Text.readDigits? 10 (whole ++ fraction)
    let e ← readExponent? rest
    some ⟨digits, e - (fraction.length : Int)⟩

/-- **The double nearest to the numeral**, infinite past the largest one. -/
def toFloat (n : Numeral) : Float :=
  let size : Int := ((Nat.toDigits 10 n.digits).length : Int) + n.exponent
  if n.digits = 0 ∨ size < -400 then 0.0
  else if 400 < size then Float.ofBits 0x7ff0000000000000
  else Float.ofScientific n.digits (decide (n.exponent < 0)) n.exponent.natAbs

end Numeral

/-- The double a decimal text stands for, an optional minus sign in front. -/
def readDecimal? : List Char → Option Float
  | '-' :: cs => (Numeral.read? cs).map fun n => -n.toFloat
  | cs => (Numeral.read? cs).map Numeral.toFloat

end AgentWorkflow
