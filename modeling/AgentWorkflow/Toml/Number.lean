import AgentWorkflow.Decimal.Numeral
import AgentWorkflow.Json.Value

/-!
# Numbers in TOML

Integers are decimal with an optional sign, or in another base without one; all
fit in sixty-four bits. A number with a fraction or an exponent is a double,
and so are the two words for infinity and for no number at all. Underscores may
stand between two digits.

A double too large for its range is an error above zero, and minus infinity
below.
-/

namespace AgentWorkflow.Toml

/-- The digits that begin here, one at least, and what follows them. -/
def digits? (base : Nat) : List Char → Option (List Char × List Char)
  | c :: '_' :: r =>
    if (Text.digitValue? base c).isSome then (digits? base r).map fun (ds, t) => (c :: ds, t)
    else none
  | c :: d :: r =>
    if (Text.digitValue? base c).isNone then none
    else if (Text.digitValue? base d).isNone then some ([c], d :: r)
    else (digits? base (d :: r)).map fun (ds, t) => (c :: ds, t)
  | [c] => if (Text.digitValue? base c).isSome then some ([c], []) else none
  | [] => none

/-- The whole part of a decimal number: zero alone, or digits that begin with
another one. -/
def whole? : List Char → Option (List Char × List Char)
  | '0' :: r => some (['0'], r)
  | s => digits? 10 s

/-- Whether a minus sign is here, and what follows the sign of either kind. -/
def sign : List Char → Bool × List Char
  | '-' :: r => (true, r)
  | '+' :: r => (false, r)
  | r => (false, r)

/-- An integer, if it fits. -/
def integer? (negative : Bool) (base : Nat) (digits : List Char) : Option JsonNumber :=
  (Text.readDigits? base digits).bind fun n =>
    let i : Int := if negative then -n else n
    if -0x8000000000000000 ≤ i ∧ i < 0x8000000000000000 then some (.int i) else none

/-- The fraction of a number, if it has one, and what follows. -/
def fraction? : List Char → Option (Option (List Char) × List Char)
  | '.' :: r => (digits? 10 r).map fun (ds, t) => (some ds, t)
  | r => some (none, r)

/-- The exponent of a number, if it has one, and what follows. -/
def exponent? : List Char → Option (Option Int × List Char)
  | c :: r =>
    if c = 'e' ∨ c = 'E' then do
      let (negative, r) := sign r
      let (ds, r) ← digits? 10 r
      let n ← Text.readDigits? 10 ds
      some (some (if negative then -n else n), r)
    else some (none, c :: r)
  | [] => some (none, [])

/-- The decimal number that begins here behind its sign, and what follows
it. -/
def decimal? (negative : Bool) (s : List Char) : Option (JsonNumber × List Char) := do
  let (whole, r) ← whole? s
  let (fraction, r) ← fraction? r
  let (exponent, r) ← exponent? r
  if fraction.isNone ∧ exponent.isNone then return (← integer? negative 10 whole, r)
  let behind := fraction.getD []
  let n ← Text.readDigits? 10 (whole ++ behind)
  let x := Numeral.toFloat ⟨n, exponent.getD 0 - (behind.length : Int)⟩
  if negative then return (.float (-x), r)
  else if x.isInf then none
  else return (.float x, r)

/-- **The number that begins here**, and what follows it. -/
def number? (s : List Char) : Option (JsonNumber × List Char) :=
  let based (base : Nat) (r : List Char) :=
    (digits? base r).bind fun (ds, t) => (integer? false base ds).map (·, t)
  match s with
  | '0' :: 'x' :: r => based 16 r
  | '0' :: 'o' :: r => based 8 r
  | '0' :: 'b' :: r => based 2 r
  | _ =>
    let (negative, r) := sign s
    match r with
    | 'i' :: 'n' :: 'f' :: r => some (.float (if negative then -(1.0 / 0.0) else 1.0 / 0.0), r)
    | 'n' :: 'a' :: 'n' :: r => some (.float (0.0 / 0.0), r)
    | r => decimal? negative r

end AgentWorkflow.Toml
