/-!
# Shortest decimals

Among the decimals that read back as a given double, this module finds one
with the fewest digits, and of those the nearest to the double.

A positive finite double is `m * 2 ^ q`. The reals that round to it form an
interval around it, whose ends belong to it exactly when `m` is even. On the
grid of decimals with `n` significant digits, if any point lies in the
interval then one of the two neighbours of the double does. So it is enough
to try `n = 1, 2, …, 17` and to look at two neighbours each time; seventeen
digits always suffice for a double. All comparisons are between natural
numbers.
-/

namespace AgentWorkflow

/-- A decimal `digits * 10 ^ exponent`. -/
structure Decimal where
  /-- The significand. -/
  digits : Nat
  /-- The power of ten. -/
  exponent : Int
  deriving DecidableEq

namespace Decimal

/-- The number of decimal digits of `n`; zero has one. -/
def width (n : Nat) : Nat := (Nat.toDigits 10 n).length

/-- The same decimal without zeros at the end of its significand; at most
`fuel` of them are dropped. -/
def dropZeros : Nat → Decimal → Decimal
  | 0, d => d
  | fuel + 1, d =>
    if d.digits ≠ 0 ∧ d.digits % 10 = 0 then
      dropZeros fuel ⟨d.digits / 10, d.exponent + 1⟩
    else d

/-- **A magnitude and the interval that rounds to it**, over one common
denominator: the double is `value / scale`, and the interval runs from
`low / scale` to `high / scale`. -/
structure Magnitude where
  /-- Lower end of the interval. -/
  low : Nat
  /-- The double itself. -/
  value : Nat
  /-- Upper end of the interval. -/
  high : Nat
  /-- The common denominator. -/
  scale : Nat
  /-- Whether the ends belong to the interval. -/
  closed : Bool

/-- The magnitude of the double with the given bits, its sign ignored. The
bits must be those of a finite double. Below a power of two the doubles lie
twice as close, which halves the lower part of the interval. -/
def Magnitude.ofBits (bits : UInt64) : Magnitude :=
  let fraction : Nat := bits.toNat % 0x10000000000000
  let field : Nat := bits.toNat / 0x10000000000000 % 0x800
  let m := if field = 0 then fraction else fraction + 0x10000000000000
  let place := if field = 0 then 1 else field
  let q : Int := (place : Int) - 1075
  -- In quarters of the last place the neighbours are whole numbers away.
  let below := if fraction = 0 ∧ 1 < field then 1 else 2
  let up := (q - 2).toNat
  let down := (2 - q).toNat
  { low := (4 * m - below) <<< up
    value := (4 * m) <<< up
    high := (4 * m + 2) <<< up
    scale := 1 <<< down
    closed := m % 2 = 0 }

/-- Whether `n * 10 ^ k` lies in the interval of the magnitude. -/
def Magnitude.holds (g : Magnitude) (n : Nat) (k : Int) : Bool :=
  let p := n * Nat.pow 10 k.toNat * g.scale
  let t := Nat.pow 10 (-k).toNat
  if g.closed then g.low * t ≤ p && p ≤ g.high * t
  else g.low * t < p && p < g.high * t

/-- The exponent of the leading decimal digit of a positive magnitude. -/
def Magnitude.leading (g : Magnitude) : Int :=
  if g.scale ≤ g.value then (width (g.value / g.scale) : Int) - 1
  else
    let j := width (g.scale / g.value) - 1
    if g.scale ≤ g.value * Nat.pow 10 j then -(j : Int) else -(j : Int) - 1

/-- The decimal with `n` digits that the interval holds, if there is one: the
nearer of the two neighbours, and of two equally near the even one. -/
def Magnitude.onGrid (g : Magnitude) (n : Nat) : Option Decimal :=
  let k := g.leading + 1 - n
  let num := g.value * Nat.pow 10 (-k).toNat
  let den := g.scale * Nat.pow 10 k.toNat
  let lower := num / den
  let twice := 2 * (num % den)
  let upperFirst := decide (den < twice) || (decide (twice = den) && decide (lower % 2 = 1))
  let first := if upperFirst then lower + 1 else lower
  let second := if upperFirst then lower else lower + 1
  if g.holds first k then some ⟨first, k⟩
  else if g.holds second k then some ⟨second, k⟩
  else none

/-- **The shortest decimal that reads back as the double**, the nearest of
those with the fewest digits. The sign is dropped, and zero gives zero. The
double must be finite. -/
def shortest (x : Float) : Decimal :=
  let g := Magnitude.ofBits x.toBits
  if g.value = 0 then ⟨0, 0⟩
  else
    match (List.range 17).findSome? (fun n => g.onGrid (n + 1)) with
    | some d => dropZeros 20 d
    | none => ⟨0, 0⟩

end Decimal

end AgentWorkflow
