import AgentWorkflow.Text
import AgentWorkflow.Decimal.Shortest

/-!
# How a double is written

The formats of this library write the same shortest digits in three styles.
They differ in when they give up positional notation and in the sign of a
positive exponent, so a style is a record of those two decisions and one
function writes a double in any style.
-/

namespace AgentWorkflow

/-- **How a finite double is written.** A decimal `0.d₁d₂… * 10 ^ point` is
written positionally when `point` lies in the given range, and with an
exponent otherwise. -/
structure DecimalStyle where
  /-- Whether a decimal with this point is written positionally. -/
  positional : Int → Bool
  /-- Whether a positive exponent carries its sign. -/
  plusSign : Bool

namespace DecimalStyle

/-- JSON texts write doubles from `0.00001` up to seventeen digits before the
point positionally, and `1e-6` or `1e+16` beyond. -/
def json : DecimalStyle := ⟨fun point => -5 < point && point ≤ 16, true⟩

/-- YAML texts turn to exponents where JSON texts do, and leave out the sign
of a positive one. -/
def yaml : DecimalStyle := ⟨fun point => -5 < point && point ≤ 16, false⟩

/-- TOML texts are positional always. -/
def toml : DecimalStyle := ⟨fun _ => true, false⟩

/-- The digits of a decimal in a style; a whole number keeps one zero behind
the point. -/
def decimal (style : DecimalStyle) (d : Decimal) : String :=
  let ds := Nat.toDigits 10 d.digits
  let point := d.exponent + (ds.length : Int)
  if style.positional point then
    if 0 ≤ d.exponent then
      String.ofList ds ++ Text.repeated d.exponent.toNat '0' ++ ".0"
    else if 0 < point then
      String.ofList (ds.take point.toNat) ++ "." ++ String.ofList (ds.drop point.toNat)
    else
      "0." ++ Text.repeated (-point).toNat '0' ++ String.ofList ds
  else
    let e := point - 1
    let tail := match ds.drop 1 with
      | [] => ""
      | rest => "." ++ String.ofList rest
    String.ofList (ds.take 1) ++ tail ++ "e"
      ++ (if e < 0 then "-" else if style.plusSign then "+" else "")
      ++ toString e.natAbs

/-- **A finite double in a style.** The sign is written whenever the double
has one, so that negative zero reads `-0.0`. -/
def float (style : DecimalStyle) (x : Float) : String :=
  (if x.toBits < 0x8000000000000000 then "" else "-") ++ style.decimal (Decimal.shortest x)

end DecimalStyle

end AgentWorkflow
