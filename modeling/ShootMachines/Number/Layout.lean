import ShootMachines.Number.Binary64

/-!
# Written forms of floating-point values

A written form says which decimal exponents are spelled out positionally, whether a whole number
keeps a fraction, and how an exponent is marked. Documents use one form, quantities another.
-/

namespace ShootMachines

/-- How a floating-point value is written. The scientific exponent of `digits * 10 ^ power` is the
exponent of its first digit. -/
structure NumberLayout where
  /-- Whether a value with this scientific exponent is written without an exponent. -/
  positional : Int → Bool
  /-- Whether a whole number ends in `.0`. -/
  wholeFraction : Bool

namespace NumberLayout

/-- Documents write `0.00001` and `1000000000000000.0` positionally and smaller or greater values
with a signed exponent: `1e-6`, `1.5e+16`. -/
def document : NumberLayout where
  positional exponent := -5 ≤ exponent ∧ exponent < 16
  wholeFraction := true

/-- Quantities never use an exponent and drop an empty fraction. -/
def quantity : NumberLayout where
  positional _ := true
  wholeFraction := false

/-- The digits with a point before the last `-power` of them. -/
def writePositional (layout : NumberLayout) (decimal : Binary64.Decimal) : String :=
  let digits := Nat.toDigits 10 decimal.digits
  if 0 ≤ decimal.power then
    let whole := digits ++ List.replicate (if decimal.digits = 0 then 0 else decimal.power.toNat) '0'
    String.ofList whole ++ (if layout.wholeFraction then ".0" else "")
  else
    let places := (-decimal.power).toNat
    let padded := List.replicate (places + 1 - digits.length) '0' ++ digits
    let whole := padded.take (padded.length - places)
    String.ofList whole ++ "." ++ String.ofList (padded.drop (padded.length - places))

/-- One digit before the point and a signed exponent. -/
def writeExponent (decimal : Binary64.Decimal) (exponent : Int) : String :=
  let digits := Nat.toDigits 10 decimal.digits
  let fraction := digits.drop 1
  String.ofList (digits.take 1) ++
    (if fraction.isEmpty then "" else "." ++ String.ofList fraction) ++
    "e" ++ (if exponent < 0 then "-" else "+") ++ toString exponent.natAbs

/-- The shortest text that reads back as the value, in a layout. -/
def write (layout : NumberLayout) (value : Binary64) : String :=
  let decimal := value.shortest
  let exponent := decimal.power + Binary64.digitCount decimal.digits - 1
  let sign := if value.negative then "-" else ""
  sign ++
    if layout.positional exponent then layout.writePositional decimal
    else writeExponent decimal exponent

end NumberLayout

end ShootMachines
