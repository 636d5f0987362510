/-!
# Finite binary floating-point values

A finite binary64 value is a sign, a significand below 2^53 and a power of two. This module rounds
exact quotients of natural numbers to such values, to the nearest and on a tie to the even
significand, and says what the shortest decimal that reads back as a value is.
-/

namespace ShootMachines

/-- The finite value `significand * 2 ^ exponent` with a sign. A significand below 2^52 occurs only
with the least exponent, -1074. -/
structure Binary64 where
  negative : Bool
  significand : Nat
  exponent : Int
  deriving DecidableEq, Repr

namespace Binary64

/-- Positive or negative zero. -/
def zero (negative : Bool) : Binary64 := ⟨negative, 0, -1074⟩

/-- The quotient of two positive numbers lies in `[2 ^ k, 2 ^ (k + 1))` for this `k`. -/
def floorLog2 (numerator denominator : Nat) : Int :=
  let guess : Int := numerator.log2 - denominator.log2
  if numerator <<< (-guess).toNat < denominator <<< guess.toNat then guess - 1 else guess

/-- The nearest natural number to a quotient, on a tie the even one. -/
def divideToEven (numerator denominator : Nat) : Nat :=
  let whole := numerator / denominator
  let twice := 2 * (numerator % denominator)
  if twice < denominator then whole
  else if denominator < twice then whole + 1
  else whole + whole % 2

/-- The value nearest to a quotient; `none` if that is beyond the greatest finite one. -/
def ofRatio? (negative : Bool) (numerator denominator : Nat) : Option Binary64 :=
  if numerator = 0 then some (zero negative)
  else
    let exponent := max (floorLog2 numerator denominator - 52) (-1074)
    let significand :=
      divideToEven (numerator <<< (-exponent).toNat) (denominator <<< exponent.toNat)
    let (significand, exponent) :=
      if significand = 0x20000000000000 then (0x10000000000000, exponent + 1)
      else (significand, exponent)
    if exponent ≤ 971 then some ⟨negative, significand, exponent⟩ else none

/-- The magnitude as a quotient of natural numbers. -/
def ratio (value : Binary64) : Nat × Nat :=
  (value.significand <<< value.exponent.toNat, 1 <<< (-value.exponent).toNat)

/-- The value nearest to `digits * 10 ^ power`, where the digit count bounds the work: a number
that is certainly too great or certainly rounds to zero is not multiplied out. -/
def ofDecimal? (negative : Bool) (digits : Nat) (power : Int) : Option Binary64 :=
  let magnitude : Int := (digits.log2 : Int) * 3 / 10 + power
  if digits = 0 then some (zero negative)
  else if 400 < magnitude then none
  else if magnitude < -400 then some (zero negative)
  else ofRatio? negative (digits * Nat.pow 10 power.toNat) (Nat.pow 10 (-power).toNat)

/-- A decimal `digits * 10 ^ power`. -/
structure Decimal where
  digits : Nat
  power : Int
  deriving DecidableEq, Repr

/-- The number of decimal digits of a number; zero has one. -/
def digitCount (number : Nat) : Nat :=
  (Nat.toDigits 10 number).length

/-- A positive quotient lies in `[10 ^ (k - 1), 10 ^ k)` for this `k`. -/
def decimalLength (numerator denominator : Nat) : Int :=
  if denominator ≤ numerator then digitCount (numerator / denominator)
  else
    let guess : Int := (floorLog2 numerator denominator * 30103) / 100000
    let start := guess - 1
    let above (power : Int) : Bool :=
      numerator * Nat.pow 10 (-power).toNat < denominator * Nat.pow 10 power.toNat
    if above start then start
    else if above (start + 1) then start + 1
    else if above (start + 2) then start + 2
    else start + 3

/-- The decimals with a given number of digits next to the magnitude, below and above, that read
back as the value; the nearer one if both do. -/
def neighbour? (value : Binary64) (count : Nat) : Option Decimal :=
  let unit : Nat × Nat := (1 <<< (value.exponent - 2).toNat, 1 <<< (2 - value.exponent).toNat)
  let middle := 4 * value.significand
  let low :=
    if value.significand = 0x10000000000000 ∧ value.exponent ≠ -1074 then middle - 1 else middle - 2
  let high := middle + 2
  let power := decimalLength (middle * unit.1) unit.2 - count
  let scale := Nat.pow 10 (-power).toNat * unit.1
  let grid := Nat.pow 10 power.toNat * unit.2
  let below := middle * scale / grid
  let above := below + 1
  let readsBack (digits : Nat) : Bool :=
    if value.significand % 2 = 0 then low * scale ≤ digits * grid ∧ digits * grid ≤ high * scale
    else low * scale < digits * grid ∧ digits * grid < high * scale
  let belowGap := middle * scale - below * grid
  let aboveGap := above * grid - middle * scale
  match readsBack below, readsBack above with
  | true, true =>
      let digits :=
        if belowGap < aboveGap then below
        else if aboveGap < belowGap then above
        else below + below % 2
      some ⟨digits, power⟩
  | true, false => some ⟨below, power⟩
  | false, true => some ⟨above, power⟩
  | false, false => none

/-- Move trailing zeros of the digits into the power. -/
def Decimal.strip : Nat → Decimal → Decimal
  | 0, decimal => decimal
  | limit + 1, decimal =>
      if decimal.digits ≠ 0 ∧ decimal.digits % 10 = 0 then
        strip limit ⟨decimal.digits / 10, decimal.power + 1⟩
      else decimal

/-- The decimal with the fewest digits that reads back as the magnitude, the nearest one of those.
Seventeen digits always suffice. -/
def shortest (value : Binary64) : Decimal :=
  if value.significand = 0 then ⟨0, 0⟩
  else
    let counts := (List.range 17).map (· + 1)
    match counts.findSome? value.neighbour? with
    | some decimal => decimal.strip 20
    | none => ⟨value.significand, 0⟩

end Binary64

end ShootMachines
