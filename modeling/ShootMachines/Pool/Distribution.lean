import ShootMachines.Failure
import ShootMachines.Kubernetes.IntOrText
import ShootMachines.Text.Blank

/-!
# Spreading bounds over zones

A worker pool bounds the number of its machines as a whole; each of its zones gets a share. Shares
differ by at most one and the first zones get the greater ones. A bound may be a percentage of a
reference count, rounded down.
-/

namespace ShootMachines.Pool

/-- The share of a zone in a total: the total over the number of zones, one more in as many first
zones as remain over. -/
def share (zone total zones : Int) : Int :=
  if zones ≤ 0 ∨ total ≤ 0 then 0
  else if zone < total % zones then total / zones + 1
  else total / zones

/-- Whether a number fits 32 bits. -/
def fitsInt32 (value : Int) : Bool :=
  -0x80000000 ≤ value ∧ value < 0x80000000

/-- Whether a number fits 64 bits. -/
def fitsInt64 (value : Int) : Bool :=
  -0x8000000000000000 ≤ value ∧ value < 0x8000000000000000

/-- The number a run of decimal digits stands for. -/
def digitsValue (digits : List Char) : Nat :=
  digits.foldl (fun value digit => value * 10 + (digit.toNat - 48)) 0

/-- A signed decimal number: an optional sign and at least one digit, nothing else. -/
def signedNumber? (text : List Char) : Option Int :=
  let (negative, digits) := match text with
    | '+' :: rest => (false, rest)
    | '-' :: rest => (true, rest)
    | other => (false, other)
  if digits.isEmpty || !digits.all Char.isDigit then none
  else some (if negative then -(digitsValue digits : Int) else digitsValue digits)

/-- The text without its last character, if that is a percent sign. -/
def dropPercent? (text : List Char) : Option (List Char) :=
  if text.getLast? = some '%' then some text.dropLast else none

/-- The whole number of machines that a percentage of a reference count stands for, rounded toward
minus infinity. The percentage and its product with the reference have to fit 64 bits, the result
32 bits. -/
def resolvePercentage (text : List Char) (reference : Int) : Except BoundFault Int :=
  match dropPercent? (trimChars text) with
  | none => .error .notPercentage
  | some digits =>
      match (signedNumber? digits).filter fitsInt64 with
      | none => .error .notInteger
      | some percent =>
          if fitsInt64 (reference * percent) && fitsInt32 ((reference * percent).fdiv 100) then
            .ok ((reference * percent).fdiv 100)
          else .error .overflow

/-- The number of machines a bound stands for. -/
def resolveBound (bound : IntOrText) (reference : Int32) : Except Failure Int :=
  match bound with
  | .int total => .ok total.toInt
  | .text text =>
      match resolvePercentage text.toList reference.toInt with
      | .ok total => .ok total
      | .error fault => .error (.distribution text fault)

/-- The share of a zone in a bound. -/
def boundShare (zone : Int) (bound : IntOrText) (zones : Int) (reference : Int32) :
    Except Failure Int32 :=
  (resolveBound bound reference).map fun total => Int32.ofInt (share zone total zones)

end ShootMachines.Pool
