import ShootMachines.Number.Binary64
import ShootMachines.Schema.Source
import ShootMachines.Yaml.Node

/-!
# What plain scalars stand for

A plain scalar without a tag is a null, a flag or a number if it is spelled like one, and a text
otherwise. Whole numbers are decimal, or hexadecimal, octal or binary with a mark; a decimal number
with a leading zero is a text. A core tag fixes the type.
-/

namespace ShootMachines.Yaml

/-- The start of the tags of the core types. -/
def coreTag (type : String) : String :=
  "tag:yaml.org,2002:" ++ type

/-- Whether a text spells null. -/
def isNullWord (text : String) : Bool :=
  text = "null" || text = "Null" || text = "NULL" || text = "~"

/-- The flag that a text spells. -/
def flagOf? (text : String) : Option Bool :=
  if text = "true" || text = "True" || text = "TRUE" then some true
  else if text = "false" || text = "False" || text = "FALSE" then some false
  else none

/-- The value of a digit in a base up to sixteen. -/
def digitIn? (base : Nat) (character : Char) : Option Nat :=
  (hexValue? character).filter (· < base)

/-- The number of a nonempty run of digits in a base. -/
def digitsIn? (base : Nat) (digits : List Char) : Option Nat :=
  if digits.isEmpty then none
  else (digits.mapM (digitIn? base)).map (·.foldl (fun value digit => value * base + digit) 0)

/-- Whether a text is two or more digits of which the first is zero, up to a sign. -/
def isZeroLed (text : List Char) : Bool :=
  let digits := match text with
    | '+' :: rest => rest
    | '-' :: rest => rest
    | other => other
  1 < digits.length && digits.head? = some '0' && digits.all Char.isDigit

/-- The text without a plus sign; no other sign may follow it. -/
def dropPlus? : List Char → Option (List Char)
  | '+' :: rest =>
      if rest.head? = some '+' ∨ rest.head? = some '-' then none else some rest
  | other => some other

/-- The magnitude of a number, marked as hexadecimal, octal or binary or spelled in decimal digits. -/
def magnitude? : List Char → Option Nat
  | '0' :: 'x' :: rest => digitsIn? 16 rest
  | '0' :: 'o' :: rest => digitsIn? 8 rest
  | '0' :: 'b' :: rest => digitsIn? 2 rest
  | digits => if isZeroLed digits then none else digitsIn? 10 digits

/-- The whole number that a text spells. -/
def wholeOf? (text : List Char) : Option Int :=
  match text with
  | '-' :: rest => (magnitude? rest).map fun value => -(value : Int)
  | _ => ((dropPlus? text).bind magnitude?).map fun value => (value : Int)

/-- The decimal fraction or exponent notation that a text spells, without a sign. -/
def decimalOf? (text : List Char) : Option (Nat × Int) := do
  let whole := text.takeWhile Char.isDigit
  let rest := text.dropWhile Char.isDigit
  let (fraction, rest) := match rest with
    | '.' :: after => (after.takeWhile Char.isDigit, after.dropWhile Char.isDigit)
    | other => ([], other)
  let exponent ← match rest with
    | [] => some (0 : Int)
    | mark :: after =>
        if mark ≠ 'e' ∧ mark ≠ 'E' then none
        else match after with
          | '-' :: digits => (digitsIn? 10 digits).map fun value => -(value : Int)
          | '+' :: digits => (digitsIn? 10 digits).map fun value => (value : Int)
          | digits => (digitsIn? 10 digits).map fun value => (value : Int)
  let digits ← digitsIn? 10 (whole ++ fraction)
  return (digits, exponent - fraction.length)

/-- Whether a text spells infinity. -/
def isInfinityWord (text : List Char) : Bool :=
  text = ".inf".toList || text = ".Inf".toList || text = ".INF".toList

/-- Whether a text spells a value that is not a number. -/
def isNanWord (text : List Char) : Bool :=
  text = ".nan".toList || text = ".NaN".toList || text = ".NAN".toList

/-- The floating-point value that a text spells. Digits beyond the greatest value spell none. -/
def binaryOf? (text : List Char) : Option Scalar := do
  let unsigned ← dropPlus? text
  if isInfinityWord unsigned then some (.infinite false)
  else if text.head? = some '-' ∧ isInfinityWord (text.drop 1) then some (.infinite true)
  else if isNanWord text then some .notANumber
  else
    let negative := unsigned.head? = some '-'
    let (digits, power) ← decimalOf? (if negative then unsigned.drop 1 else unsigned)
    (Binary64.ofDecimal? negative digits power).map .binary

/-- Whether a whole number fits 64 bits, with a sign if it is negative and without one otherwise. -/
def fits64 (value : Int) : Bool :=
  -0x8000000000000000 ≤ value && value < 0x10000000000000000

/-- Whether a whole number fits 128 bits in the same way. -/
def fits128 (value : Int) : Bool :=
  -0x80000000000000000000000000000000 ≤ value &&
    value < 0x100000000000000000000000000000000

/-- The whole number that a text spells, if it fits 128 bits; one beyond 64 bits is refused. -/
def wholeScalar? (text : String) : Option (Except Mismatch Scalar) :=
  ((wholeOf? text.toList).filter fits128).map fun value =>
    if fits64 value then .ok (.whole value) else .error (.wanted "a 64-bit number")

/-- What a plain scalar without a tag stands for. -/
def plainScalarOf (text : String) : Except Mismatch Scalar :=
  if text.isEmpty || isNullWord text then .ok .null
  else
    match flagOf? text, wholeScalar? text with
    | some value, _ => .ok (.flag value)
    | none, some value => value
    | none, none =>
        if isZeroLed text.toList then .ok (.text text)
        else .ok ((binaryOf? text.toList).getD (.text text))

/-- What a scalar stands for. A local tag chooses a variant, so it makes no scalar. -/
def scalarOf (tag : Option String) (style : ScalarStyle) (text : String) : Except Mismatch Scalar :=
  match tag with
  | none => if style = .plain then plainScalarOf text else .ok (.text text)
  | some tag =>
      if tag.startsWith "!" then .error (.wanted "a value without a variant")
      else if tag = coreTag "bool" then
        match flagOf? text with
        | some value => .ok (.flag value)
        | none => .error (.wanted "true or false")
      else if tag = coreTag "int" then
        (wholeScalar? text).getD (.error (.wanted "a whole number"))
      else if tag = coreTag "float" then
        match binaryOf? text.toList with
        | some value => .ok value
        | none => .error (.wanted "a number")
      else if tag = coreTag "null" then
        if isNullWord text then .ok .null else .error (.wanted "null")
      else .ok (.text text)

end ShootMachines.Yaml
