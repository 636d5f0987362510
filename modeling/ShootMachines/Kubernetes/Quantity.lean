import ShootMachines.Text.Quoted

/-!
# Kubernetes quantities

A quantity is a decimal number with an optional sign and an optional suffix: an SI letter, a binary
SI prefix, or a decimal exponent. The text of a quantity is kept as written.
-/

namespace ShootMachines

/-- A quantity, as written. -/
structure Quantity where
  text : String
  deriving DecidableEq, Repr, Inhabited

namespace Quantity

/-- Why a text is no quantity. -/
inductive Fault where
  | manyPoints
  | missingNumber
  | unknownSuffix (suffix : String)
  deriving DecidableEq, Repr

/-- The fault in words. -/
def Fault.message : Fault → String
  | .manyPoints => "more than one decimal point"
  | .missingNumber => "missing number"
  | .unknownSuffix suffix => "unknown suffix " ++ quoted suffix

/-- The suffixes that scale by a power of two. -/
def binarySuffixes : List (List Char) :=
  [['K', 'i'], ['M', 'i'], ['G', 'i'], ['T', 'i'], ['P', 'i'], ['E', 'i']]

/-- The suffixes that scale by a power of ten, the empty one among them. -/
def decimalSuffixes : List (List Char) :=
  [['n'], ['u'], ['m'], [], ['k'], ['M'], ['G'], ['T'], ['P'], ['E']]

/-- The text without one leading sign. -/
def dropSign : List Char → List Char
  | '+' :: rest => rest
  | '-' :: rest => rest
  | text => text

/-- Whether a suffix is an exponent: the letter, an optional sign, at least one digit. -/
def isExponent : List Char → Bool
  | letter :: rest =>
      (letter = 'e' || letter = 'E') && !(dropSign rest).isEmpty && (dropSign rest).all Char.isDigit
  | [] => false

/-- Whether a suffix may follow the number of a quantity. -/
def isSuffix (suffix : List Char) : Bool :=
  binarySuffixes.contains suffix || decimalSuffixes.contains suffix || isExponent suffix

/-- Whether a character belongs to the number of a quantity. -/
def isNumeral (character : Char) : Bool :=
  character.isDigit || character = '.'

/-- Check the characters of a quantity. -/
def check (text : List Char) : Except Fault Unit :=
  let unsigned := dropSign text
  let number := unsigned.takeWhile isNumeral
  let suffix := unsigned.dropWhile isNumeral
  if 1 < number.count '.' then .error .manyPoints
  else if number.all (· = '.') then .error .missingNumber
  else if isSuffix suffix then .ok ()
  else .error (.unknownSuffix (String.ofList suffix))

/-- Read a quantity. -/
def parse (text : String) : Except Fault Quantity :=
  (check text.toList).map fun _ => ⟨text⟩

end Quantity

end ShootMachines
