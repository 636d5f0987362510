import ShootMachines.Document.Payload

/-!
# Reading JSON text

The reader follows RFC 8259: no leading zeros, no unpaired surrogate escapes, no raw control
characters in texts. At most 127 containers may be nested, and a number that is not finite is
refused. A whole number that fits 64 bits stays whole; any other number becomes a floating-point
value, its first digits (as many as fit 64 bits) scaled by a power of ten.
-/

namespace ShootMachines.Json

/-- Why a text is no JSON document. -/
inductive Fault where
  | endOfText
  | unexpected (character : Char)
  | badEscape
  | controlCharacter
  | badNumber
  | outOfRange
  | tooDeep
  | trailing
  deriving DecidableEq, Repr

/-- The fault in words. -/
def Fault.reason : Fault → String
  | .endOfText => "unexpected end of text"
  | .unexpected character => "unexpected character " ++ character.toString
  | .badEscape => "invalid escape"
  | .controlCharacter => "control character in a text"
  | .badNumber => "invalid number"
  | .outOfRange => "number out of range"
  | .tooDeep => "nested too deeply"
  | .trailing => "trailing characters"

/-- Space, tab, line feed and carriage return. -/
def isSpace (character : Char) : Bool :=
  character = ' ' || character = '\t' || character = '\n' || character = '\r'

/-- The text after its leading space. -/
def skipSpace (text : List Char) : List Char :=
  text.dropWhile isSpace

/-- The value of a hexadecimal digit. -/
def hexValue? (character : Char) : Option Nat :=
  let code := character.toNat
  if 48 ≤ code ∧ code ≤ 57 then some (code - 48)
  else if 65 ≤ code ∧ code ≤ 70 then some (code - 55)
  else if 97 ≤ code ∧ code ≤ 102 then some (code - 87)
  else none

/-- Four hexadecimal digits at the front of a text. -/
def readHex4 : List Char → Except Fault (Nat × List Char)
  | first :: second :: third :: fourth :: rest =>
      match hexValue? first, hexValue? second, hexValue? third, hexValue? fourth with
      | some a, some b, some c, some d => .ok (((a * 16 + b) * 16 + c) * 16 + d, rest)
      | _, _, _, _ => .error .badEscape
  | _ => .error .endOfText

/-- The character of an escape after the backslash. -/
def readEscape : List Char → Except Fault (Char × List Char)
  | [] => .error .endOfText
  | '"' :: rest => .ok ('"', rest)
  | '\\' :: rest => .ok ('\\', rest)
  | '/' :: rest => .ok ('/', rest)
  | 'b' :: rest => .ok (Char.ofNat 8, rest)
  | 'f' :: rest => .ok (Char.ofNat 12, rest)
  | 'n' :: rest => .ok ('\n', rest)
  | 'r' :: rest => .ok ('\r', rest)
  | 't' :: rest => .ok ('\t', rest)
  | 'u' :: rest => do
      let (unit, rest) ← readHex4 rest
      if 0xDC00 ≤ unit ∧ unit ≤ 0xDFFF then .error .badEscape
      else if 0xD800 ≤ unit ∧ unit ≤ 0xDBFF then
        match rest with
        | '\\' :: 'u' :: low => do
            let (second, rest) ← readHex4 low
            if 0xDC00 ≤ second ∧ second ≤ 0xDFFF then
              .ok (Char.ofNat (0x10000 + (unit - 0xD800) * 0x400 + (second - 0xDC00)), rest)
            else .error .badEscape
        | _ => .error .badEscape
      else .ok (Char.ofNat unit, rest)
  | _ :: _ => .error .badEscape

/-- The rest of a text after its opening quotation mark. The limit bounds the number of
characters. -/
def readText (limit : Nat) (text : List Char) (read : List Char) : Except Fault (String × List Char) :=
  match limit, text with
  | 0, _ => .error .endOfText
  | _, [] => .error .endOfText
  | _ + 1, '"' :: rest => .ok (String.ofList read.reverse, rest)
  | limit + 1, '\\' :: rest => do
      let (character, rest) ← readEscape rest
      readText limit rest (character :: read)
  | limit + 1, character :: rest =>
      if character.toNat < 32 then .error .controlCharacter
      else readText limit rest (character :: read)

/-- The number a run of decimal digits stands for. -/
def digitsValue (digits : List Char) : Nat :=
  digits.foldl (fun value digit => value * 10 + (digit.toNat - 48)) 0

/-- The digits that fit 64 bits, as a number, and how many digits they are. -/
def leadingDigits (digits : List Char) : Nat × Nat :=
  let rec go (value count : Nat) : List Char → Nat × Nat
    | [] => (value, count)
    | digit :: rest =>
        let next := value * 10 + (digit.toNat - 48)
        if next < 0x10000000000000000 then go next (count + 1) rest else (value, count)
  go 0 0 digits

/-- A significand scaled by a power of ten: both are rounded, then their product or quotient.
Powers below -308 divide by 10^308 first. -/
def scale? (negative : Bool) (significand : Nat) (power : Int) : Option Binary64 := do
  let base ← Binary64.ofRatio? negative significand 1
  if significand = 0 then return Binary64.zero negative
  if 308 < power then none
  else
    let multiply (value : Binary64) (power : Nat) : Option Binary64 := do
      let factor ← Binary64.ofRatio? false (Nat.pow 10 power) 1
      Binary64.ofRatio? negative (value.ratio.1 * factor.ratio.1) (value.ratio.2 * factor.ratio.2)
    let divide (value : Binary64) (power : Nat) : Option Binary64 := do
      let factor ← Binary64.ofRatio? false (Nat.pow 10 power) 1
      Binary64.ofRatio? negative (value.ratio.1 * factor.ratio.2) (value.ratio.2 * factor.ratio.1)
    if 0 ≤ power then multiply base power.toNat
    else if -308 ≤ power then divide base (-power).toNat
    else
      let lowered ← divide base 308
      if -616 ≤ power then divide lowered (-power - 308).toNat else return Binary64.zero negative

/-- An exponent: an optional sign and at least one digit. -/
def readExponent (text : List Char) : Except Fault (Int × List Char) :=
  let (negative, text) := match text with
    | '+' :: rest => (false, rest)
    | '-' :: rest => (true, rest)
    | other => (false, other)
  let digits := text.takeWhile Char.isDigit
  if digits.isEmpty then .error .badNumber
  else
    let value : Int := digitsValue digits
    .ok (if negative then -value else value, text.dropWhile Char.isDigit)

/-- A number at the front of a text. -/
def readNumber (text : List Char) : Except Fault (Number × List Char) := do
  let (negative, text) := match text with
    | '-' :: rest => (true, rest)
    | other => (false, other)
  let whole := text.takeWhile Char.isDigit
  let rest := text.dropWhile Char.isDigit
  if whole.isEmpty ∨ (whole.head? = some '0' ∧ 1 < whole.length) then .error .badNumber
  let (fraction, rest) ← match rest with
    | '.' :: after =>
        let digits := after.takeWhile Char.isDigit
        if digits.isEmpty then .error .badNumber
        else .ok (some digits, after.dropWhile Char.isDigit)
    | other => .ok (none, other)
  let (exponent, rest) ← match rest with
    | 'e' :: after => do
        let (value, rest) ← readExponent after
        .ok (some value, rest)
    | 'E' :: after => do
        let (value, rest) ← readExponent after
        .ok (some value, rest)
    | other => .ok (none, other)
  let value := digitsValue whole
  let fits := if negative then value ≠ 0 ∧ value ≤ 0x8000000000000000
    else value < 0x10000000000000000
  if fraction.isNone ∧ exponent.isNone ∧ fits then
    .ok (.whole (if negative then -value else value), rest)
  else
    let (significand, used) := leadingDigits (whole ++ fraction.getD [])
    let point : Int := if used ≤ whole.length then whole.length - used else -(used - whole.length : Nat)
    match scale? negative significand (point + exponent.getD 0) with
    | some value => .ok (.binary value, rest)
    | none => .error .outOfRange

/-- A fixed word at the front of a text. -/
def readWord (word : List Char) (value : α) (text : List Char) : Except Fault (α × List Char) :=
  if text.take word.length = word then .ok (value, text.drop word.length)
  else match text with
    | [] => .error .endOfText
    | character :: _ => .error (.unexpected character)

mutual

/-- A value at the front of a text. `depth` containers may still be opened; the limit bounds the
number of steps. -/
def readValue (limit depth : Nat) (text : List Char) : Except Fault (Payload × List Char) :=
  match limit with
  | 0 => .error .endOfText
  | limit + 1 =>
    match skipSpace text with
    | [] => .error .endOfText
    | '"' :: rest => do
        let (value, rest) ← readText rest.length.succ rest []
        .ok (.text value, rest)
    | '[' :: rest =>
        if depth = 0 then .error .tooDeep
        else match skipSpace rest with
          | ']' :: rest => .ok (.list [], rest)
          | other => do
              let (items, rest) ← readItems limit (depth - 1) other []
              .ok (.list items, rest)
    | '\x7b' :: rest =>
        if depth = 0 then .error .tooDeep
        else match skipSpace rest with
          | '\x7d' :: rest => .ok (.object [], rest)
          | other => do
              let (fields, rest) ← readFields limit (depth - 1) other .empty
              .ok (.object fields.entries, rest)
    | 't' :: rest => readWord ['t', 'r', 'u', 'e'] (.flag true) ('t' :: rest)
    | 'f' :: rest => readWord ['f', 'a', 'l', 's', 'e'] (.flag false) ('f' :: rest)
    | 'n' :: rest => readWord ['n', 'u', 'l', 'l'] .null ('n' :: rest)
    | character :: rest =>
        if character = '-' ∨ character.isDigit then do
          let (value, rest) ← readNumber (character :: rest)
          .ok (.number value, rest)
        else .error (.unexpected character)

/-- The items of a list up to its closing bracket. -/
def readItems (limit depth : Nat) (text : List Char) (read : List Payload) :
    Except Fault (List Payload × List Char) :=
  match limit with
  | 0 => .error .endOfText
  | limit + 1 => do
      let (item, rest) ← readValue limit depth text
      match skipSpace rest with
      | ',' :: rest => readItems limit depth rest (item :: read)
      | ']' :: rest => .ok ((item :: read).reverse, rest)
      | [] => .error .endOfText
      | character :: _ => .error (.unexpected character)

/-- The fields of an object up to its closing brace. -/
def readFields (limit depth : Nat) (text : List Char) (read : Dict Payload) :
    Except Fault (Dict Payload × List Char) :=
  match limit with
  | 0 => .error .endOfText
  | limit + 1 =>
    match skipSpace text with
    | '"' :: rest => do
        let (key, rest) ← readText rest.length.succ rest []
        match skipSpace rest with
        | ':' :: rest => do
            let (value, rest) ← readValue limit depth rest
            match skipSpace rest with
            | ',' :: rest => readFields limit depth rest (read.insert key value)
            | '\x7d' :: rest => .ok (read.insert key value, rest)
            | [] => .error .endOfText
            | character :: _ => .error (.unexpected character)
        | [] => .error .endOfText
        | character :: _ => .error (.unexpected character)
    | [] => .error .endOfText
    | character :: _ => .error (.unexpected character)

end

/-- The document a text stands for. -/
def read (text : String) : Except Fault Payload := do
  let characters := text.toList
  let (payload, rest) ← readValue (2 * characters.length + 2) 127 characters
  if (skipSpace rest).isEmpty then .ok payload else .error .trailing

end ShootMachines.Json
