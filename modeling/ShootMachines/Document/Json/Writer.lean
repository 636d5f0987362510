import ShootMachines.Document.Payload
import ShootMachines.Number.Layout

/-!
# Canonical document text

The canonical text of a value is JSON without spaces, the fields of an object in their order. Only
the quotation mark, the backslash and the characters below U+0020 are escaped, so the text never
holds a line break.
-/

namespace ShootMachines.Json

/-- One lowercase hexadecimal digit. -/
def hexDigit (value : Nat) : Char :=
  if value < 10 then Char.ofNat (48 + value) else Char.ofNat (87 + value)

/-- The escaped form of a character within a quoted text. -/
def escape (character : Char) : List Char :=
  if character = '"' then ['\\', '"']
  else if character = '\\' then ['\\', '\\']
  else if character = '\n' then ['\\', 'n']
  else if character = '\r' then ['\\', 'r']
  else if character = '\t' then ['\\', 't']
  else if character.toNat = 8 then ['\\', 'b']
  else if character.toNat = 12 then ['\\', 'f']
  else if character.toNat < 32 then
    ['\\', 'u', '0', '0', hexDigit (character.toNat / 16), hexDigit (character.toNat % 16)]
  else [character]

/-- A quoted text. -/
def writeText (value : String) : List Char :=
  '"' :: value.toList.flatMap escape ++ ['"']

/-- A number: decimal digits, or the document form of a floating-point value. -/
def writeNumber : Number → List Char
  | .whole value => (toString value).toList
  | .binary value => (NumberLayout.document.write value).toList

mutual

/-- The canonical text of a value, as characters. -/
def writeChars : Payload → List Char
  | .null => ['n', 'u', 'l', 'l']
  | .flag true => ['t', 'r', 'u', 'e']
  | .flag false => ['f', 'a', 'l', 's', 'e']
  | .number value => writeNumber value
  | .text value => writeText value
  | .list items => '[' :: writeItems items ++ [']']
  | .object fields => '\x7b' :: writeFields fields ++ ['\x7d']

/-- The items of a list, separated by commas. -/
def writeItems : List Payload → List Char
  | [] => []
  | item :: rest =>
      match rest with
      | [] => writeChars item
      | _ :: _ => writeChars item ++ ',' :: writeItems rest

/-- The fields of an object, separated by commas. -/
def writeFields : List (String × Payload) → List Char
  | [] => []
  | (key, value) :: rest =>
      match rest with
      | [] => writeText key ++ ':' :: writeChars value
      | _ :: _ => writeText key ++ ':' :: writeChars value ++ ',' :: writeFields rest

end

/-- The canonical text of a value. -/
def write (payload : Payload) : String :=
  String.ofList (writeChars payload)

end ShootMachines.Json
