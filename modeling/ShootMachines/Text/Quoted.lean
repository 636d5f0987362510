import ShootMachines.Text.Unprintable

/-!
# Quoted texts in messages

A message quotes a text between quotation marks so that every character can be told apart: the
quotation mark, the backslash and the usual control characters get a short escape and every other
character without a glyph of its own is spelled out as `\u` and its code point in braces.
-/

namespace ShootMachines

/-- The code point of a character in lowercase hexadecimal digits. -/
def hexDigits (code : Nat) : List Char :=
  Nat.toDigits 16 code

/-- A character as it stands in a quoted text. -/
def quoteChar (character : Char) : List Char :=
  if character = '"' then ['\\', '"']
  else if character = '\\' then ['\\', '\\']
  else if character = '\n' then ['\\', 'n']
  else if character = '\r' then ['\\', 'r']
  else if character = '\t' then ['\\', 't']
  else if character.toNat = 0 then ['\\', '0']
  else if 0x20 ≤ character.toNat ∧ character.toNat < 0x7f then [character]
  else if unprintable.contains character.toNat then
    ['\\', 'u', '\x7b'] ++ hexDigits character.toNat ++ ['\x7d']
  else [character]

/-- A text between quotation marks. -/
def quoted (text : String) : String :=
  String.ofList ('"' :: text.toList.flatMap quoteChar ++ ['"'])

end ShootMachines
