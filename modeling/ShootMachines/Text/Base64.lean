/-!
# Base64

Bytes travel in documents as standard base64 text. Writing always pads; reading wants the padding,
refuses every character outside the alphabet, and refuses bits set beyond the last byte, so every
byte sequence has one written form.
-/

namespace ShootMachines

/-- A byte sequence. -/
abbrev Bytes := List UInt8

namespace Base64

/-- The character of a six-bit value. -/
def character (value : Nat) : Char :=
  if value < 26 then Char.ofNat (65 + value)
  else if value < 52 then Char.ofNat (71 + value)
  else if value < 62 then Char.ofNat (value - 4)
  else if value = 62 then '+'
  else '/'

/-- The six-bit value of a character of the alphabet. -/
def value? (character : Char) : Option Nat :=
  let code := character.toNat
  if 65 ≤ code ∧ code ≤ 90 then some (code - 65)
  else if 97 ≤ code ∧ code ≤ 122 then some (code - 71)
  else if 48 ≤ code ∧ code ≤ 57 then some (code + 4)
  else if character = '+' then some 62
  else if character = '/' then some 63
  else none

/-- The characters of a byte sequence. -/
def encodeChars : Bytes → List Char
  | [] => []
  | [first] =>
      [character (first.toNat / 4), character (first.toNat % 4 * 16), '=', '=']
  | [first, second] =>
      [character (first.toNat / 4), character (first.toNat % 4 * 16 + second.toNat / 16),
        character (second.toNat % 16 * 4), '=']
  | first :: second :: third :: rest =>
      character (first.toNat / 4) :: character (first.toNat % 4 * 16 + second.toNat / 16) ::
        character (second.toNat % 16 * 4 + third.toNat / 64) :: character (third.toNat % 64) ::
        encodeChars rest

/-- The bytes written as these characters. -/
def decodeChars : List Char → Option Bytes
  | [] => some []
  | [first, second, '=', '='] => do
      let a ← value? first
      let b ← value? second
      if b % 16 = 0 then some [UInt8.ofNat (a * 4 + b / 16)] else none
  | [first, second, third, '='] => do
      let a ← value? first
      let b ← value? second
      let c ← value? third
      if c % 4 = 0 then some [UInt8.ofNat (a * 4 + b / 16), UInt8.ofNat (b % 16 * 16 + c / 4)]
      else none
  | first :: second :: third :: fourth :: rest => do
      let a ← value? first
      let b ← value? second
      let c ← value? third
      let d ← value? fourth
      let others ← decodeChars rest
      some (UInt8.ofNat (a * 4 + b / 16) :: UInt8.ofNat (b % 16 * 16 + c / 4) ::
        UInt8.ofNat (c % 4 * 64 + d) :: others)
  | _ => none

/-- The base64 text of a byte sequence. -/
def encode (bytes : Bytes) : String :=
  String.ofList (encodeChars bytes)

/-- The bytes of a base64 text. -/
def decode? (text : String) : Option Bytes :=
  decodeChars text.toList

end Base64

end ShootMachines
