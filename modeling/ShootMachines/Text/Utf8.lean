import ShootMachines.Text.Base64

/-!
# UTF-8

Text travels as UTF-8 bytes. Reading splits a byte sequence into characters and ill-formed parts, an
ill-formed part being a longest start of a character that does not go on, or a single byte that
starts none. A strict reader refuses ill-formed parts, a lossy one puts U+FFFD in their place.
-/

namespace ShootMachines.Utf8

/-- The bytes of a text. -/
def encode (text : String) : Bytes :=
  text.toList.flatMap String.utf8EncodeChar

/-- What follows a byte that starts a character: the number of further bytes, and the range of the
first of them. -/
def lead? (byte : UInt8) : Option (Nat × UInt8 × UInt8) :=
  if 0xC2 ≤ byte ∧ byte ≤ 0xDF then some (1, 0x80, 0xBF)
  else if byte = 0xE0 then some (2, 0xA0, 0xBF)
  else if byte = 0xED then some (2, 0x80, 0x9F)
  else if 0xE1 ≤ byte ∧ byte ≤ 0xEF then some (2, 0x80, 0xBF)
  else if byte = 0xF0 then some (3, 0x90, 0xBF)
  else if 0xF1 ≤ byte ∧ byte ≤ 0xF3 then some (3, 0x80, 0xBF)
  else if byte = 0xF4 then some (3, 0x80, 0x8F)
  else none

/-- Take the further bytes of a character, the first of them within a range. -/
def follow (count : Nat) (low high : UInt8) (value : Nat) (bytes : Bytes) : Option Nat × Bytes :=
  match count, bytes with
  | 0, rest => (some value, rest)
  | _ + 1, [] => (none, [])
  | count + 1, byte :: rest =>
      if low ≤ byte ∧ byte ≤ high then
        follow count 0x80 0xBF (value * 64 + byte.toNat % 64) rest
      else (none, byte :: rest)

/-- Taking further bytes leaves no more than there were. -/
theorem length_follow_le (count : Nat) (low high : UInt8) (value : Nat) (bytes : Bytes) :
    (follow count low high value bytes).2.length ≤ bytes.length := by
  induction count generalizing low high value bytes with
  | zero => simp [follow]
  | succ count ih =>
      cases bytes with
      | nil => simp [follow]
      | cons byte rest =>
          unfold follow
          split
          · exact Nat.le_succ_of_le (ih 0x80 0xBF _ rest)
          · exact Nat.le_refl _

/-- The character that starts with a byte, if it is well-formed, and the bytes after it. -/
def step (byte : UInt8) (rest : Bytes) : Option Char × Bytes :=
  if byte < 0x80 then (some (Char.ofNat byte.toNat), rest)
  else
    match lead? byte with
    | none => (none, rest)
    | some (count, low, high) =>
        let start := byte.toNat % (1 <<< (6 - count))
        let (value, rest) := follow count low high start rest
        (value.map Char.ofNat, rest)

/-- A step leaves no more bytes than follow its first one. -/
theorem length_step_le (byte : UInt8) (rest : Bytes) : (step byte rest).2.length ≤ rest.length := by
  unfold step
  split
  · exact Nat.le_refl _
  · split
    · exact Nat.le_refl _
    · exact length_follow_le _ _ _ _ rest

/-- The characters of a byte sequence, with nothing for each ill-formed part. -/
def characters : Bytes → List (Option Char)
  | [] => []
  | byte :: rest => (step byte rest).1 :: characters (step byte rest).2
termination_by bytes => bytes.length
decreasing_by exact Nat.lt_succ_of_le (length_step_le byte rest)

/-- The text of a well-formed byte sequence. -/
def decode? (bytes : Bytes) : Option String :=
  ((characters bytes).mapM id).map String.ofList

/-- The text of a byte sequence, U+FFFD standing for each ill-formed part. -/
def decodeLossy (bytes : Bytes) : String :=
  String.ofList ((characters bytes).map fun character => character.getD (Char.ofNat 0xFFFD))

end ShootMachines.Utf8
