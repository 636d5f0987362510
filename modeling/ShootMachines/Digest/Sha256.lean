import ShootMachines.Text.Base64

/-!
# SHA-256

The digest of FIPS 180-4: the message is padded to blocks of sixteen 32-bit words, each block is
expanded to 64 words, and 64 rounds mix them into eight words of state.
-/

namespace ShootMachines.Sha256

/-- The first 32 bits of the fractional parts of the cube roots of the first 64 primes. -/
def roundConstants : List UInt32 := [
  0x428a2f98, 0x71374491, 0xb5c0fbcf, 0xe9b5dba5, 0x3956c25b, 0x59f111f1, 0x923f82a4, 0xab1c5ed5,
  0xd807aa98, 0x12835b01, 0x243185be, 0x550c7dc3, 0x72be5d74, 0x80deb1fe, 0x9bdc06a7, 0xc19bf174,
  0xe49b69c1, 0xefbe4786, 0x0fc19dc6, 0x240ca1cc, 0x2de92c6f, 0x4a7484aa, 0x5cb0a9dc, 0x76f988da,
  0x983e5152, 0xa831c66d, 0xb00327c8, 0xbf597fc7, 0xc6e00bf3, 0xd5a79147, 0x06ca6351, 0x14292967,
  0x27b70a85, 0x2e1b2138, 0x4d2c6dfc, 0x53380d13, 0x650a7354, 0x766a0abb, 0x81c2c92e, 0x92722c85,
  0xa2bfe8a1, 0xa81a664b, 0xc24b8b70, 0xc76c51a3, 0xd192e819, 0xd6990624, 0xf40e3585, 0x106aa070,
  0x19a4c116, 0x1e376c08, 0x2748774c, 0x34b0bcb5, 0x391c0cb3, 0x4ed8aa4a, 0x5b9cca4f, 0x682e6ff3,
  0x748f82ee, 0x78a5636f, 0x84c87814, 0x8cc70208, 0x90befffa, 0xa4506ceb, 0xbef9a3f7, 0xc67178f2]

/-- The eight words of state. -/
structure State where
  a : UInt32
  b : UInt32
  c : UInt32
  d : UInt32
  e : UInt32
  f : UInt32
  g : UInt32
  h : UInt32
  deriving DecidableEq, Repr

/-- The state before the first block: the fractional parts of the square roots of the first eight
primes. -/
def State.start : State :=
  ⟨0x6a09e667, 0xbb67ae85, 0x3c6ef372, 0xa54ff53a, 0x510e527f, 0x9b05688c, 0x1f83d9ab, 0x5be0cd19⟩

/-- The words of the state, in order. -/
def State.words (state : State) : List UInt32 :=
  [state.a, state.b, state.c, state.d, state.e, state.f, state.g, state.h]

/-- Rotate a word to the right. -/
def rotate (word : UInt32) (count : UInt32) : UInt32 :=
  (word >>> count) ||| (word <<< (32 - count))

/-- The word of a number of bytes, the first one the most significant. -/
def wordOfBytes (bytes : Bytes) : UInt32 :=
  bytes.foldl (fun word byte => (word <<< 8) ||| byte.toUInt32) 0

/-- The bytes of a word, the most significant first. -/
def bytesOfWord (word : UInt32) : Bytes :=
  [(word >>> 24).toUInt8, (word >>> 16).toUInt8, (word >>> 8).toUInt8, word.toUInt8]

/-- The next expanded word after the given ones, the latest first. -/
def nextWord (words : List UInt32) : UInt32 :=
  let recent := words.getD 1 0
  let distant := words.getD 14 0
  let low := rotate distant 7 ^^^ rotate distant 18 ^^^ (distant >>> 3)
  let high := rotate recent 17 ^^^ rotate recent 19 ^^^ (recent >>> 10)
  words.getD 15 0 + low + words.getD 6 0 + high

/-- The words of a block and a number of expanded words after them. -/
def expand (count : Nat) (block : List UInt32) : List UInt32 :=
  (Nat.repeat (fun words => nextWord words :: words) count block.reverse).reverse

/-- One round with a round constant and an expanded word. -/
def round (state : State) (constant word : UInt32) : State :=
  let highMix := rotate state.e 6 ^^^ rotate state.e 11 ^^^ rotate state.e 25
  let choice := (state.e &&& state.f) ^^^ (~~~state.e &&& state.g)
  let first := state.h + highMix + choice + constant + word
  let lowMix := rotate state.a 2 ^^^ rotate state.a 13 ^^^ rotate state.a 22
  let majority := (state.a &&& state.b) ^^^ (state.a &&& state.c) ^^^ (state.b &&& state.c)
  ⟨first + (lowMix + majority), state.a, state.b, state.c, state.d + first, state.e, state.f,
    state.g⟩

/-- Mix one block into the state. -/
def compress (state : State) (block : List UInt32) : State :=
  let mixed := (roundConstants.zip (expand 48 block)).foldl
    (fun state (constant, word) => round state constant word) state
  ⟨state.a + mixed.a, state.b + mixed.b, state.c + mixed.c, state.d + mixed.d, state.e + mixed.e,
    state.f + mixed.f, state.g + mixed.g, state.h + mixed.h⟩

/-- The message, a one bit, zero bits up to the last eight bytes of a block, and its length in bits. -/
def pad (message : Bytes) : Bytes :=
  let zeros := (119 - message.length % 64) % 64
  let bits := message.length * 8
  message ++ 0x80 :: List.replicate zeros 0 ++
    (List.range 8).map fun place => UInt8.ofNat (bits / Nat.pow 256 (7 - place))

/-- A list cut into parts of a length. -/
def parts (size count : Nat) (items : List α) : List (List α) :=
  (List.range count).map fun place => (items.drop (place * size)).take size

/-- The digest of a message. -/
def digest (message : Bytes) : Bytes :=
  let padded := pad message
  let blocks := (parts 64 (padded.length / 64) padded).map fun block =>
    (parts 4 16 block).map wordOfBytes
  (blocks.foldl compress State.start).words.flatMap bytesOfWord

/-- A byte as two lowercase hexadecimal digits. -/
def hexByte (byte : UInt8) : List Char :=
  let digit (value : Nat) : Char := Char.ofNat (if value < 10 then 48 + value else 87 + value)
  [digit (byte.toNat / 16), digit (byte.toNat % 16)]

/-- The digest of a message in hexadecimal digits. -/
def hexDigest (message : Bytes) : List Char :=
  (digest message).flatMap hexByte

end ShootMachines.Sha256
