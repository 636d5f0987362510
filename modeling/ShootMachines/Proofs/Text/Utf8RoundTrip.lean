import ShootMachines.Text.Utf8

/-!
# Reading UTF-8 back

The bytes of a text are well-formed, and reading them gives the text back (`Utf8.decode?_encode`). The
heart of it is one step: the bytes of a character are read as that character, whatever follows them
(`Utf8.step_char`).
-/

namespace ShootMachines.Utf8

variable {byte value : Nat}

/-- A number below 256 is the number of its byte. -/
theorem to_nat_of_nat (h : byte < 256) : (UInt8.ofNat byte).toNat = byte :=
  UInt8.toNat_ofNat_of_lt' h

/-- A further byte within its range adds six bits. -/
theorem follow_of_nat {count : Nat} {low high : UInt8} (hlow : low.toNat ≤ byte)
    (hhigh : byte ≤ high.toNat) (rest : Bytes) :
    follow (count + 1) low high value (UInt8.ofNat byte :: rest) =
      follow count 0x80 0xBF (value * 64 + byte % 64) rest := by
  have hbyte := to_nat_of_nat (Nat.lt_of_le_of_lt hhigh high.toNat_lt)
  have hrange : low ≤ UInt8.ofNat byte ∧ UInt8.ofNat byte ≤ high := by
    rw [UInt8.le_iff_toNat_le, UInt8.le_iff_toNat_le, hbyte]
    exact ⟨hlow, hhigh⟩
  rw [follow, if_pos hrange, hbyte]

/-- What follows a byte that starts a character, by the number of the byte. -/
theorem lead?_of_nat (h : byte < 256) :
    lead? (UInt8.ofNat byte) =
      if 0xC2 ≤ byte ∧ byte ≤ 0xDF then some (1, 0x80, 0xBF)
      else if byte = 0xE0 then some (2, 0xA0, 0xBF)
      else if byte = 0xED then some (2, 0x80, 0x9F)
      else if 0xE1 ≤ byte ∧ byte ≤ 0xEF then some (2, 0x80, 0xBF)
      else if byte = 0xF0 then some (3, 0x90, 0xBF)
      else if 0xF1 ≤ byte ∧ byte ≤ 0xF3 then some (3, 0x80, 0xBF)
      else if byte = 0xF4 then some (3, 0x80, 0x8F)
      else none := by
  unfold lead?
  simp only [UInt8.le_iff_toNat_le, ← UInt8.toNat_inj, to_nat_of_nat h]
  rfl

/-- A byte that starts a longer character is read with the bytes that follow it. -/
theorem step_of_nat {count : Nat} {low high : UInt8} (hlow : 128 ≤ byte) (hhigh : byte < 256)
    (hlead : lead? (UInt8.ofNat byte) = some (count, low, high)) (rest : Bytes) :
    step (UInt8.ofNat byte) rest =
      ((follow count low high (byte % (1 <<< (6 - count))) rest).1.map Char.ofNat,
        (follow count low high (byte % (1 <<< (6 - count))) rest).2) := by
  have hlong : ¬ UInt8.ofNat byte < 0x80 := by
    rw [UInt8.lt_iff_toNat_lt, to_nat_of_nat hhigh]
    exact Nat.not_lt.2 hlow
  unfold step
  rw [if_neg hlong, hlead]
  simp only [to_nat_of_nat hhigh]

/-- The second of three bytes is in the range that the first one sets. -/
theorem lead?_of_three (hlow : 0x7FF < value) (hhigh : value ≤ 0xFFFF)
    (hvalid : value < 0xD800 ∨ 0xDFFF < value) :
    ∃ low high, lead? (UInt8.ofNat (value / 4096 % 16 + 224)) = some (2, low, high) ∧
      low.toNat ≤ value / 64 % 64 + 128 ∧ value / 64 % 64 + 128 ≤ high.toNat := by
  rw [lead?_of_nat (by omega), if_neg (by omega)]
  split
  · exact ⟨_, _, rfl, (by omega : 0xA0 ≤ _), (by omega : _ ≤ 0xBF)⟩
  · split
    · exact ⟨_, _, rfl, (by omega : 0x80 ≤ _), (by omega : _ ≤ 0x9F)⟩
    · rw [if_pos (by omega)]
      exact ⟨_, _, rfl, (by omega : 0x80 ≤ _), (by omega : _ ≤ 0xBF)⟩

/-- The second of four bytes is in the range that the first one sets. -/
theorem lead?_of_four (hlow : 0xFFFF < value) (hhigh : value < 0x110000) :
    ∃ low high, lead? (UInt8.ofNat (value / 262144 % 8 + 240)) = some (3, low, high) ∧
      low.toNat ≤ value / 4096 % 64 + 128 ∧ value / 4096 % 64 + 128 ≤ high.toNat := by
  rw [lead?_of_nat (by omega), if_neg (by omega), if_neg (by omega), if_neg (by omega),
    if_neg (by omega)]
  split
  · exact ⟨_, _, rfl, (by omega : 0x90 ≤ _), (by omega : _ ≤ 0xBF)⟩
  · split
    · exact ⟨_, _, rfl, (by omega : 0x80 ≤ _), (by omega : _ ≤ 0xBF)⟩
    · rw [if_pos (by omega)]
      exact ⟨_, _, rfl, (by omega : 0x80 ≤ _), (by omega : _ ≤ 0x8F)⟩

/-- A byte after the second one of a character is always of one range. -/
theorem follow_later (count : Nat) (later : Nat) (rest : Bytes) :
    follow (count + 1) 0x80 0xBF value (UInt8.ofNat (later % 64 + 128) :: rest) =
      follow count 0x80 0xBF (value * 64 + later % 64) rest := by
  have hadd : (later % 64 + 128) % 64 = later % 64 := by omega
  rw [follow_of_nat (by change 128 ≤ _; omega) (by change _ ≤ 191; omega), hadd]

/-- The bytes of a character are read as the character, and what follows them is left. -/
theorem step_char (character : Char) (rest : Bytes) :
    ∃ first others, String.utf8EncodeChar character = first :: others ∧
      step first (others ++ rest) = (some character, rest) := by
  have hvalue : Char.ofNat character.val.toNat = character := Char.ofNat_toNat character
  have hvalid : character.val.toNat < 0xD800 ∨
      0xDFFF < character.val.toNat ∧ character.val.toNat < 0x110000 := character.valid
  unfold String.utf8EncodeChar
  generalize character.val.toNat = value at hvalue hvalid
  dsimp only
  split
  · rename_i hone
    have hsmall : value < 256 := Nat.lt_of_le_of_lt hone (by decide)
    have hshort : UInt8.ofNat value < 0x80 := by
      rw [UInt8.lt_iff_toNat_lt, to_nat_of_nat hsmall]
      exact Nat.lt_succ_of_le hone
    refine ⟨_, [], rfl, ?_⟩
    rw [step, if_pos hshort, to_nat_of_nat hsmall, hvalue, List.nil_append]
  · split
    · have hlead : lead? (UInt8.ofNat (value / 64 % 32 + 192)) = some (1, 0x80, 0xBF) := by
        rw [lead?_of_nat (by omega), if_pos (by omega)]
      have hbits : (value / 64 % 32 + 192) % 32 * 64 + value % 64 = value := by omega
      refine ⟨_, [_], rfl, ?_⟩
      rw [List.cons_append, step_of_nat (by omega) (by omega) hlead, follow_later]
      show (some (Char.ofNat ((value / 64 % 32 + 192) % 32 * 64 + value % 64)), rest) = _
      rw [hbits, hvalue]
    · split
      · obtain ⟨low, high, hlead, hlow, hhigh⟩ :=
          lead?_of_three (by omega : 0x7FF < value) (by omega) (by omega)
        have hbits : ((value / 4096 % 16 + 224) % 16 * 64 + (value / 64 % 64 + 128) % 64) * 64 +
            value % 64 = value := by omega
        refine ⟨_, [_, _], rfl, ?_⟩
        rw [List.cons_append, List.cons_append, step_of_nat (by omega) (by omega) hlead,
          follow_of_nat hlow hhigh, follow_later]
        show (some (Char.ofNat (((value / 4096 % 16 + 224) % 16 * 64 +
          (value / 64 % 64 + 128) % 64) * 64 + value % 64)), rest) = _
        rw [hbits, hvalue]
      · obtain ⟨low, high, hlead, hlow, hhigh⟩ :=
          lead?_of_four (by omega : 0xFFFF < value) (by omega)
        have hbits : (((value / 262144 % 8 + 240) % 8 * 64 + (value / 4096 % 64 + 128) % 64) * 64 +
            value / 64 % 64) * 64 + value % 64 = value := by omega
        refine ⟨_, [_, _, _], rfl, ?_⟩
        rw [List.cons_append, List.cons_append, List.cons_append,
          step_of_nat (by omega) (by omega) hlead, follow_of_nat hlow hhigh, follow_later,
          follow_later]
        show (some (Char.ofNat ((((value / 262144 % 8 + 240) % 8 * 64 +
          (value / 4096 % 64 + 128) % 64) * 64 + value / 64 % 64) * 64 + value % 64)), rest) = _
        rw [hbits, hvalue]

/-- The bytes of characters, one after the other, are read as the characters. -/
theorem characters_encode (text : List Char) :
    characters (text.flatMap String.utf8EncodeChar) = text.map some := by
  induction text with
  | nil => rw [List.flatMap_nil, characters, List.map_nil]
  | cons character text ih =>
      obtain ⟨first, others, hencode, hstep⟩ :=
        step_char character (text.flatMap String.utf8EncodeChar)
      rw [List.flatMap_cons, hencode, List.cons_append, characters, hstep, ih, List.map_cons]

/-- The bytes of a text are decoded as the text. -/
theorem decode?_encode (text : String) : decode? (encode text) = some text := by
  have hall (characters : List Char) : (characters.map some).mapM id = some characters := by
    induction characters with
    | nil => rfl
    | cons character characters ih => rw [List.map_cons, List.mapM_cons, ih]; rfl
  unfold decode? encode
  rw [characters_encode, hall, Option.map_some, String.ofList_toList]

end ShootMachines.Utf8
