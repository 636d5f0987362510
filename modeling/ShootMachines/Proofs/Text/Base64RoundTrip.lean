import ShootMachines.Text.Base64

/-!
# Reading base64 back

Every byte sequence is read back from its base64 text (`Base64.decode?_encode`). Three bytes are four
characters of six bits each; only the end of a text has fewer, and there the padding says how many.
-/

namespace ShootMachines.Base64

/-- A character of the alphabet has the value that it was made of, and does not pad. -/
theorem character_of_lt {value : Nat} (h : value < 64) :
    value? (character value) = some value ∧ character value ≠ '=' := by
  have hall : ∀ value ∈ List.range 64,
      value? (character value) = some value ∧ character value ≠ '=' := by
    decide
  exact hall value (List.mem_range.2 h)

variable {a b c d : Nat}

/-- Two characters and the padding are one byte. -/
theorem decode_chars_one (ha : a < 64) (hb : b < 64) (hrest : b % 16 = 0) :
    decodeChars [character a, character b, '=', '='] = some [UInt8.ofNat (a * 4 + b / 16)] := by
  rw [decodeChars, (character_of_lt ha).1, (character_of_lt hb).1]
  exact if_pos hrest

/-- Three characters and the padding are two bytes. -/
theorem decode_chars_two (ha : a < 64) (hb : b < 64) (hc : c < 64) (hrest : c % 4 = 0) :
    decodeChars [character a, character b, character c, '='] =
      some [UInt8.ofNat (a * 4 + b / 16), UInt8.ofNat (b % 16 * 16 + c / 4)] := by
  rw [decodeChars, (character_of_lt ha).1, (character_of_lt hb).1, (character_of_lt hc).1]
  · exact if_pos hrest
  · exact (character_of_lt hc).2

/-- Four characters are three bytes, whatever follows. -/
theorem decode_chars_three (ha : a < 64) (hb : b < 64) (hc : c < 64) (hd : d < 64)
    (rest : List Char) :
    decodeChars (character a :: character b :: character c :: character d :: rest) =
      (decodeChars rest).map fun others =>
        UInt8.ofNat (a * 4 + b / 16) :: UInt8.ofNat (b % 16 * 16 + c / 4) ::
          UInt8.ofNat (c % 4 * 64 + d) :: others := by
  have hpad := (character_of_lt hd).2
  rw [decodeChars, (character_of_lt ha).1, (character_of_lt hb).1, (character_of_lt hc).1,
    (character_of_lt hd).1]
  · cases decodeChars rest <;> rfl
  · exact fun _ h _ => hpad h
  · exact fun h _ => hpad h

/-- A byte is made of its number. -/
theorem of_nat_eq (byte : UInt8) {value : Nat} (h : value = byte.toNat) :
    UInt8.ofNat value = byte := by
  rw [h, UInt8.ofNat_toNat]

/-- The characters of a byte sequence are read as the bytes. -/
theorem decode_chars_encode_chars (bytes : Bytes) :
    decodeChars (encodeChars bytes) = some bytes := by
  induction bytes using encodeChars.induct with
  | case1 => rfl
  | case2 first =>
      have hfirst := first.toNat_lt
      rw [encodeChars, decode_chars_one (by omega) (by omega) (by omega),
        of_nat_eq first (by omega)]
  | case3 first second =>
      have hfirst := first.toNat_lt
      have hsecond := second.toNat_lt
      rw [encodeChars, decode_chars_two (by omega) (by omega) (by omega) (by omega),
        of_nat_eq first (by omega), of_nat_eq second (by omega)]
  | case4 first second third rest ih =>
      have hfirst := first.toNat_lt
      have hsecond := second.toNat_lt
      have hthird := third.toNat_lt
      rw [encodeChars, decode_chars_three (by omega) (by omega) (by omega) (by omega), ih,
        of_nat_eq first (by omega), of_nat_eq second (by omega),
        of_nat_eq third (by omega)]
      rfl

/-- Every byte sequence is read back from its base64 text. -/
theorem decode?_encode (bytes : Bytes) : decode? (encode bytes) = some bytes := by
  rw [decode?, encode, String.toList_ofList, decode_chars_encode_chars]

end ShootMachines.Base64
