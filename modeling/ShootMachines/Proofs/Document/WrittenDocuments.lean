import ShootMachines.Document.Json.Reader
import ShootMachines.Proofs.Document.CanonicalText

/-!
# Reading canonical texts

A canonical text is read back as the document that was written (`Json.read_write`), if its numbers are whole
and fit 64 bits, its keys are ascending, and it is no deeper than the reader allows. A number ends where
nothing follows that would go on with it (`read_number_write`). The reader is given more steps than the text
has characters, which is enough for every item and every field (`read_items_write`, `read_fields_write`).
-/

namespace ShootMachines

namespace Payload

mutual

/-- Whether the numbers of a document are whole and fit 64 bits, with a sign or without, its objects have
ascending keys, and no more containers are within one another than a depth. -/
def isPlain : Payload → Nat → Bool
  | .null, _ | .flag _, _ | .text _, _ => true
  | .number (.whole value), _ => -0x8000000000000000 ≤ value && value < 0x10000000000000000
  | .list items, depth + 1 => arePlain items depth
  | .object fields, depth + 1 => decide (Ascending fields) && arePlainFields fields depth
  | .number (.binary _), _ | .list _, 0 | .object _, 0 => false

/-- Whether all items are plain. -/
def arePlain : List Payload → Nat → Bool
  | [], _ => true
  | item :: rest, depth => item.isPlain depth && arePlain rest depth

/-- Whether the values of all fields are plain. -/
def arePlainFields : List (String × Payload) → Nat → Bool
  | [], _ => true
  | (_, value) :: rest, depth => value.isPlain depth && arePlainFields rest depth

end

end Payload

namespace Json

variable {limit depth : Nat} {rest : List Char}

/-! ## Numbers -/

/-- The digits of a number other than zero do not start with a zero. -/
theorem head_to_digits_ne_zero {number : Nat} (h : number ≠ 0) :
    (Nat.toDigits 10 number).head? ≠ some '0' := by
  induction number using Nat.strongRecOn with
  | ind number ih =>
      by_cases hsmall : number < 10
      · have hdigits : ∀ digit < 10, digit ≠ 0 → [digit.digitChar].head? ≠ some '0' := by decide
        rw [Nat.toDigits_of_lt_base hsmall]
        exact hdigits number hsmall h
      · rw [Nat.toDigits_of_base_le (by decide) (by omega),
          List.head?_append_of_ne_nil _ Nat.toDigits_ne_nil]
        exact ih (number / 10) (by omega) (by omega)

/-- A number is written without leading zeros. -/
theorem repr_leads_without_zero (number : Nat) :
    ¬(number.repr.toList.head? = some '0' ∧ 1 < number.repr.toList.length) := by
  rintro ⟨hhead, hlength⟩
  rw [Nat.toList_repr] at hhead hlength
  obtain rfl : number = 0 := by_contra fun hne => head_to_digits_ne_zero hne hhead
  simp at hlength

/-- A number is written as a run of digits. -/
theorem digit_run_repr (number : Nat) : DigitRun number.repr.toList := by
  refine ⟨?_, all_is_digit_repr number⟩
  rw [Nat.toList_repr]
  exact Nat.toDigits_ne_nil

/-- The digits that a number is written in stand for it. -/
theorem digits_value_repr (number : Nat) : digitsValue number.repr.toList = number := by
  have h := Nat.ofDigitChars_ten_toDigits (n := number)
  rw [Nat.ofDigitChars_eq_foldl] at h
  rw [Nat.toList_repr]
  simpa [digitsValue, Nat.mul_comm] using h

/-- Whether a character goes on with a whole number: it is a digit, a point, or starts an exponent. -/
def goesOn (character : Char) : Bool :=
  character.isDigit || character = '.' || character = 'e' || character = 'E'

/-- Such a character does not follow a number that is read as a whole one. -/
theorem ne_cons_of_goes_on (hrest : StartsOutside goesOn rest) (character : Char)
    (h : goesOn character = true) (tail : List Char) : rest ≠ character :: tail := by
  rintro rfl
  rw [hrest character rfl] at h
  cases h

/-- A whole number of 64 bits is read from its sign and its digits. -/
theorem read_number_digits {number : Nat} (hrest : StartsOutside goesOn rest) (negative : Bool)
    (hfits : if negative then number ≠ 0 ∧ number ≤ 0x8000000000000000
      else number < 0x10000000000000000) :
    readNumber ((if negative then ['-'] else []) ++ (number.repr.toList ++ rest)) =
      .ok (.whole (if negative then -number else number), rest) := by
  have hrun := digit_run_repr number
  have hdigit : StartsOutside Char.isDigit rest := fun character hcharacter => by
    have hother := hrest character hcharacter
    simp only [goesOn, Bool.or_eq_false_iff] at hother
    exact hother.1.1.1
  have htake := take_while_run hrun.2 hdigit
  have hdrop := drop_while_run hrun.2 hdigit
  have hsome : number.repr.toList.isEmpty = false := List.isEmpty_eq_false_iff.2 hrun.1
  have hunsigned (tail : List Char) : number.repr.toList ++ rest ≠ '-' :: tail := fun hsame => by
    have hsign := hrun.starts_outside is_sign_of_is_digit rest
    cases (hsame ▸ hsign) '-' rfl
  unfold readNumber
  split
  rename_i sign text hparts
  obtain ⟨rfl, rfl⟩ : negative = sign ∧ number.repr.toList ++ rest = text := by
    cases negative with
    | true => simpa using hparts
    | false =>
        rw [if_neg Bool.false_ne_true, List.nil_append] at hparts
        split at hparts
        · rename_i hminus
          exact absurd hminus (hunsigned _)
        · exact Prod.mk.inj hparts
  simp only [htake, hdrop, hsome, repr_leads_without_zero, digits_value_repr, Bool.false_eq_true,
    or_self, if_false]
  -- Neither a fraction nor an exponent follows.
  split
  · exact absurd rfl (ne_cons_of_goes_on hrest '.' rfl _)
  · simp only [ok_bind]
    split
    · exact absurd rfl (ne_cons_of_goes_on hrest 'e' rfl _)
    · exact absurd rfl (ne_cons_of_goes_on hrest 'E' rfl _)
    · exact if_pos ⟨rfl, rfl, hfits⟩

/-- A whole number of 64 bits, with a sign or without, is read back from its digits. -/
theorem read_number_write {value : Int} (hrest : StartsOutside goesOn rest)
    (hlow : -0x8000000000000000 ≤ value) (hhigh : value < 0x10000000000000000) :
    readNumber (writeNumber (.whole value) ++ rest) = .ok (.whole value, rest) := by
  cases value with
  | ofNat number =>
      change (number : Int) < _ at hhigh
      have hread := read_number_digits hrest false (show number < 0x10000000000000000 by omega)
      exact hread
  | negSucc number =>
      have hfits : number + 1 ≠ 0 ∧ number + 1 ≤ 0x8000000000000000 := by omega
      have hwrite : writeNumber (.whole (.negSucc number)) = ['-'] ++ (number + 1).repr.toList :=
        String.toList_append
      rw [hwrite, List.append_assoc]
      exact read_number_digits hrest true hfits

/-- A whole number is written with a digit or a minus first. -/
theorem write_number_start (value : Int) :
    ∃ first tail, writeNumber (.whole value) = first :: tail ∧ (first = '-' ∨ first.isDigit = true) := by
  cases value with
  | ofNat number =>
      obtain ⟨hne, hall⟩ := digit_run_repr number
      obtain ⟨first, tail, hdigits⟩ := List.exists_cons_of_ne_nil hne
      rw [hdigits, List.all_cons, Bool.and_eq_true] at hall
      exact ⟨first, tail, hdigits, .inr hall.1⟩
  | negSucc number => exact ⟨'-', _, String.toList_append, .inl rfl⟩

/-- A digit or a minus starts a number. -/
theorem read_value_number {first : Char} {tail : List Char}
    (h : first = '-' ∨ first.isDigit = true) :
    readValue (limit + 1) depth (first :: tail) = (do
      let (value, rest) ← readNumber (first :: tail)
      .ok (.number value, rest)) := by
  have hne (character : Char) (hother : character ≠ '-' ∧ character.isDigit = false) :
      first ≠ character := by
    rintro rfl
    rw [hother.2] at h
    exact h.elim hother.1 Bool.false_ne_true
  have hspace : isSpace first = false := by
    unfold isSpace
    simp only [Bool.or_eq_false_iff, decide_eq_false_iff_not]
    exact ⟨⟨⟨hne _ (by decide), hne _ (by decide)⟩, hne _ (by decide)⟩, hne _ (by decide)⟩
  rw [readValue, skipSpace, List.dropWhile_cons_of_neg (by simp [hspace])]
  split
  · rename_i heq
    cases heq
  case h_8 =>
    rename_i heq
    obtain ⟨rfl, rfl⟩ := List.cons.inj heq
    exact if_pos h
  all_goals
    rename_i heq
    exact absurd (List.cons.inj heq).1 (hne _ (by decide))

/-! ## Texts -/

/-- No space is skipped before a canonical text. -/
theorem skip_space_write (payload : Payload) (rest : List Char) :
    skipSpace (writeChars payload ++ rest) = writeChars payload ++ rest := by
  obtain ⟨first, tail, hwrite, hform⟩ := write_chars_start payload
  have hspace : isSpace first = false := by
    by_contra h
    simp only [isSpace, Bool.or_eq_true, decide_eq_true_eq, Bool.not_eq_false] at h
    rcases h with ((rfl | rfl) | rfl) | rfl <;> cases hform
  rw [hwrite, List.cons_append, skipSpace, List.dropWhile_cons_of_neg (by simp [hspace])]

/-- A written text is not shorter than the text. -/
theorem length_le_escaped (value : List Char) : value.length ≤ (value.flatMap escape).length := by
  induction value with
  | nil => exact Nat.zero_le _
  | cons character value ih =>
      have hone : 1 ≤ (escape character).length := by
        unfold escape
        split_ifs <;> simp
      rw [List.flatMap_cons, List.length_append, List.length_cons]
      omega

/-- A written text is read from after its quotation mark. -/
theorem read_text_of_write (value : String) (rest : List Char) :
    readText (value.toList.flatMap escape ++ '"' :: rest).length.succ
      (value.toList.flatMap escape ++ '"' :: rest) [] = .ok (value, rest) := by
  have hlength := length_le_escaped value.toList
  rw [read_text_write (by rw [List.length_append]; omega)]
  simp

/-- No space is skipped before the items of a list, and no closing bracket stands there. -/
theorem skip_space_items (item : Payload) (items : List Payload) (rest : List Char) :
    skipSpace (writeItems (item :: items) ++ ']' :: rest) = writeItems (item :: items) ++ ']' :: rest ∧
      ∀ last, writeItems (item :: items) ++ ']' :: rest ≠ ']' :: last := by
  rw [write_items_cons]
  exact ⟨skip_space_write item _, fun last => write_chars_ne_cons rfl⟩

/-- The fields of an object start with the quotation mark of a key. -/
theorem write_fields_start (key : String) (value : Payload) (fields : List (String × Payload))
    (rest : List Char) :
    writeFields ((key, value) :: fields) ++ '\x7d' :: rest =
      '"' :: (key.toList.flatMap escape ++ '"' :: ':' :: (writeChars value ++ fieldsEnd rest fields)) := by
  rw [write_fields_cons]
  simp [writeText]

@[simp]
theorem skip_space_quote (text : List Char) : skipSpace ('"' :: text) = '"' :: text := rfl

@[simp]
theorem skip_space_colon (text : List Char) : skipSpace (':' :: text) = ':' :: text := rfl

section Field

variable {key : String} {value : Payload} (read : Dict Payload)

/-- The last field of an object is put into the map, which is complete then. -/
theorem read_last_field
    (hvalue : readValue limit depth (writeChars value ++ '\x7d' :: rest) = .ok (value, '\x7d' :: rest)) :
    readFields (limit + 1) depth
        ('"' :: (key.toList.flatMap escape ++ '"' :: ':' :: (writeChars value ++ '\x7d' :: rest))) read =
      .ok (read.insert key value, rest) := by
  rw [readFields]
  simp only [skip_space_quote, read_text_of_write, ok_bind, skip_space_colon, hvalue]
  rfl

/-- A field that is not the last one is put into the map before the others are read. -/
theorem read_inner_field
    (hvalue : readValue limit depth (writeChars value ++ ',' :: rest) = .ok (value, ',' :: rest)) :
    readFields (limit + 1) depth
        ('"' :: (key.toList.flatMap escape ++ '"' :: ':' :: (writeChars value ++ ',' :: rest))) read =
      readFields limit depth rest (read.insert key value) := by
  rw [readFields]
  simp only [skip_space_quote, read_text_of_write, ok_bind, skip_space_colon, hvalue]
  rfl

end Field

mutual

/-- A plain document is read back from its canonical text, if nothing follows that goes on with a number. -/
theorem read_value_write : ∀ (payload : Payload) {rest : List Char} {limit depth : Nat},
    StartsOutside goesOn rest → payload.isPlain depth = true → (writeChars payload).length ≤ limit →
    readValue limit depth (writeChars payload ++ rest) = .ok (payload, rest)
  | payload, _, 0, _, _, _, hlimit => by
      obtain ⟨first, tail, hwrite, _⟩ := write_chars_start payload
      simp [hwrite] at hlimit
  | .null, rest, limit + 1, depth, _, _, _ => by
      rw [readValue, skip_space_write]
      rfl
  | .flag value, rest, limit + 1, depth, _, _, _ => by
      rw [readValue, skip_space_write]
      cases value <;> rfl
  | .number (.whole value), rest, limit + 1, depth, hrest, hplain, _ => by
      obtain ⟨hlow, hhigh⟩ := Bool.and_eq_true_iff.1 hplain
      have hread := read_number_write hrest (of_decide_eq_true hlow) (of_decide_eq_true hhigh)
      obtain ⟨first, tail, hwrite, hfirst⟩ := write_number_start value
      rw [writeChars]
      rw [hwrite, List.cons_append] at hread ⊢
      rw [read_value_number hfirst, hread]
      rfl
  | .text value, rest, limit + 1, depth, _, _, _ => by
      rw [readValue, skip_space_write]
      have hread := read_text_of_write value rest
      simp only [writeChars, writeText, List.cons_append, List.append_assoc, List.nil_append] at hread ⊢
      rw [hread]
      rfl
  | .list [], rest, limit + 1, depth + 1, _, _, _ => by
      rw [readValue, skip_space_write]
      rfl
  | .list (item :: items), rest, limit + 1, depth + 1, _, hplain, hlimit => by
      simp only [writeChars, List.length_append, List.length_cons, List.length_nil] at hlimit
      have hread := read_items_write item items rest hplain (show _ < limit by omega) []
      obtain ⟨hskip, hopen⟩ := skip_space_items item items rest
      rw [readValue, skip_space_write]
      simp only [writeChars, List.cons_append, List.append_assoc, List.nil_append]
      rw [if_neg (Nat.succ_ne_zero depth), hskip]
      split
      · rename_i hclose
        exact absurd hclose (hopen _)
      · rw [Nat.add_sub_cancel, hread]
        rfl
  | .object [], rest, limit + 1, depth + 1, _, _, _ => by
      rw [readValue, skip_space_write]
      rfl
  | .object ((key, value) :: fields), rest, limit + 1, depth + 1, _, hplain, hlimit => by
      simp only [writeChars, List.length_append, List.length_cons, List.length_nil] at hlimit
      obtain ⟨hascending, hplain⟩ := Bool.and_eq_true_iff.1 hplain
      obtain ⟨dict, hread, hentries⟩ := read_fields_write key value fields rest hplain
        (show _ < limit by omega) .empty (of_decide_eq_true hascending)
      rw [readValue, skip_space_write]
      simp only [writeChars, List.cons_append, List.append_assoc, List.nil_append]
      rw [write_fields_start] at hread ⊢
      rw [if_neg (Nat.succ_ne_zero depth), skip_space_quote]
      split
      · rename_i hclose
        cases hclose
      · rw [Nat.add_sub_cancel, hread, ok_bind, hentries]
        rfl
  | .number (.binary _), _, _, _, _, hplain, _ => by cases hplain
  | .list _, _, _, 0, _, hplain, _ => by cases hplain
  | .object _, _, _, 0, _, hplain, _ => by cases hplain

/-- The items of a list are read back up to its closing bracket. -/
theorem read_items_write : ∀ (item : Payload) (items : List Payload) (rest : List Char)
    {limit depth : Nat},
    Payload.arePlain (item :: items) depth = true → (writeItems (item :: items)).length < limit →
    ∀ read : List Payload, readItems limit depth (writeItems (item :: items) ++ ']' :: rest) read =
      .ok (read.reverse ++ item :: items, rest)
  | _, _, _, 0, _, _, hlimit, _ => absurd hlimit (Nat.not_lt_zero _)
  | item, [], rest, limit + 1, depth, hplain, hlimit, read => by
      obtain ⟨hitem, _⟩ := Bool.and_eq_true_iff.1 hplain
      rw [writeItems] at hlimit ⊢
      rw [readItems, read_value_write item (.cons rfl _) hitem (by omega)]
      simp [skipSpace, isSpace]
  | item, next :: items, rest, limit + 1, depth, hplain, hlimit, read => by
      obtain ⟨hitem, hitems⟩ := Bool.and_eq_true_iff.1 hplain
      rw [writeItems] at hlimit ⊢
      rw [List.length_append, List.length_cons] at hlimit
      have hread := read_items_write next items rest hitems (show _ < limit by omega) (item :: read)
      rw [readItems, List.append_assoc, List.cons_append,
        read_value_write item (.cons rfl _) hitem (by omega)]
      change readItems limit depth (writeItems (next :: items) ++ ']' :: rest) (item :: read) = _
      rw [hread]
      simp

/-- The fields of an object are read back up to its closing brace. -/
theorem read_fields_write : ∀ (key : String) (value : Payload) (fields : List (String × Payload))
    (rest : List Char) {limit depth : Nat},
    Payload.arePlainFields ((key, value) :: fields) depth = true →
    (writeFields ((key, value) :: fields)).length < limit →
    ∀ read : Dict Payload, Ascending (read.entries ++ (key, value) :: fields) →
    ∃ dict : Dict Payload,
      readFields limit depth (writeFields ((key, value) :: fields) ++ '\x7d' :: rest) read =
        .ok (dict, rest) ∧
      dict.entries = read.entries ++ (key, value) :: fields
  | _, _, _, _, 0, _, _, hlimit, _, _ => absurd hlimit (Nat.not_lt_zero _)
  | key, value, [], rest, limit + 1, depth, hplain, hlimit, read, hascending => by
      obtain ⟨hvalue, _⟩ := Bool.and_eq_true_iff.1 hplain
      rw [writeFields, List.length_append, List.length_cons] at hlimit
      have hread := read_value_write value (.cons rfl rest : StartsOutside goesOn ('\x7d' :: rest)) hvalue
        (show _ ≤ limit by omega)
      refine ⟨read.insert key value, ?_, Dict.entries_foldl_insert [(key, value)] read hascending⟩
      rw [write_fields_start, fieldsEnd, read_last_field read hread]
  | key, value, (other, next) :: fields, rest, limit + 1, depth, hplain, hlimit, read, hascending => by
      obtain ⟨hvalue, hfields⟩ := Bool.and_eq_true_iff.1 hplain
      rw [writeFields, List.length_append, List.length_append, List.length_cons, List.length_cons]
        at hlimit
      have hend : StartsOutside goesOn (fieldsEnd rest ((other, next) :: fields)) := .cons rfl _
      have hread := read_value_write value hend hvalue (show _ ≤ limit by omega)
      rw [← List.singleton_append, ← List.append_assoc] at hascending
      have hinserted : (read.insert key value).entries = read.entries ++ [(key, value)] := by
        refine Dict.entries_foldl_insert [(key, value)] read ?_
        rw [Ascending, List.map_append] at hascending
        exact (List.pairwise_append.1 hascending).1
      rw [← hinserted] at hascending
      obtain ⟨dict, hdict, hentries⟩ := read_fields_write other next fields rest hfields
        (show _ < limit by omega) (read.insert key value) hascending
      refine ⟨dict, ?_, by rw [hentries, hinserted, List.append_assoc, List.singleton_append]⟩
      rw [write_fields_start, fieldsEnd, read_inner_field read hread, ← hdict, write_fields_cons]

end

/-- A plain document is read back from its canonical text. -/
theorem read_write {payload : Payload} (h : payload.isPlain 127 = true) :
    read (write payload) = .ok payload := by
  have hread := read_value_write payload .nil h (show _ ≤ 2 * (writeChars payload).length + 2 by omega)
  rw [List.append_nil] at hread
  unfold read write
  rw [String.toList_ofList]
  simp only [hread, ok_bind]
  rfl

end Json

end ShootMachines
