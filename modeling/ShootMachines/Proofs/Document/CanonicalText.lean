import ShootMachines.Document.Json.Reader
import ShootMachines.Document.Json.Writer
import ShootMachines.Proofs.Results
import ShootMachines.Proofs.Text.TextLemmas

/-!
# Canonical texts tell documents apart

Documents are alike if they are equal but for their numbers, which only have to be written alike. Read
`Json.write_chars_eq_iff` first: documents have the same canonical text exactly if they are alike. It
rests on `Json.write_chars_append_inj`, which allows for more text after a document. The canonical text
of a document is one line (`Json.one_line_write`).
-/

namespace ShootMachines

namespace Payload

mutual

/-- Two documents are alike: equal, but that numbers only have to be written alike. -/
inductive Alike : Payload → Payload → Prop where
  | null : Alike .null .null
  | flag (value : Bool) : Alike (.flag value) (.flag value)
  | number {value other : Number} (h : Json.writeNumber value = Json.writeNumber other) :
      Alike (.number value) (.number other)
  | text (value : String) : Alike (.text value) (.text value)
  | list {items others : List Payload} (h : AlikeItems items others) :
      Alike (.list items) (.list others)
  | object {fields others : List (String × Payload)} (h : AlikeFields fields others) :
      Alike (.object fields) (.object others)

/-- Two lists have alike items, in order. -/
inductive AlikeItems : List Payload → List Payload → Prop where
  | nil : AlikeItems [] []
  | cons {item other : Payload} {items others : List Payload} (h : Alike item other)
      (hrest : AlikeItems items others) : AlikeItems (item :: items) (other :: others)

/-- Two objects have alike values under the same keys, in order. -/
inductive AlikeFields : List (String × Payload) → List (String × Payload) → Prop where
  | nil : AlikeFields [] []
  | cons (key : String) {value other : Payload} {fields others : List (String × Payload)}
      (h : Alike value other) (hrest : AlikeFields fields others) :
      AlikeFields ((key, value) :: fields) ((key, other) :: others)

end

/-- The form of a document, as the first character of its canonical text shows it. -/
inductive Form where
  | null
  | flag (value : Bool)
  | number
  | text
  | list
  | object

/-- The form of a document. -/
def form : Payload → Form
  | .null => .null
  | .flag value => .flag value
  | .number _ => .number
  | .text _ => .text
  | .list _ => .list
  | .object _ => .object

end Payload

namespace Json

open Payload (Alike AlikeItems AlikeFields)

/-! ## Numbers -/

/-- Whether a character may be part of a number. -/
def isNumeral (character : Char) : Bool :=
  character.isDigit || character = '-' || character = '+' || character = '.' || character = 'e'

/-- A text of characters that may be part of a number. -/
def Numeral (text : String) : Prop := ∀ character ∈ text.toList, isNumeral character = true

instance (text : String) : Decidable (Numeral text) :=
  decidable_of_iff (text.toList.all isNumeral = true) List.all_eq_true

/-- Two texts of characters of numbers make one. -/
theorem Numeral.append {text rest : String} (h : Numeral text) (hrest : Numeral rest) :
    Numeral (text ++ rest) := by
  intro character hcharacter
  rw [String.toList_append, List.mem_append] at hcharacter
  exact hcharacter.elim (h character) (hrest character)

/-- Decimal digits may be part of a number. -/
theorem numeral_of_digits {digits : List Char} (h : ∀ digit ∈ digits, digit.isDigit = true) :
    Numeral (String.ofList digits) := by
  intro digit hdigit
  rw [String.toList_ofList] at hdigit
  simp [isNumeral, h digit hdigit]

/-- A natural number is written in characters of numbers. -/
theorem numeral_repr (number : Nat) : Numeral number.repr := by
  rw [Nat.repr_eq_ofList_toDigits]
  exact numeral_of_digits fun digit => Nat.isDigit_of_mem_toDigits (by decide) (by decide)

/-- A whole number is written in characters of numbers. -/
theorem numeral_whole (value : Int) : Numeral (toString value) := by
  cases value with
  | ofNat number => exact numeral_repr number
  | negSucc number =>
      have hsign : Numeral "-" := by decide
      exact hsign.append (numeral_repr (number + 1))

/-- A decimal without an exponent is written in characters of numbers. -/
theorem numeral_write_positional (layout : NumberLayout) (decimal : Binary64.Decimal) :
    Numeral (layout.writePositional decimal) := by
  have hdigit {digit : Char} (h : digit ∈ Nat.toDigits 10 decimal.digits) : digit.isDigit = true :=
    Nat.isDigit_of_mem_toDigits (by decide) (by decide) h
  have hzero {digit : Char} {count : Nat} (h : digit ∈ List.replicate count '0') :
      digit.isDigit = true := by
    rw [List.eq_of_mem_replicate h]
    rfl
  have hpoint : Numeral "." := by decide
  unfold NumberLayout.writePositional
  dsimp only
  split
  · refine (numeral_of_digits fun digit h => ?_).append ?_
    · exact (List.mem_append.1 h).elim hdigit hzero
    · split <;> decide
  · have hpadded {digit : Char}
        (h : digit ∈ List.replicate ((-decimal.power).toNat + 1 -
          (Nat.toDigits 10 decimal.digits).length) '0' ++ Nat.toDigits 10 decimal.digits) :
        digit.isDigit = true :=
      (List.mem_append.1 h).elim hzero hdigit
    exact ((numeral_of_digits fun digit h => hpadded (List.mem_of_mem_take h)).append hpoint).append
      (numeral_of_digits fun digit h => hpadded (List.mem_of_mem_drop h))

/-- A decimal with an exponent is written in characters of numbers. -/
theorem numeral_write_exponent (decimal : Binary64.Decimal) (exponent : Int) :
    Numeral (NumberLayout.writeExponent decimal exponent) := by
  have hdigit {digit : Char} (h : digit ∈ Nat.toDigits 10 decimal.digits) : digit.isDigit = true :=
    Nat.isDigit_of_mem_toDigits (by decide) (by decide) h
  have hpoint : Numeral "." := by decide
  have hmark : Numeral "e" := by decide
  unfold NumberLayout.writeExponent
  refine ((Numeral.append (Numeral.append ?_ ?_) hmark).append ?_).append (numeral_repr _)
  · exact numeral_of_digits fun digit h => hdigit (List.mem_of_mem_take h)
  · split
    · decide
    · exact hpoint.append (numeral_of_digits fun digit h => hdigit (List.mem_of_mem_drop h))
  · split <;> decide

/-- A number is written in characters of numbers. -/
theorem all_is_numeral_write_number (number : Number) :
    (writeNumber number).all isNumeral = true := by
  refine List.all_eq_true.2 ?_
  cases number with
  | whole value => exact numeral_whole value
  | binary value =>
      show Numeral (NumberLayout.document.write value)
      unfold NumberLayout.write
      refine Numeral.append ?_ ?_
      · split <;> decide
      · split
        · exact numeral_write_positional _ _
        · exact numeral_write_exponent _ _

/-- A number is not written as the empty text. -/
theorem write_number_ne_nil (number : Number) : writeNumber number ≠ [] := by
  have hrepr (value : Nat) : value.repr.toList ≠ [] := by
    rw [Nat.repr_eq_ofList_toDigits, String.toList_ofList]
    exact Nat.toDigits_ne_nil
  cases number with
  | whole value =>
      cases value with
      | ofNat number => exact hrepr number
      | negSucc number =>
          show ("-" ++ (number + 1).repr).toList ≠ []
          simp
  | binary value =>
      show (NumberLayout.document.write value).toList ≠ []
      unfold NumberLayout.write
      dsimp only
      rw [String.toList_append]
      refine List.append_ne_nil_of_right_ne_nil _ ?_
      split
      · unfold NumberLayout.writePositional
        dsimp only
        split <;> simp [Nat.toDigits_ne_nil]
      · simp [NumberLayout.writeExponent]

/-! ## Texts -/

/-- A hexadecimal digit is read back. -/
theorem hex_value_hex_digit {value : Nat} (h : value < 16) :
    hexValue? (hexDigit value) = some value := by
  have hdigits : ∀ value < 16, hexValue? (hexDigit value) = some value := by decide
  exact hdigits value h

/-- Reading a text takes an escaped character as the character. -/
theorem read_text_escape (limit : Nat) (character : Char) (rest read : List Char) :
    readText (limit + 1) (escape character ++ rest) read =
      readText limit rest (character :: read) := by
  have hcode {code : Nat} (h : character.toNat = code) : Char.ofNat code = character := by
    rw [← h, Char.ofNat_toNat]
  unfold escape
  split
  · rename_i h
    rw [h]
    rfl
  split
  · rename_i h
    rw [h]
    rfl
  split
  · rename_i h
    rw [h]
    rfl
  split
  · rename_i h
    rw [h]
    rfl
  split
  · rename_i h
    rw [h]
    rfl
  split
  · rename_i h
    rw [← hcode h]
    rfl
  split
  · rename_i h
    rw [← hcode h]
    rfl
  split
  · rename_i h
    have hhigh := hex_value_hex_digit (show character.toNat / 16 < 16 by omega)
    have hlow := hex_value_hex_digit (Nat.mod_lt character.toNat (by decide : 16 > 0))
    have hzero : hexValue? '0' = some 0 := rfl
    have hunit : ((0 * 16 + 0) * 16 + character.toNat / 16) * 16 + character.toNat % 16 =
        character.toNat := by omega
    simp only [List.cons_append, List.nil_append, readText, readEscape, readHex4, hzero, hhigh, hlow,
      ok_bind, hunit, Char.ofNat_toNat]
    rw [if_neg (by omega), if_neg (by omega)]
    rfl
  · rename_i hquote hbackslash _ _ _ _ _ hcontrol
    simp only [List.cons_append, List.nil_append]
    rw [readText]
    · exact if_neg hcontrol
    · exact hquote
    · exact hbackslash

/-- Reading a written text gives the text and what follows it. -/
theorem read_text_write {limit : Nat} {value : List Char} (h : value.length < limit)
    (rest read : List Char) :
    readText limit (value.flatMap escape ++ '"' :: rest) read =
      .ok (String.ofList (read.reverse ++ value), rest) := by
  induction value generalizing limit read with
  | nil =>
      obtain ⟨limit, rfl⟩ := Nat.exists_eq_succ_of_ne_zero (Nat.ne_of_gt h)
      simp [readText]
  | cons character value ih =>
      obtain ⟨limit, rfl⟩ := Nat.exists_eq_succ_of_ne_zero (Nat.ne_zero_of_lt h)
      rw [List.flatMap_cons, List.append_assoc, read_text_escape, ih (Nat.lt_of_succ_lt_succ h)]
      simp

/-- Two written texts are told apart from what follows them. -/
theorem write_text_append_inj {value other : String} {rest last : List Char}
    (h : writeText value ++ rest = writeText other ++ last) : value = other ∧ rest = last := by
  have hbody : value.toList.flatMap escape ++ '"' :: rest =
      other.toList.flatMap escape ++ '"' :: last := by
    simpa [writeText] using h
  have hvalue := read_text_write
    (show value.toList.length < value.toList.length + other.toList.length + 1 by omega) rest []
  have hother := read_text_write
    (show other.toList.length < value.toList.length + other.toList.length + 1 by omega) last []
  rw [hbody, hother] at hvalue
  have hsame := Except.ok.inj hvalue
  simp only [List.reverse_nil, List.nil_append, String.ofList_toList, Prod.mk.injEq] at hsame
  exact ⟨hsame.1.symm, hsame.2.symm⟩

/-! ## Values -/

/-- The form of the documents whose canonical texts start with a character. -/
def formOfStart? (character : Char) : Option Payload.Form :=
  if character = 'n' then some .null
  else if character = 't' then some (.flag true)
  else if character = 'f' then some (.flag false)
  else if character = '"' then some .text
  else if character = '[' then some .list
  else if character = '\x7b' then some .object
  else if isNumeral character then some .number
  else none

/-- A canonical text starts with a character that shows the form of the document. -/
theorem write_chars_start (payload : Payload) :
    ∃ first rest, writeChars payload = first :: rest ∧ formOfStart? first = some payload.form := by
  cases payload with
  | null => exact ⟨_, _, rfl, rfl⟩
  | flag value => cases value <;> exact ⟨_, _, rfl, rfl⟩
  | number value =>
      obtain ⟨first, rest, hwrite⟩ := List.exists_cons_of_ne_nil (write_number_ne_nil value)
      have hall := all_is_numeral_write_number value
      rw [hwrite, List.all_cons, Bool.and_eq_true] at hall
      have hother {character : Char} (h : isNumeral character = false) : first ≠ character := by
        rintro rfl
        rw [hall.1] at h
        cases h
      refine ⟨first, rest, hwrite, ?_⟩
      unfold formOfStart?
      rw [if_neg (hother (by decide)), if_neg (hother (by decide)), if_neg (hother (by decide)),
        if_neg (hother (by decide)), if_neg (hother (by decide)), if_neg (hother (by decide)),
        if_pos hall.1]
      rfl
  | text value => exact ⟨_, _, rfl, rfl⟩
  | list items => exact ⟨_, _, rfl, rfl⟩
  | object fields => exact ⟨_, _, rfl, rfl⟩

/-- Documents have one form if texts that start with their canonical texts are equal. -/
theorem form_eq_of_write_chars {payload other : Payload} {rest last : List Char}
    (h : writeChars payload ++ rest = writeChars other ++ last) : payload.form = other.form := by
  obtain ⟨first, tail, hwrite, hform⟩ := write_chars_start payload
  obtain ⟨start, others, hother, hstart⟩ := write_chars_start other
  rw [hwrite, hother, List.cons_append, List.cons_append, List.cons.injEq] at h
  rw [h.1] at hform
  exact Option.some.inj (hform.symm.trans hstart)

/-- No canonical text starts with a character that shows no form. -/
theorem write_chars_ne_cons {payload : Payload} {rest last : List Char} {character : Char}
    (hcharacter : formOfStart? character = none) :
    writeChars payload ++ rest ≠ character :: last := by
  intro h
  obtain ⟨first, tail, hwrite, hform⟩ := write_chars_start payload
  rw [hwrite, List.cons_append, List.cons.injEq] at h
  rw [h.1, hcharacter] at hform
  cases hform

/-- What is written after an item of a list: the further items, the closing bracket, and what follows
the list. -/
def itemsEnd (rest : List Char) : List Payload → List Char
  | [] => ']' :: rest
  | item :: items => ',' :: (writeChars item ++ itemsEnd rest items)

/-- What is written after a field of an object: the further fields, the closing brace, and what follows
the object. -/
def fieldsEnd (rest : List Char) : List (String × Payload) → List Char
  | [] => '\x7d' :: rest
  | (key, value) :: fields =>
      ',' :: (writeText key ++ ':' :: (writeChars value ++ fieldsEnd rest fields))

/-- A list with items is written as the first item and what comes after it. -/
theorem write_items_cons (item : Payload) (items : List Payload) (rest : List Char) :
    writeItems (item :: items) ++ ']' :: rest = writeChars item ++ itemsEnd rest items := by
  induction items generalizing item with
  | nil => simp [writeItems, itemsEnd]
  | cons next items ih =>
      rw [writeItems, itemsEnd, List.append_assoc, List.cons_append, ih]

/-- An object with fields is written as the first field and what comes after it. -/
theorem write_fields_cons (key : String) (value : Payload) (fields : List (String × Payload))
    (rest : List Char) :
    writeFields ((key, value) :: fields) ++ '\x7d' :: rest =
      writeText key ++ ':' :: (writeChars value ++ fieldsEnd rest fields) := by
  induction fields generalizing key value with
  | nil => simp [writeFields, fieldsEnd]
  | cons next fields ih =>
      obtain ⟨nextKey, nextValue⟩ := next
      simp only [writeFields, fieldsEnd, List.append_assoc, List.cons_append] at ih ⊢
      rw [ih]

/-- What is written after an item is no part of a number. -/
theorem starts_outside_items_end (rest : List Char) (items : List Payload) :
    StartsOutside isNumeral (itemsEnd rest items) := by
  cases items <;> exact .cons (by decide) _

/-- What is written after a field is no part of a number. -/
theorem starts_outside_fields_end (rest : List Char) (fields : List (String × Payload)) :
    StartsOutside isNumeral (fieldsEnd rest fields) := by
  cases fields <;> exact .cons (by decide) _

/-- The items of two lists are written alike, up to the closing brackets and beyond, only if so is what
is written after an item before them. -/
theorem items_end_eq_of_write_items {items others : List Payload} {rest last : List Char}
    (h : writeItems items ++ ']' :: rest = writeItems others ++ ']' :: last) :
    itemsEnd rest items = itemsEnd last others := by
  cases items with
  | nil =>
      cases others with
      | nil => exact h
      | cons other others =>
          rw [write_items_cons] at h
          exact absurd h.symm (write_chars_ne_cons rfl)
  | cons item items =>
      cases others with
      | nil =>
          rw [write_items_cons] at h
          exact absurd h (write_chars_ne_cons rfl)
      | cons other others =>
          rw [write_items_cons, write_items_cons] at h
          exact congrArg (List.cons ',') h

/-- The fields of two objects are written alike, up to the closing braces and beyond, only if so is what
is written after a field before them. -/
theorem fields_end_eq_of_write_fields {fields others : List (String × Payload)}
    {rest last : List Char}
    (h : writeFields fields ++ '\x7d' :: rest = writeFields others ++ '\x7d' :: last) :
    fieldsEnd rest fields = fieldsEnd last others := by
  cases fields with
  | nil =>
      cases others with
      | nil => exact h
      | cons other others =>
          rw [write_fields_cons] at h
          cases h
  | cons field fields =>
      cases others with
      | nil =>
          rw [write_fields_cons] at h
          cases h
      | cons other others =>
          rw [write_fields_cons, write_fields_cons] at h
          exact congrArg (List.cons ',') h

mutual

/-- Canonical texts of two documents are told apart from what follows them, if that does not start
with a character of numbers. -/
theorem write_chars_append_inj {rest last : List Char} (hrest : StartsOutside isNumeral rest)
    (hlast : StartsOutside isNumeral last) :
    ∀ payload other : Payload, writeChars payload ++ rest = writeChars other ++ last →
      Alike payload other ∧ rest = last := by
  intro payload other h
  have hform := form_eq_of_write_chars h
  cases payload with
  | null =>
      cases other with
      | null => exact ⟨.null, List.append_cancel_left h⟩
      | _ => cases hform
  | flag value =>
      cases other with
      | flag same =>
          obtain rfl := Payload.Form.flag.inj hform
          exact ⟨.flag value, List.append_cancel_left h⟩
      | _ => cases hform
  | number value =>
      cases other with
      | number same =>
          obtain ⟨hsame, hrest⟩ := run_append_inj (all_is_numeral_write_number value)
            (all_is_numeral_write_number same) hrest hlast h
          exact ⟨.number hsame, hrest⟩
      | _ => cases hform
  | text value =>
      cases other with
      | text same =>
          obtain ⟨rfl, hrest⟩ := write_text_append_inj h
          exact ⟨.text value, hrest⟩
      | _ => cases hform
  | list items =>
      cases other with
      | list others =>
          simp only [writeChars, List.cons_append, List.append_assoc, List.nil_append,
            List.cons.injEq, true_and] at h
          obtain ⟨hsame, hrest⟩ := items_end_inj items others (items_end_eq_of_write_items h)
          exact ⟨.list hsame, hrest⟩
      | _ => cases hform
  | object fields =>
      cases other with
      | object others =>
          simp only [writeChars, List.cons_append, List.append_assoc, List.nil_append,
            List.cons.injEq, true_and] at h
          obtain ⟨hsame, hrest⟩ := fields_end_inj fields others (fields_end_eq_of_write_fields h)
          exact ⟨.object hsame, hrest⟩
      | _ => cases hform

/-- What is written after an item tells the further items apart from what follows the list. -/
theorem items_end_inj {rest last : List Char} :
    ∀ items others : List Payload, itemsEnd rest items = itemsEnd last others →
      AlikeItems items others ∧ rest = last := by
  intro items others h
  cases items with
  | nil =>
      cases others with
      | nil => exact ⟨.nil, (List.cons.inj h).2⟩
      | cons other others => cases h
  | cons item items =>
      cases others with
      | nil => cases h
      | cons other others =>
          obtain ⟨hsame, hend⟩ := write_chars_append_inj (starts_outside_items_end rest items)
            (starts_outside_items_end last others) item other (List.cons.inj h).2
          obtain ⟨hothers, hrest⟩ := items_end_inj items others hend
          exact ⟨.cons hsame hothers, hrest⟩

/-- What is written after a field tells the further fields apart from what follows the object. -/
theorem fields_end_inj {rest last : List Char} :
    ∀ fields others : List (String × Payload), fieldsEnd rest fields = fieldsEnd last others →
      AlikeFields fields others ∧ rest = last := by
  intro fields others h
  cases fields with
  | nil =>
      cases others with
      | nil => exact ⟨.nil, (List.cons.inj h).2⟩
      | cons other others => cases h
  | cons field fields =>
      cases others with
      | nil => cases h
      | cons other others =>
          obtain ⟨key, value⟩ := field
          obtain ⟨otherKey, otherValue⟩ := other
          obtain ⟨rfl, hvalue⟩ := write_text_append_inj (List.cons.inj h).2
          obtain ⟨hsame, hend⟩ := write_chars_append_inj (starts_outside_fields_end rest fields)
            (starts_outside_fields_end last others) value otherValue (List.cons.inj hvalue).2
          obtain ⟨hothers, hrest⟩ := fields_end_inj fields others hend
          exact ⟨.cons key hsame hothers, hrest⟩

end

mutual

/-- Alike documents have the same canonical text. -/
theorem write_chars_eq_of_alike :
    ∀ {payload other : Payload}, Alike payload other → writeChars payload = writeChars other
  | _, _, .null => rfl
  | _, _, .flag _ => rfl
  | _, _, .number h => h
  | _, _, .text _ => rfl
  | _, _, .list h => by
      rw [writeChars, writeChars, write_items_eq_of_alike h]
  | _, _, .object h => by
      rw [writeChars, writeChars, write_fields_eq_of_alike h]

/-- Lists of alike items are written alike. -/
theorem write_items_eq_of_alike :
    ∀ {items others : List Payload}, AlikeItems items others → writeItems items = writeItems others
  | _, _, .nil => rfl
  | _, _, .cons h .nil => write_chars_eq_of_alike h
  | _, _, .cons h (.cons hnext hrest) => by
      rw [writeItems, writeItems, write_chars_eq_of_alike h,
        write_items_eq_of_alike (.cons hnext hrest)]

/-- Objects of alike fields are written alike. -/
theorem write_fields_eq_of_alike :
    ∀ {fields others : List (String × Payload)}, AlikeFields fields others →
      writeFields fields = writeFields others
  | _, _, .nil => rfl
  | _, _, .cons key h .nil => by
      rw [writeFields, writeFields, write_chars_eq_of_alike h]
  | _, _, .cons key h (.cons next hnext hrest) => by
      rw [writeFields, writeFields, write_chars_eq_of_alike h,
        write_fields_eq_of_alike (.cons next hnext hrest)]

end

/-- Documents have the same canonical text exactly if they are alike. -/
theorem write_chars_eq_iff {payload other : Payload} :
    writeChars payload = writeChars other ↔ Alike payload other := by
  refine ⟨fun h => ?_, write_chars_eq_of_alike⟩
  have hsame : writeChars payload ++ [] = writeChars other ++ [] := by rw [h]
  exact (write_chars_append_inj .nil .nil payload other hsame).1

/-! ## Lines -/

/-- An escaped character holds no line break. -/
theorem newline_not_mem_escape (character : Char) : '\n' ∉ escape character := by
  have hdigit : ∀ value < 16, '\n' ≠ hexDigit value := by decide
  unfold escape
  split
  · decide
  split
  · decide
  split
  · decide
  split
  · decide
  split
  · decide
  split
  · decide
  split
  · decide
  split
  · rename_i h
    have hhigh := hdigit (character.toNat / 16) (by omega)
    have hlow := hdigit (character.toNat % 16) (by omega)
    simp [hhigh, hlow]
  · rename_i hnewline _ _ _ _ _
    simpa using Ne.symm hnewline

/-- A written text holds no line break. -/
theorem newline_not_mem_write_text (value : String) : '\n' ∉ writeText value := by
  have hbody : '\n' ∉ value.toList.flatMap escape := by
    intro h
    obtain ⟨character, _, hmem⟩ := List.mem_flatMap.1 h
    exact newline_not_mem_escape character hmem
  unfold writeText
  rw [List.cons_append, List.mem_cons, List.mem_append, List.mem_singleton]
  rintro (h | h | h)
  · cases h
  · exact hbody h
  · cases h

mutual

/-- A canonical text holds no line break. -/
theorem newline_not_mem_write_chars : ∀ payload : Payload, '\n' ∉ writeChars payload
  | .null => by decide
  | .flag true => by decide
  | .flag false => by decide
  | .number value => by
      intro h
      have hnumeral := List.all_eq_true.1 (all_is_numeral_write_number value) _ h
      cases hnumeral
  | .text value => newline_not_mem_write_text value
  | .list items => by
      have hitems := newline_not_mem_write_items items
      simp [writeChars, hitems]
  | .object fields => by
      have hfields := newline_not_mem_write_fields fields
      simp [writeChars, hfields]

/-- The items of a list are written without line breaks. -/
theorem newline_not_mem_write_items : ∀ items : List Payload, '\n' ∉ writeItems items
  | [] => by decide
  | [item] => newline_not_mem_write_chars item
  | item :: next :: rest => by
      have hitem := newline_not_mem_write_chars item
      have hrest := newline_not_mem_write_items (next :: rest)
      rw [writeItems]
      simp [hitem, hrest]

/-- The fields of an object are written without line breaks. -/
theorem newline_not_mem_write_fields :
    ∀ fields : List (String × Payload), '\n' ∉ writeFields fields
  | [] => by decide
  | [(key, value)] => by
      have hkey := newline_not_mem_write_text key
      have hvalue := newline_not_mem_write_chars value
      simp [writeFields, hkey, hvalue]
  | (key, value) :: next :: rest => by
      have hkey := newline_not_mem_write_text key
      have hvalue := newline_not_mem_write_chars value
      have hrest := newline_not_mem_write_fields (next :: rest)
      rw [writeFields]
      simp [hkey, hvalue, hrest]

end

/-- The canonical text of a document is one line. -/
theorem one_line_write (payload : Payload) : OneLine (write payload) := by
  unfold OneLine write
  rw [String.toList_ofList]
  exact newline_not_mem_write_chars payload

end Json

end ShootMachines
