import ShootMachines.Text.Blank
import ShootMachines.Text.Utf8

/-!
# Laws of written texts

How texts that were put together come apart again: a run of characters of one kind ends where the
next character is of another kind, blanks around a text are taken off it, parts end at their separators,
and the bytes of a text are those of its characters. Hashed texts and generated names are told apart by
these laws, and numbers and lists are read by them.
-/

namespace ShootMachines

/-- No character of a kind starts a text: the text is empty, or starts with a character of another
kind. -/
def StartsOutside (kind : Char → Bool) (text : List Char) : Prop :=
  ∀ character ∈ text.head?, kind character = false

/-- The empty text starts with no character. -/
theorem StartsOutside.nil {kind : Char → Bool} : StartsOutside kind [] :=
  fun _ h => nomatch h

/-- A text starts outside a kind if its first character is not of the kind. -/
theorem StartsOutside.cons {kind : Char → Bool} {first : Char} (h : kind first = false)
    (rest : List Char) : StartsOutside kind (first :: rest) := by
  intro character hcharacter
  obtain rfl := Option.some.inj hcharacter
  exact h

/-- A text starts outside a kind if it is put together from two that do. -/
theorem StartsOutside.append {kind : Char → Bool} {text rest : List Char} (h : StartsOutside kind text)
    (hrest : StartsOutside kind rest) : StartsOutside kind (text ++ rest) := by
  cases text with
  | nil => exact hrest
  | cons first others => exact .cons (h first rfl) _

/-- What is left of a text without the characters of a kind that it starts with starts outside the kind. -/
theorem StartsOutside.drop_while (kind : Char → Bool) (text : List Char) :
    StartsOutside kind (text.dropWhile kind) := by
  intro character hcharacter
  have hfirst := List.head?_dropWhile_not kind text
  rw [Option.mem_def.1 hcharacter] at hfirst
  exact hfirst

/-- A run of characters of a kind is the longest one that starts a text if the rest starts outside
the kind. -/
theorem take_while_run {kind : Char → Bool} {run rest : List Char} (hrun : run.all kind = true)
    (hrest : StartsOutside kind rest) : (run ++ rest).takeWhile kind = run := by
  rw [List.takeWhile_append_of_pos (List.all_eq_true.1 hrun)]
  cases rest with
  | nil => simp
  | cons first rest => simp [hrest first rfl]

/-- What follows a run of characters of a kind is left without the run if it starts outside the kind. -/
theorem drop_while_run {kind : Char → Bool} {run rest : List Char} (hrun : run.all kind = true)
    (hrest : StartsOutside kind rest) : (run ++ rest).dropWhile kind = rest := by
  rw [List.dropWhile_append_of_pos (List.all_eq_true.1 hrun)]
  cases rest with
  | nil => rfl
  | cons first rest => simp [hrest first rfl]

/-- Two runs of characters of a kind are told apart from what follows them. -/
theorem run_append_inj {kind : Char → Bool} {run other rest last : List Char}
    (hrun : run.all kind = true) (hother : other.all kind = true)
    (hrest : StartsOutside kind rest) (hlast : StartsOutside kind last)
    (h : run ++ rest = other ++ last) : run = other ∧ rest = last := by
  have hsame : run = other := by
    rw [← take_while_run hrun hrest, h, take_while_run hother hlast]
  subst hsame
  exact ⟨rfl, List.append_cancel_left h⟩

/-- A run of at least one decimal digit. -/
def DigitRun (text : List Char) : Prop :=
  text ≠ [] ∧ text.all Char.isDigit = true

/-- Whether a character is a sign. -/
def isSign (character : Char) : Bool :=
  character = '+' || character = '-'

/-- No digit is a sign. -/
theorem is_sign_of_is_digit {character : Char} (h : character.isDigit = true) :
    isSign character = false := by
  simp only [isSign, Bool.or_eq_false_iff, decide_eq_false_iff_not]
  constructor <;> rintro rfl <;> cases h

/-- No digit is blank. -/
theorem is_blank_of_is_digit {character : Char} (h : character.isDigit = true) :
    isBlank character = false := by
  simp only [Char.isDigit, Bool.and_eq_true, decide_eq_true_eq, UInt32.le_iff_toNat_le] at h
  have hlow : 48 ≤ character.toNat := h.1
  have hhigh : character.toNat ≤ 57 := h.2
  unfold isBlank
  simp only [Bool.or_eq_false_iff, Bool.and_eq_false_iff, decide_eq_false_iff_not]
  omega

/-- A run of digits starts outside every kind that no digit is of. -/
theorem DigitRun.starts_outside {digits : List Char} (h : DigitRun digits) {kind : Char → Bool}
    (hkind : ∀ {character : Char}, character.isDigit = true → kind character = false)
    (rest : List Char) : StartsOutside kind (digits ++ rest) := by
  obtain ⟨first, others, rfl⟩ := List.exists_cons_of_ne_nil h.1
  exact .cons (hkind (List.all_eq_true.1 h.2 first List.mem_cons_self)) _

/-- A text is another one with blanks around it. -/
inductive BlanksAround (inner : List Char) : List Char → Prop
  | around (before after : List Char) (hbefore : before.all isBlank = true)
      (hafter : after.all isBlank = true) : BlanksAround inner (before ++ inner ++ after)

/-- A text is its trimmed form with blanks around it. -/
theorem blanks_around_trim_chars (text : List Char) : BlanksAround (trimChars text) text := by
  have hback := List.takeWhile_append_dropWhile (p := isBlank)
    (l := (text.dropWhile isBlank).reverse)
  have hsplit : text = text.takeWhile isBlank ++ trimChars text ++
      ((text.dropWhile isBlank).reverse.takeWhile isBlank).reverse := by
    rw [trimChars, List.append_assoc, ← List.reverse_append, hback, List.reverse_reverse,
      List.takeWhile_append_dropWhile]
  have h : BlanksAround (trimChars text) _ := .around _ _ (List.all_takeWhile (l := text))
    ((List.all_reverse ..).trans (List.all_takeWhile (l := (text.dropWhile isBlank).reverse)))
  rwa [← hsplit] at h

/-- Blanks around a text are trimmed off it if it neither starts nor ends with one. -/
theorem BlanksAround.trim_chars_eq {inner text : List Char} (h : BlanksAround inner text)
    (hfirst : StartsOutside isBlank inner) (hlast : StartsOutside isBlank inner.reverse) :
    trimChars text = inner := by
  obtain ⟨before, after, hbefore, hafter⟩ := h
  rw [trimChars, List.append_assoc]
  cases inner with
  | nil =>
      have hall : (before ++ after).all isBlank = true := by
        rw [List.all_append, hbefore, hafter]
        rfl
      have hnone := drop_while_run hall .nil
      rw [List.append_nil] at hnone
      rw [List.nil_append, hnone]
      rfl
  | cons first rest =>
      have hinner : StartsOutside isBlank (first :: rest ++ after) := .cons (hfirst first rfl) _
      rw [drop_while_run hbefore hinner, List.reverse_append,
        drop_while_run (by rwa [List.all_reverse]) hlast, List.reverse_reverse]

/-- A text of one line: no line break is in it. -/
def OneLine (text : String) : Prop := '\n' ∉ text.toList

instance (text : String) : Decidable (OneLine text) :=
  inferInstanceAs (Decidable ('\n' ∉ text.toList))

/-- Parts, each one after a separator that is in none of them, are told apart. -/
theorem separated_inj {separator : Char} {parts others : List String}
    (hparts : ∀ part ∈ parts, separator ∉ part.toList)
    (hothers : ∀ part ∈ others, separator ∉ part.toList)
    (h : (parts.flatMap fun part => separator :: part.toList) =
      others.flatMap fun part => separator :: part.toList) : parts = others := by
  have hpart {text : String} (htext : separator ∉ text.toList) :
      (text.toList.all fun character => character ≠ separator) = true := by
    refine List.all_eq_true.2 fun character hcharacter => decide_eq_true ?_
    rintro rfl
    exact htext hcharacter
  have hbreak (rest : List String) :
      StartsOutside (fun character => character ≠ separator)
        (rest.flatMap fun part => separator :: part.toList) := by
    cases rest with
    | nil => exact .nil
    | cons part rest => exact .cons (by simp) _
  induction parts generalizing others with
  | nil =>
      cases others with
      | nil => rfl
      | cons other others => cases h
  | cons part parts ih =>
      cases others with
      | nil => cases h
      | cons other others =>
          simp only [List.flatMap_cons, List.cons_append, List.cons.injEq, true_and] at h
          obtain ⟨hsame, hrest⟩ := run_append_inj (hpart (hparts part List.mem_cons_self))
            (hpart (hothers other List.mem_cons_self)) (hbreak parts) (hbreak others) h
          rw [String.toList_inj.1 hsame, ih
            (fun part hmem => hparts part (List.mem_cons_of_mem _ hmem))
            (fun part hmem => hothers part (List.mem_cons_of_mem _ hmem)) hrest]

/-- No part of a split text holds the separator. -/
theorem not_mem_of_mem_split_on {separator : Char} {text part : List Char}
    (h : part ∈ text.splitOn separator) : separator ∉ part := by
  induction text generalizing part with
  | nil =>
      rw [List.splitOn_nil, List.mem_singleton] at h
      subst h
      exact List.not_mem_nil
  | cons first rest ih =>
      obtain ⟨head, tail, hparts⟩ := List.exists_cons_of_ne_nil (List.splitOn_ne_nil separator rest)
      rw [List.splitOn_cons_eq_if_modifyHead] at h
      rw [hparts] at ih h
      split at h
      · rcases List.mem_cons.1 h with rfl | h
        · exact List.not_mem_nil
        · exact ih h
      · rename_i hfirst
        rcases List.mem_cons.1 h with rfl | h
        · have hne : separator ≠ first := fun hsame => hfirst (beq_iff_eq.2 hsame.symm)
          exact List.not_mem_cons_of_ne_of_not_mem hne (ih List.mem_cons_self)
        · exact ih (List.mem_cons_of_mem _ h)

/-- A number is written in decimal digits. -/
theorem all_is_digit_repr (number : Nat) : number.repr.toList.all Char.isDigit = true := by
  rw [Nat.repr_eq_ofList_toDigits, String.toList_ofList]
  exact List.all_eq_true.2 fun _ h => Nat.isDigit_of_mem_toDigits (by decide) (by decide) h

/-- Different numbers are written differently. -/
theorem repr_inj {number other : Nat} (h : number.repr = other.repr) : number = other := by
  rw [← Nat.ofDigitChars_ten_toDigits (n := number), ← Nat.toList_repr, h, Nat.toList_repr,
    Nat.ofDigitChars_ten_toDigits]

namespace Utf8

/-- Bytes of one text after the other are the bytes of the whole. -/
theorem encode_append (text rest : String) : encode (text ++ rest) = encode text ++ encode rest := by
  unfold encode
  rw [String.toList_append, List.flatMap_append]

/-- A line break is one byte. -/
theorem encode_newline (rest : List Char) :
    encode (String.ofList ('\n' :: rest)) = 10 :: encode (String.ofList rest) := by
  unfold encode
  rw [String.toList_ofList, String.toList_ofList]
  rfl

/-- Texts with the same bytes are equal. -/
theorem encode_inj {text other : String} (h : encode text = encode other) : text = other := by
  rw [← String.toByteArray_inj, ← String.utf8Encode_toList, ← String.utf8Encode_toList]
  exact congrArg List.toByteArray h

/-- The byte of a line break is part of no other character. -/
theorem newline_not_mem_char {character : Char} (h : character ≠ '\n') :
    (10 : UInt8) ∉ String.utf8EncodeChar character := by
  have hcode : character.val.toNat ≠ 10 := fun hsame =>
    h (Char.ext (UInt32.toNat_inj.1 hsame))
  intro hmem
  unfold String.utf8EncodeChar at hmem
  dsimp only at hmem
  have hbyte (value : Nat) (hbyte : (10 : UInt8) = UInt8.ofNat value) : value % 256 = 10 := by
    simpa using (congrArg UInt8.toNat hbyte).symm
  -- Every byte of a longer character is at least 128.
  split at hmem
  · have hvalue := hbyte _ (List.mem_singleton.1 hmem)
    omega
  · split at hmem
    · simp only [List.mem_cons, List.not_mem_nil, or_false] at hmem
      rcases hmem with hmem | hmem <;> have hvalue := hbyte _ hmem <;> omega
    · split at hmem
      · simp only [List.mem_cons, List.not_mem_nil, or_false] at hmem
        rcases hmem with hmem | hmem | hmem <;> have hvalue := hbyte _ hmem <;> omega
      · simp only [List.mem_cons, List.not_mem_nil, or_false] at hmem
        rcases hmem with hmem | hmem | hmem | hmem <;> have hvalue := hbyte _ hmem <;> omega

/-- The bytes of a text of one line hold no line break. -/
theorem newline_not_mem_encode {text : String} (h : OneLine text) : (10 : UInt8) ∉ encode text := by
  intro hmem
  obtain ⟨character, hcharacter, hbyte⟩ := List.mem_flatMap.1 hmem
  refine newline_not_mem_char ?_ hbyte
  rintro rfl
  exact h hcharacter

end Utf8

end ShootMachines
