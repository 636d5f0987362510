import Mathlib.Data.List.Basic
import ShootMachines.Kubernetes.Quantity
import ShootMachines.Proofs.Results
import ShootMachines.Proofs.Text.TextLemmas

/-!
# The grammar of quantities

`Quantity.Written` says what a quantity looks like: an optional sign, a number and a suffix. Reading
takes the longest run of digits and points as the number; no suffix starts with either, so this run is the
number of the grammar (`parts_of_written`), and both sides of the end of the run can be looked at by
themselves (`number_iff`, `is_suffix_iff`). `Quantity.parse_outcome` says that reading accepts exactly the
texts of the grammar and keeps them as written. Why another text is refused shows in its parts:
`Quantity.Refused` has a case for each fault, and `parse_eq_error_iff` says that these are the faults of
reading.
-/

namespace ShootMachines.Quantity

/-- An optional sign. -/
inductive Sign : List Char → Prop
  | absent : Sign []
  | plus : Sign ['+']
  | minus : Sign ['-']

/-- A number without a sign: digits, with a point after, among or before them. -/
inductive Number : List Char → Prop
  | whole {digits : List Char} (h : DigitRun digits) : Number digits
  | pointed {digits fraction : List Char} (h : DigitRun digits)
      (hfraction : fraction.all Char.isDigit = true) : Number (digits ++ '.' :: fraction)
  | fraction {digits : List Char} (h : DigitRun digits) : Number ('.' :: digits)

/-- The letters that scale by a power of ten. -/
def decimalLetters : List Char := ['n', 'u', 'm', 'k', 'M', 'G', 'T', 'P', 'E']

/-- The letters that scale by a power of two if an `i` follows. -/
def binaryLetters : List Char := ['K', 'M', 'G', 'T', 'P', 'E']

/-- A suffix: none, a scaling letter, a scaling letter and an `i`, or an exponent. -/
inductive Suffix : List Char → Prop
  | absent : Suffix []
  | decimal {letter : Char} (h : letter ∈ decimalLetters) : Suffix [letter]
  | binary {letter : Char} (h : letter ∈ binaryLetters) : Suffix [letter, 'i']
  | exponent {letter : Char} {sign digits : List Char} (h : letter = 'e' ∨ letter = 'E')
      (hsign : Sign sign) (hdigits : DigitRun digits) : Suffix (letter :: (sign ++ digits))

/-- What a quantity looks like. -/
inductive Written : List Char → Prop
  | parts {sign number suffix : List Char} (hsign : Sign sign) (hnumber : Number number)
      (hsuffix : Suffix suffix) : Written (sign ++ (number ++ suffix))

/-- A digit or a point. -/
def Numeral (character : Char) : Prop :=
  character.isDigit = true ∨ character = '.'

/-- The parts of a text: the sign that it starts with, if any, the longest run of digits and points after
it, and the rest. -/
structure Parts (text sign numerals rest : List Char) : Prop where
  text_eq : text = sign ++ (numerals ++ rest)
  written_sign : Sign sign
  no_sign : sign = [] → StartsOutside isSign (numerals ++ rest)
  run : ∀ character ∈ numerals, Numeral character
  longest : ∀ character ∈ rest.head?, ¬Numeral character

/-- Why a text is no quantity: there are several points in its number, no digit, or something other than a
suffix after it. -/
inductive Refused (text : List Char) : Fault → Prop
  | manyPoints {sign numerals rest : List Char} (hparts : Parts text sign numerals rest)
      (h : 1 < numerals.count '.') : Refused text .manyPoints
  | missingNumber {sign numerals rest : List Char} (hparts : Parts text sign numerals rest)
      (h : numerals = [] ∨ numerals = ['.']) : Refused text .missingNumber
  | unknownSuffix {sign number rest : List Char} (hparts : Parts text sign number rest)
      (hnumber : Number number) (h : ¬Suffix rest) :
      Refused text (.unknownSuffix (String.ofList rest))

/-- A text that no sign is dropped from starts with none. -/
theorem starts_outside_drop_sign {text : List Char} (h : dropSign text = text) :
    StartsOutside isSign text := by
  unfold dropSign at h
  split at h
  · exact absurd h (by simp)
  · exact absurd h (by simp)
  · rename_i hplus hminus
    cases text with
    | nil => exact .nil
    | cons first rest =>
        have hne : first ≠ '+' ∧ first ≠ '-' :=
          ⟨fun heq => hplus rest (by rw [heq]), fun heq => hminus rest (by rw [heq])⟩
        exact .cons (by simp [isSign, hne]) rest

/-- A text is an optional sign and the text without it. -/
theorem exists_sign (text : List Char) : ∃ sign, Sign sign ∧ text = sign ++ dropSign text := by
  unfold dropSign
  split
  · exact ⟨['+'], .plus, rfl⟩
  · exact ⟨['-'], .minus, rfl⟩
  · exact ⟨[], .absent, rfl⟩

/-- A sign is dropped, and no sign if none is there. -/
theorem drop_sign_append {sign rest : List Char} (hsign : Sign sign)
    (hrest : sign = [] → StartsOutside isSign rest) : dropSign (sign ++ rest) = rest := by
  cases hsign with
  | plus => rfl
  | minus => rfl
  | absent =>
      cases rest with
      | nil => rfl
      | cons first rest =>
          have hfirst := hrest rfl first rfl
          simp only [isSign, Bool.or_eq_false_iff, decide_eq_false_iff_not] at hfirst
          unfold dropSign
          split
          · rename_i heq
            exact absurd (List.cons.inj heq).1 hfirst.1
          · rename_i heq
            exact absurd (List.cons.inj heq).1 hfirst.2
          · rfl

/-- A number starts with no sign. -/
theorem Number.starts_outside_sign {number : List Char} (h : Number number) (rest : List Char) :
    StartsOutside isSign (number ++ rest) := by
  cases h with
  | whole h => exact h.starts_outside is_sign_of_is_digit rest
  | pointed h _ =>
      rw [List.append_assoc]
      exact h.starts_outside is_sign_of_is_digit _
  | fraction _ => exact .cons rfl _

/-- Digits are numerals. -/
theorem all_is_numeral_of_digits {digits : List Char} (h : digits.all Char.isDigit = true) :
    digits.all isNumeral = true := by
  rw [List.all_eq_true] at h ⊢
  intro character hcharacter
  rw [isNumeral, h character hcharacter, Bool.true_or]

/-- A number is made of numerals. -/
theorem Number.all_is_numeral {number : List Char} (h : Number number) :
    number.all isNumeral = true := by
  cases h with
  | whole h => exact all_is_numeral_of_digits h.2
  | pointed h hfraction =>
      rw [List.all_append, List.all_cons, all_is_numeral_of_digits h.2,
        all_is_numeral_of_digits hfraction]
      rfl
  | fraction h =>
      rw [List.all_cons, all_is_numeral_of_digits h.2]
      rfl

/-- Numerals without a point are digits. -/
theorem all_is_digit_of_numerals {numerals : List Char} (h : numerals.all isNumeral = true)
    (hpoint : '.' ∉ numerals) : numerals.all Char.isDigit = true := by
  rw [List.all_eq_true] at h ⊢
  intro character hcharacter
  have hne : character ≠ '.' := ne_of_mem_of_not_mem hcharacter hpoint
  simpa [isNumeral, hne] using h character hcharacter

/-- There is no point among digits. -/
theorem count_point_eq_zero {digits : List Char} (h : digits.all Char.isDigit = true) :
    digits.count '.' = 0 :=
  List.count_eq_zero.2 fun hmem => absurd (List.all_eq_true.1 h '.' hmem) (by decide)

/-- A run of digits holds something other than points. -/
theorem exists_ne_point {digits : List Char} (h : DigitRun digits) :
    ∃ character ∈ digits, character ≠ '.' := by
  obtain ⟨first, others, rfl⟩ := List.exists_cons_of_ne_nil h.1
  have hfirst := List.all_eq_true.1 h.2 first List.mem_cons_self
  refine ⟨first, List.mem_cons_self, ?_⟩
  rintro rfl
  cases hfirst

/-- A number has at most one point, and something other than points. -/
theorem Number.points {number : List Char} (h : Number number) :
    number.count '.' ≤ 1 ∧ ∃ character ∈ number, character ≠ '.' := by
  cases h with
  | whole h =>
      rw [count_point_eq_zero h.2]
      exact ⟨Nat.zero_le 1, exists_ne_point h⟩
  | pointed h hfraction =>
      obtain ⟨character, hcharacter, hne⟩ := exists_ne_point h
      refine ⟨?_, character, List.mem_append_left _ hcharacter, hne⟩
      simp [count_point_eq_zero h.2, count_point_eq_zero hfraction]
  | fraction h =>
      obtain ⟨character, hcharacter, hne⟩ := exists_ne_point h
      refine ⟨?_, character, List.mem_cons_of_mem _ hcharacter, hne⟩
      simp [count_point_eq_zero h.2]

/-- Numerals with at most one point, and something other than points, are a number. -/
theorem number_of_points {numerals : List Char} (h : numerals.all isNumeral = true)
    (hcount : numerals.count '.' ≤ 1) (hne : ∃ character ∈ numerals, character ≠ '.') :
    Number numerals := by
  by_cases hpoint : '.' ∈ numerals
  · obtain ⟨whole, fraction, rfl⟩ := List.append_of_mem hpoint
    rw [List.count_append, List.count_cons_self] at hcount
    rw [List.all_append, List.all_cons, Bool.and_eq_true, Bool.and_eq_true] at h
    have hwhole : whole.all Char.isDigit = true :=
      all_is_digit_of_numerals h.1 (List.count_eq_zero.1 (by omega))
    have hfraction : fraction.all Char.isDigit = true :=
      all_is_digit_of_numerals h.2.2 (List.count_eq_zero.1 (by omega))
    by_cases hempty : whole = []
    -- Nothing stands before the point, so something stands after it.
    · subst hempty
      refine .fraction ⟨?_, hfraction⟩
      rintro rfl
      obtain ⟨character, hcharacter, hne⟩ := hne
      exact hne (List.mem_singleton.1 hcharacter)
    · exact .pointed ⟨hempty, hwhole⟩ hfraction
  · refine .whole ⟨?_, all_is_digit_of_numerals h hpoint⟩
    rintro rfl
    obtain ⟨_, hcharacter, _⟩ := hne
    cases hcharacter

/-- Numerals are a number exactly if they have at most one point and are not only points. -/
theorem number_iff {numerals : List Char} (h : numerals.all isNumeral = true) :
    Number numerals ↔ numerals.count '.' ≤ 1 ∧ numerals.all (· = '.') = false := by
  have honly : numerals.all (· = '.') = false ↔ ∃ character ∈ numerals, character ≠ '.' := by
    simp [List.all_eq_false]
  rw [honly]
  exact ⟨Number.points, fun ⟨hcount, hne⟩ => number_of_points h hcount hne⟩

/-- An exponent is a letter, an optional sign and digits. -/
theorem is_exponent_iff {suffix : List Char} :
    isExponent suffix = true ↔ ∃ letter sign digits, (letter = 'e' ∨ letter = 'E') ∧ Sign sign ∧
      DigitRun digits ∧ suffix = letter :: (sign ++ digits) := by
  constructor
  · intro h
    unfold isExponent at h
    split at h
    · rename_i letter rest
      simp only [Bool.and_eq_true, Bool.or_eq_true, decide_eq_true_eq, Bool.not_eq_true',
        List.isEmpty_eq_false_iff] at h
      obtain ⟨sign, hsign, hrest⟩ := exists_sign rest
      exact ⟨letter, sign, dropSign rest, h.1.1, hsign, ⟨h.1.2, h.2⟩, congrArg _ hrest⟩
    · cases h
  · rintro ⟨letter, sign, digits, hletter, hsign, hdigits, rfl⟩
    have hdrop : dropSign (sign ++ digits) = digits := by
      have hstart := hdigits.starts_outside is_sign_of_is_digit []
      rw [List.append_nil] at hstart
      exact drop_sign_append hsign fun _ => hstart
    simp [isExponent, hdrop, hletter, hdigits.1, hdigits.2]

/-- The suffixes that may follow a number are those of the grammar. -/
theorem is_suffix_iff {suffix : List Char} : isSuffix suffix = true ↔ Suffix suffix := by
  have hbinary : binarySuffixes.contains suffix = true ↔
      ∃ letter ∈ binaryLetters, [letter, 'i'] = suffix := by
    rw [List.contains_iff_mem, ← List.mem_map]
    rfl
  have hdecimal : decimalSuffixes.contains suffix = true ↔
      suffix = [] ∨ ∃ letter ∈ decimalLetters, [letter] = suffix := by
    have hsame : decimalSuffixes.Perm ([] :: decimalLetters.map fun letter => [letter]) := by decide
    rw [List.contains_iff_mem, hsame.mem_iff, List.mem_cons, List.mem_map]
  rw [isSuffix, Bool.or_eq_true, Bool.or_eq_true, hbinary, hdecimal, is_exponent_iff]
  constructor
  · rintro ((⟨letter, h, rfl⟩ | rfl | ⟨letter, h, rfl⟩) | ⟨letter, sign, digits, h, hsign, hdigits, rfl⟩)
    · exact .binary h
    · exact .absent
    · exact .decimal h
    · exact .exponent h hsign hdigits
  · intro h
    cases h with
    | absent => exact .inl (.inr (.inl rfl))
    | decimal h => exact .inl (.inr (.inr ⟨_, h, rfl⟩))
    | binary h => exact .inl (.inl ⟨_, h, rfl⟩)
    | exponent h hsign hdigits => exact .inr ⟨_, _, _, h, hsign, hdigits, rfl⟩

/-- No suffix starts with a numeral. -/
theorem Suffix.starts_outside_numerals {suffix : List Char} (h : Suffix suffix) :
    StartsOutside isNumeral suffix := by
  have hdecimal : ∀ letter ∈ decimalLetters, isNumeral letter = false := by
    simp [decimalLetters, isNumeral]
  have hbinary : ∀ letter ∈ binaryLetters, isNumeral letter = false := by
    simp [binaryLetters, isNumeral]
  cases h with
  | absent => exact .nil
  | decimal h => exact .cons (hdecimal _ h) _
  | binary h => exact .cons (hbinary _ h) _
  | exponent h _ _ =>
      refine .cons ?_ _
      rcases h with rfl | rfl <;> rfl

/-- What belongs to the number of a quantity are digits and points. -/
theorem is_numeral_iff {character : Char} : isNumeral character = true ↔ Numeral character := by
  simp [isNumeral, Numeral]

/-- Every text has parts: those that reading looks at. -/
theorem exists_parts (text : List Char) :
    ∃ sign, Parts text sign ((dropSign text).takeWhile isNumeral)
      ((dropSign text).dropWhile isNumeral) := by
  obtain ⟨sign, hsign, htext⟩ := exists_sign text
  refine ⟨sign, ?_, hsign, ?_, fun character hcharacter => ?_, fun character hcharacter => ?_⟩
  · rw [List.takeWhile_append_dropWhile]
    exact htext
  · rintro rfl
    rw [List.takeWhile_append_dropWhile]
    rw [List.nil_append] at htext
    rw [← htext]
    exact starts_outside_drop_sign htext.symm
  · exact is_numeral_iff.1 (List.all_eq_true.1 List.all_takeWhile character hcharacter)
  · rw [← is_numeral_iff, StartsOutside.drop_while isNumeral _ character hcharacter]
    exact Bool.false_ne_true

/-- The run of digits and points of a text belongs to its number. -/
theorem Parts.all_is_numeral {text sign numerals rest : List Char} (h : Parts text sign numerals rest) :
    numerals.all isNumeral = true :=
  List.all_eq_true.2 fun character hcharacter => is_numeral_iff.2 (h.run character hcharacter)

/-- The check looks at the parts of a text. -/
theorem Parts.check_eq {text sign numerals rest : List Char} (h : Parts text sign numerals rest) :
    check text =
      if 1 < numerals.count '.' then .error .manyPoints
      else if numerals.all (· = '.') then .error .missingNumber
      else if isSuffix rest then .ok ()
      else .error (.unknownSuffix (String.ofList rest)) := by
  have hrest : StartsOutside isNumeral rest := fun character hcharacter =>
    Bool.eq_false_iff.2 (mt is_numeral_iff.1 (h.longest character hcharacter))
  unfold check
  dsimp only
  rw [h.text_eq, drop_sign_append h.written_sign h.no_sign, take_while_run h.all_is_numeral hrest,
    drop_while_run h.all_is_numeral hrest]

/-- The check accepts a text if its numerals are a number and the rest is a suffix. -/
theorem Parts.check_eq_ok_iff {text sign numerals rest : List Char} (h : Parts text sign numerals rest) :
    check text = .ok () ↔ Number numerals ∧ Suffix rest := by
  rw [number_iff h.all_is_numeral, ← is_suffix_iff, h.check_eq]
  split
  · rename_i hmany
    simp [Nat.not_le.2 hmany]
  · rename_i hcount
    split
    · rename_i honly
      simp [honly]
    · rename_i honly
      simp [Nat.not_lt.1 hcount, honly]

/-- The sign, the number and the suffix of a quantity are its parts. -/
theorem parts_of_written {sign number suffix : List Char} (hsign : Sign sign) (hnumber : Number number)
    (hsuffix : Suffix suffix) : Parts (sign ++ (number ++ suffix)) sign number suffix where
  text_eq := rfl
  written_sign := hsign
  no_sign _ := hnumber.starts_outside_sign suffix
  run character hcharacter :=
    is_numeral_iff.1 (List.all_eq_true.1 hnumber.all_is_numeral character hcharacter)
  longest character hcharacter := by
    rw [← is_numeral_iff, hsuffix.starts_outside_numerals character hcharacter]
    exact Bool.false_ne_true

/-- The check accepts exactly the texts of the grammar. -/
theorem check_eq_ok_iff {text : List Char} : check text = .ok () ↔ Written text := by
  constructor
  · intro h
    obtain ⟨sign, hparts⟩ := exists_parts text
    obtain ⟨hnumber, hsuffix⟩ := hparts.check_eq_ok_iff.1 h
    rw [hparts.text_eq]
    exact .parts hparts.written_sign hnumber hsuffix
  · rintro ⟨hsign, hnumber, hsuffix⟩
    exact (parts_of_written hsign hnumber hsuffix).check_eq_ok_iff.2 ⟨hnumber, hsuffix⟩

/-- At most one point and nothing else is nothing at all, or one point. -/
theorem only_points_iff {numerals : List Char} :
    numerals.count '.' ≤ 1 ∧ numerals.all (· = '.') = true ↔ numerals = [] ∨ numerals = ['.'] := by
  constructor
  · rintro ⟨hcount, hall⟩
    obtain ⟨count, rfl⟩ : ∃ count, numerals = List.replicate count '.' :=
      ⟨_, List.eq_replicate_iff.2 ⟨rfl, by simpa using hall⟩⟩
    rw [List.count_replicate_self] at hcount
    rcases Nat.le_one_iff_eq_zero_or_eq_one.1 hcount with rfl | rfl
    · exact .inl rfl
    · exact .inr rfl
  · rintro (rfl | rfl) <;> decide

/-- The check fails with a fault exactly if the text is refused for that reason. -/
theorem check_eq_error_iff {text : List Char} {fault : Fault} :
    check text = .error fault ↔ Refused text fault := by
  constructor
  · intro h
    obtain ⟨sign, hparts⟩ := exists_parts text
    rw [hparts.check_eq] at h
    split at h
    · rename_i hmany
      obtain rfl := Except.error.inj h
      exact .manyPoints hparts hmany
    · rename_i hcount
      split at h
      · rename_i honly
        obtain rfl := Except.error.inj h
        exact .missingNumber hparts (only_points_iff.1 ⟨Nat.not_lt.1 hcount, honly⟩)
      · rename_i honly
        split at h
        · cases h
        · rename_i hsuffix
          obtain rfl := Except.error.inj h
          exact .unknownSuffix hparts
            ((number_iff hparts.all_is_numeral).2 ⟨Nat.not_lt.1 hcount, Bool.eq_false_iff.2 honly⟩)
            (mt is_suffix_iff.2 hsuffix)
  · intro h
    cases h with
    | manyPoints hparts h => rw [hparts.check_eq, if_pos h]
    | missingNumber hparts h =>
        obtain ⟨hcount, honly⟩ := only_points_iff.2 h
        rw [hparts.check_eq, if_neg (Nat.not_lt.2 hcount), if_pos honly]
    | unknownSuffix hparts hnumber h =>
        obtain ⟨hcount, honly⟩ := (number_iff hnumber.all_is_numeral).1 hnumber
        rw [hparts.check_eq, if_neg (Nat.not_lt.2 hcount), honly, if_neg Bool.false_ne_true,
          if_neg (mt is_suffix_iff.1 h)]

/-- Reading a text succeeds exactly if it looks like a quantity. -/
theorem exists_parse_eq_ok_iff {text : String} :
    (∃ quantity, parse text = .ok quantity) ↔ Written text.toList := by
  rw [← check_eq_ok_iff]
  unfold parse
  cases check text.toList with
  | error fault => simp [Except.map]
  | ok value => simp [Except.map]

/-- Reading a text fails with a fault exactly if the text is refused for that reason. -/
theorem parse_eq_error_iff {text : String} {fault : Fault} :
    parse text = .error fault ↔ Refused text.toList fault := by
  rw [← check_eq_error_iff]
  unfold parse
  cases check text.toList with
  | error other => simp [Except.map]
  | ok value => simp [Except.map]

/-- Reading accepts exactly the texts that look like a quantity, keeps each as it is written, and ends with
a fault for every other text. -/
theorem parse_outcome (text : String) :
    (∀ quantity, parse text = .ok quantity ↔ Written text.toList ∧ quantity.text = text) ∧
      ((∃ fault, parse text = .error fault) ↔ ¬Written text.toList) := by
  rw [← check_eq_ok_iff]
  unfold parse
  cases hcheck : check text.toList with
  | error fault => simp [Except.map]
  | ok value =>
      refine ⟨fun quantity => ?_, ?_⟩
      · cases quantity
        simp [Except.map, eq_comm]
      · simp [Except.map]

/-- An `E` scales by itself and before an `i`, and starts an exponent before digits; an `e` does only the
last. -/
example : ["1E", "1Ei", "1E3", "1e3", "1e", "1ei"].map (fun text => (parse text).isOk) =
    [true, true, true, true, false, false] := by
  decide

end ShootMachines.Quantity
