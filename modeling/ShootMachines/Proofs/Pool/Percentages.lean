import Mathlib.Data.Nat.Digits.Lemmas
import Mathlib.Data.Rat.Floor
import ShootMachines.Proofs.Pool.ZoneShares
import ShootMachines.Proofs.Text.TextLemmas

/-!
# Percentages of reference counts

`Pool.Percentage` says which texts are percentages and of what number: an optional sign, decimal digits and
a percent sign, with blanks around. `Pool.resolve_percentage_eq_ok_iff` says that resolving one succeeds
exactly if the number fits 64 bits and the part of the reference count, rounded down, fits 32 bits; the
product on the way always fits 64 bits then. `Pool.Unresolvable` says what is wrong with every other text, and
`Pool.resolve_percentage_eq_error_iff` that resolving it fails with that fault. `Pool.StandsFor` is what a
bound, a number or a text, stands for. `Pool.text_bound_shares` adds how zones share in it.
-/

namespace ShootMachines.Pool

/-- The number that decimal digits stand for, each one with the weight of its place. -/
def decimalValue (digits : List Char) : Nat :=
  Nat.ofDigits 10 (digits.reverse.map fun digit => digit.toNat - '0'.toNat)

/-- A signed decimal number and what it stands for: an optional sign, then digits. -/
inductive SignedDecimal : List Char → Int → Prop
  | unsigned {digits : List Char} (h : DigitRun digits) : SignedDecimal digits (decimalValue digits)
  | plus {digits : List Char} (h : DigitRun digits) :
      SignedDecimal ('+' :: digits) (decimalValue digits)
  | minus {digits : List Char} (h : DigitRun digits) :
      SignedDecimal ('-' :: digits) (-decimalValue digits)

/-- A text is a percentage: a signed decimal number and a percent sign, with blanks around. -/
def Percentage (percent : Int) (text : List Char) : Prop :=
  ∃ number, SignedDecimal number percent ∧ BlanksAround (number ++ ['%']) text

/-- The share of a zone in a total: the total over the number of zones, and one more in as many first zones
as remain over. -/
def evenShare (zone zones total : Nat) : Nat :=
  total / zones + if zone < total % zones then 1 else 0

/-- The value of a run of digits is the sum of its digits by weight. -/
theorem digits_value_eq (digits : List Char) : digitsValue digits = decimalValue digits := by
  unfold digitsValue decimalValue
  rw [Nat.ofDigits_eq_foldr, List.foldr_map, List.foldr_reverse]
  congr 1
  funext value digit
  rw [Nat.cast_id, Nat.mul_comm, Nat.add_comm]
  rfl

/-- A number is read off a run of digits, and off nothing else. -/
theorem read_digits_iff {digits : List Char} {number value : Int} :
    (if digits.isEmpty || !digits.all Char.isDigit then none else some number) = some value ↔
      DigitRun digits ∧ number = value := by
  by_cases hempty : digits = []
  · simp [DigitRun, hempty]
  · by_cases hdigits : digits.all Char.isDigit = true
    · simp [DigitRun, hempty, hdigits]
    · simp [DigitRun, hdigits]

/-- After a plus, all of a number is digits. -/
theorem signed_number_plus (digits : List Char) :
    signedNumber? ('+' :: digits) =
      if digits.isEmpty || !digits.all Char.isDigit then none else some (digitsValue digits : Int) :=
  rfl

/-- After a minus, all of a number is digits, and they count down from zero. -/
theorem signed_number_minus (digits : List Char) :
    signedNumber? ('-' :: digits) =
      if digits.isEmpty || !digits.all Char.isDigit then none else some (-digitsValue digits : Int) :=
  rfl

/-- Without a sign, all of a number is digits. -/
theorem signed_number_unsigned {text : List Char} (h : StartsOutside isSign text) :
    signedNumber? text =
      if text.isEmpty || !text.all Char.isDigit then none else some (digitsValue text : Int) := by
  unfold signedNumber?
  split
  rename_i negative digits hparts
  split at hparts
  · exact absurd (h _ rfl) (by decide)
  · exact absurd (h _ rfl) (by decide)
  · obtain ⟨rfl, rfl⟩ := Prod.mk.inj hparts
    rfl

/-- A text starts with a plus, with a minus or with no sign. -/
theorem exists_sign_or_starts_outside (text : List Char) :
    (∃ rest, text = '+' :: rest) ∨ (∃ rest, text = '-' :: rest) ∨ StartsOutside isSign text := by
  cases text with
  | nil => exact .inr (.inr .nil)
  | cons first rest =>
      by_cases hplus : first = '+'
      · exact .inl ⟨rest, by rw [hplus]⟩
      · by_cases hminus : first = '-'
        · exact .inr (.inl ⟨rest, by rw [hminus]⟩)
        · exact .inr (.inr (.cons (by simp [isSign, hplus, hminus]) rest))

/-- Reading a signed decimal number accepts exactly those, with what they stand for. -/
theorem signed_number_eq_some_iff {text : List Char} {value : Int} :
    signedNumber? text = some value ↔ SignedDecimal text value := by
  constructor
  · intro h
    rcases exists_sign_or_starts_outside text with ⟨digits, rfl⟩ | ⟨digits, rfl⟩ | hunsigned
    · rw [signed_number_plus, read_digits_iff, digits_value_eq] at h
      obtain ⟨hrun, rfl⟩ := h
      exact .plus hrun
    · rw [signed_number_minus, read_digits_iff, digits_value_eq] at h
      obtain ⟨hrun, rfl⟩ := h
      exact .minus hrun
    · rw [signed_number_unsigned hunsigned, read_digits_iff, digits_value_eq] at h
      obtain ⟨hrun, rfl⟩ := h
      exact .unsigned hrun
  · rintro (hrun | hrun | hrun)
    · have hunsigned := hrun.starts_outside is_sign_of_is_digit []
      rw [List.append_nil] at hunsigned
      rw [signed_number_unsigned hunsigned, read_digits_iff, digits_value_eq]
      exact ⟨hrun, rfl⟩
    · rw [signed_number_plus, read_digits_iff, digits_value_eq]
      exact ⟨hrun, rfl⟩
    · rw [signed_number_minus, read_digits_iff, digits_value_eq]
      exact ⟨hrun, rfl⟩

/-- The text before a percent sign is what the sign is dropped from. -/
theorem drop_percent_eq_some_iff {text number : List Char} :
    dropPercent? text = some number ↔ text = number ++ ['%'] := by
  unfold dropPercent?
  split
  · rename_i hlast
    obtain ⟨before, rfl⟩ := List.getLast?_eq_some_iff.1 hlast
    simp
  · rename_i hlast
    simp only [reduceCtorEq, false_iff]
    rintro rfl
    exact hlast (by simp)

/-- A signed decimal number starts with no blank. -/
theorem SignedDecimal.starts_outside {number : List Char} {value : Int} (h : SignedDecimal number value)
    (rest : List Char) : StartsOutside isBlank (number ++ rest) := by
  cases h with
  | unsigned h => exact h.starts_outside is_blank_of_is_digit rest
  | plus h => exact .cons (by decide) _
  | minus h => exact .cons (by decide) _

/-- The number that is read before a percent sign is that of the percentage which the text is. -/
theorem percentage_iff {text : List Char} {percent : Int} :
    (dropPercent? (trimChars text)).bind signedNumber? = some percent ↔ Percentage percent text := by
  unfold Percentage
  simp only [Option.bind_eq_some_iff, drop_percent_eq_some_iff, signed_number_eq_some_iff]
  constructor
  · rintro ⟨number, htrim, hnumber⟩
    exact ⟨number, hnumber, htrim ▸ blanks_around_trim_chars text⟩
  · rintro ⟨number, hnumber, hblanks⟩
    refine ⟨number, hblanks.trim_chars_eq (hnumber.starts_outside _) ?_, hnumber⟩
    rw [List.reverse_append]
    exact .cons (by decide) _

/-- A text is a percentage of one number at most. -/
theorem Percentage.unique {text : List Char} {percent other : Int} (h : Percentage percent text)
    (hother : Percentage other text) : percent = other :=
  Option.some.inj ((percentage_iff.2 h).symm.trans (percentage_iff.2 hother))

/-- The part of a count that a percentage stands for, rounded down. -/
theorem floor_eq_fdiv (reference percent : Int) :
    ⌊(reference * percent : ℚ) / 100⌋ = (reference * percent).fdiv 100 := by
  rw [Int.fdiv_eq_ediv_of_nonneg _ (by omega)]
  exact_mod_cast Rat.floor_intCast_div_natCast (reference * percent) 100

/-- A product fits 64 bits if its hundredth, rounded down, fits 32 bits. -/
theorem fits_of_hundredth {product : Int} (h : Fits 32 (product.fdiv 100)) : Fits 64 product := by
  rw [Int.fdiv_eq_ediv_of_nonneg _ (by omega)] at h
  unfold Fits at h ⊢
  omega

/-- A percentage that fits 64 bits is resolved to its part of the reference count, if that fits 32 bits. -/
theorem resolve_percentage_of_fits {text : List Char} {percent : Int} (h : Percentage percent text)
    (hfits : Fits 64 percent) (reference : Int) :
    resolvePercentage text reference =
      if Fits 32 ((reference * percent).fdiv 100) then .ok ((reference * percent).fdiv 100)
      else .error .overflow := by
  obtain ⟨number, hdrop, hnumber⟩ := Option.bind_eq_some_iff.1 (percentage_iff.2 h)
  have hfilter : (signedNumber? number).filter fitsInt64 = some percent :=
    Option.filter_eq_some_iff.2 ⟨hnumber, fits_int64_iff.2 hfits⟩
  unfold resolvePercentage
  simp only [hdrop, hfilter, Bool.and_eq_true, fits_int32_iff, fits_int64_iff]
  by_cases hpart : Fits 32 ((reference * percent).fdiv 100)
  · rw [if_pos ⟨fits_of_hundredth hpart, hpart⟩, if_pos hpart]
  · rw [if_neg fun hboth => hpart hboth.2, if_neg hpart]

/-- A text that is no percentage of a number of 64 bits is refused as having no percent sign at its end, or
else no such number before it. -/
theorem resolve_percentage_of_not_fits {text : List Char}
    (h : ∀ percent, Percentage percent text → ¬Fits 64 percent) (reference : Int) :
    resolvePercentage text reference =
      .error (if (dropPercent? (trimChars text)).isSome then .notInteger else .notPercentage) := by
  unfold resolvePercentage
  cases hdrop : dropPercent? (trimChars text) with
  | none => rfl
  | some number =>
      have hnone : (signedNumber? number).filter fitsInt64 = none := by
        refine Option.filter_eq_none_iff.2 fun percent hnumber hfits => ?_
        exact h percent (percentage_iff.1 (Option.bind_eq_some_iff.2 ⟨number, hdrop, hnumber⟩))
          (fits_int64_iff.1 hfits)
      simp only [hnone, Option.isSome_some, if_true]

/-- The percent sign is dropped from a text exactly if the text has one at its end, blanks apart. -/
theorem drop_percent_is_some_iff {text : List Char} :
    (dropPercent? (trimChars text)).isSome = true ↔ ∃ number, BlanksAround (number ++ ['%']) text := by
  simp only [Option.isSome_iff_exists, drop_percent_eq_some_iff]
  constructor
  · rintro ⟨number, htrim⟩
    exact ⟨number, htrim ▸ blanks_around_trim_chars text⟩
  · rintro ⟨number, before, after, hbefore, hafter⟩
    -- Blanks that the number starts with are taken for blanks before it.
    have hsplit : before ++ (number ++ ['%']) ++ after =
        before ++ number.takeWhile isBlank ++ (number.dropWhile isBlank ++ ['%']) ++ after := by
      conv_lhs => rw [← List.takeWhile_append_dropWhile (p := isBlank) (l := number)]
      simp only [List.append_assoc]
    have hall : (before ++ number.takeWhile isBlank).all isBlank = true := by
      rw [List.all_append, hbefore, List.all_takeWhile]
      rfl
    have hblanks : BlanksAround (number.dropWhile isBlank ++ ['%']) _ := .around _ _ hall hafter
    rw [← hsplit] at hblanks
    refine ⟨_, hblanks.trim_chars_eq (.append (.drop_while isBlank number) ?_) ?_⟩
    · exact .cons (by decide) _
    · rw [List.reverse_append]
      exact .cons (by decide) _

/-- Why a text cannot be resolved against a reference count: no percent sign stands at its end, no number of
64 bits before it, or the part of the count, rounded down, does not fit 32 bits. -/
inductive Unresolvable (reference : Int) (text : List Char) : BoundFault → Prop
  | notPercentage (h : ¬∃ number, BlanksAround (number ++ ['%']) text) :
      Unresolvable reference text .notPercentage
  | notInteger (hsign : ∃ number, BlanksAround (number ++ ['%']) text)
      (h : ∀ percent, Percentage percent text → ¬Fits 64 percent) :
      Unresolvable reference text .notInteger
  | overflow {percent : Int} (hpercent : Percentage percent text) (hfits : Fits 64 percent)
      (h : ¬Fits 32 ⌊(reference * percent : ℚ) / 100⌋) : Unresolvable reference text .overflow

/-- A text that is a percentage of a number of 64 bits cannot be resolved only where the part of the reference
count does not fit 32 bits. -/
theorem Unresolvable.overflow_of_fits {reference : Int} {text : List Char} {fault : BoundFault}
    (h : Unresolvable reference text fault) {percent : Int} (hpercent : Percentage percent text)
    (hfits : Fits 64 percent) :
    fault = .overflow ∧ ¬Fits 32 ⌊(reference * percent : ℚ) / 100⌋ := by
  cases h with
  | notPercentage h =>
      obtain ⟨number, _, hblanks⟩ := hpercent
      exact absurd ⟨number, hblanks⟩ h
  | notInteger _ h => exact absurd hfits (h percent hpercent)
  | overflow hsame _ h => exact ⟨rfl, hpercent.unique hsame ▸ h⟩

/-- Resolving a text succeeds exactly if it is a percentage whose number fits 64 bits and the part of the
reference count, rounded down, fits 32 bits; that part is then the result. -/
theorem resolve_percentage_eq_ok_iff {text : List Char} {reference total : Int} :
    resolvePercentage text reference = .ok total ↔
      ∃ percent, Percentage percent text ∧ Fits 64 percent ∧
        Fits 32 total ∧ total = ⌊(reference * percent : ℚ) / 100⌋ := by
  by_cases hsome : ∃ percent, Percentage percent text ∧ Fits 64 percent
  · obtain ⟨percent, hpercent, hfits⟩ := hsome
    rw [resolve_percentage_of_fits hpercent hfits, ← floor_eq_fdiv]
    constructor
    · intro h
      split at h
      · rename_i hpart
        obtain rfl := Except.ok.inj h
        exact ⟨percent, hpercent, hfits, hpart, rfl⟩
      · cases h
    · rintro ⟨other, hother, _, hpart, rfl⟩
      obtain rfl := hpercent.unique hother
      rw [if_pos hpart]
  · rw [not_exists] at hsome
    rw [resolve_percentage_of_not_fits fun percent hpercent hfits => hsome percent ⟨hpercent, hfits⟩]
    simp only [reduceCtorEq, false_iff]
    rintro ⟨percent, hpercent, hfits, _⟩
    exact hsome percent ⟨hpercent, hfits⟩

/-- Resolving a text succeeds exactly if it is a percentage, and all numbers fit. -/
theorem exists_resolve_percentage_eq_ok_iff {text : List Char} {reference : Int} :
    (∃ total, resolvePercentage text reference = .ok total) ↔
      ∃ percent, Percentage percent text ∧ Fits 64 percent ∧
        Fits 32 ⌊(reference * percent : ℚ) / 100⌋ := by
  simp only [resolve_percentage_eq_ok_iff]
  constructor
  · rintro ⟨_, percent, hpercent, hfits, hpart, rfl⟩
    exact ⟨percent, hpercent, hfits, hpart⟩
  · rintro ⟨percent, hpercent, hfits, hpart⟩
    exact ⟨_, percent, hpercent, hfits, hpart, rfl⟩

/-- Resolving a text fails with a fault exactly if the text cannot be resolved for that reason. -/
theorem resolve_percentage_eq_error_iff {text : List Char} {reference : Int} {fault : BoundFault} :
    resolvePercentage text reference = .error fault ↔ Unresolvable reference text fault := by
  by_cases hsome : ∃ percent, Percentage percent text ∧ Fits 64 percent
  · obtain ⟨percent, hpercent, hfits⟩ := hsome
    rw [resolve_percentage_of_fits hpercent hfits, ← floor_eq_fdiv]
    constructor
    · intro h
      split at h
      · cases h
      · rename_i hpart
        obtain rfl := Except.error.inj h
        exact .overflow hpercent hfits hpart
    · intro h
      obtain ⟨rfl, hpart⟩ := h.overflow_of_fits hpercent hfits
      rw [if_neg hpart]
  · have hnone : ∀ percent, Percentage percent text → ¬Fits 64 percent :=
      fun percent hpercent hfits => hsome ⟨percent, hpercent, hfits⟩
    rw [resolve_percentage_of_not_fits hnone, Except.error.injEq]
    constructor
    · rintro rfl
      split
      · rename_i hsign
        exact .notInteger (drop_percent_is_some_iff.1 hsign) hnone
      · rename_i hsign
        exact .notPercentage (mt drop_percent_is_some_iff.2 hsign)
    · intro h
      cases h with
      | notPercentage h => exact if_neg (mt drop_percent_is_some_iff.1 h)
      | notInteger hsign _ => exact if_pos (drop_percent_is_some_iff.2 hsign)
      | overflow hpercent hfits _ => exact absurd hfits (hnone _ hpercent)

/-- What a bound stands for: itself, or its percentage of the reference count, rounded down. -/
inductive StandsFor (reference : Int) : IntOrText → Int → Prop
  | count (value : Int32) : StandsFor reference (.int value) value.toInt
  | percentage {text : String} {percent : Int} (h : Percentage percent text.toList) :
      StandsFor reference (.text text) ⌊(reference * percent : ℚ) / 100⌋

/-- A percentage stands for its part of the reference count as whole numbers are divided. -/
theorem stands_for_of_percentage {text : String} {percent : Int} (h : Percentage percent text.toList)
    (reference : Int) : StandsFor reference (.text text) ((reference * percent).fdiv 100) := by
  rw [← floor_eq_fdiv]
  exact .percentage h

namespace StandsFor

variable {reference total other : Int}

/-- A bound stands for one count at most. -/
theorem unique {bound : IntOrText} (h : StandsFor reference bound total)
    (hother : StandsFor reference bound other) : total = other := by
  cases h with
  | count value =>
      cases hother with
      | count => rfl
  | percentage hpercent =>
      cases hother with
      | percentage hsame => rw [hpercent.unique hsame]

/-- A percentage of at most a hundred of a count is at most the count. -/
theorem le_reference {text : String} {percent : Int} (h : StandsFor reference (.text text) total)
    (hpercent : Percentage percent text.toList) (hhigh : percent ≤ 100) (hreference : 0 ≤ reference) :
    total ≤ reference := by
  rw [h.unique (stands_for_of_percentage hpercent reference), Int.fdiv_eq_ediv_of_nonneg _ (by omega)]
  exact Int.ediv_le_of_le_mul (by omega) (Int.mul_le_mul_of_nonneg_left hhigh hreference)

end StandsFor

/-- Resolving a text gives what resolving it as a percentage gives. -/
theorem resolve_text_eq_ok_iff {text : String} {reference : Int32} {total : Int} :
    resolveBound (.text text) reference = .ok total ↔
      resolvePercentage text.toList reference.toInt = .ok total := by
  unfold resolveBound
  dsimp only
  cases resolvePercentage text.toList reference.toInt with
  | error fault => simp
  | ok total => simp

/-- What a bound is resolved to is what it stands for, and fits 32 bits. -/
theorem resolve_bound_eq_ok {bound : IntOrText} {reference : Int32} {total : Int}
    (h : resolveBound bound reference = .ok total) :
    Fits 32 total ∧ StandsFor reference.toInt bound total := by
  cases bound with
  | int value =>
      obtain rfl := Except.ok.inj h
      exact ⟨fits_to_int value, .count value⟩
  | text text =>
      obtain ⟨percent, hpercent, _, hfits, rfl⟩ :=
        resolve_percentage_eq_ok_iff.1 (resolve_text_eq_ok_iff.1 h)
      exact ⟨hfits, .percentage hpercent⟩

/-- The share of a zone in a bound that cannot be resolved fails like resolving it. -/
theorem bound_share_eq_error_iff {zone zones : Int} {bound : IntOrText} {reference : Int32}
    {failure : Failure} :
    boundShare zone bound zones reference = .error failure ↔
      resolveBound bound reference = .error failure := by
  unfold boundShare
  cases resolveBound bound reference with
  | error other => simp [Except.map]
  | ok total => simp [Except.map]

/-- The share of a zone is even: no total counts as a total of none. -/
theorem share_eq_even_share {zone zones : Nat} (h : zone < zones) (total : Int) :
    share zone total zones = evenShare zone zones total.toNat := by
  unfold share evenShare
  by_cases htotal : total ≤ 0
  · rw [if_pos (.inr htotal), Int.toNat_eq_zero.2 htotal]
    simp
  · obtain ⟨count, rfl⟩ := Int.eq_ofNat_of_zero_le (by omega : 0 ≤ total)
    rw [if_neg (by omega), Int.toNat_natCast]
    split
    · rename_i hmore
      rw [if_pos (by omega)]
      rfl
    · rename_i hmore
      rw [if_neg (by omega)]
      rfl

/-- The share of a zone in a text that bounds a pool. The share can be had exactly if the text is a percentage
of a number that fits 64 bits and the part of the reference count, rounded down, fits 32 bits. It is then
an even share in that part, a negative part counting as none. Whether there is a share, and what fails
otherwise, is the same for every zone out of any number of zones. -/
theorem text_bound_shares (text : String) (reference : Int32) {zone zones : Nat} (hzone : zone < zones) :
    (∀ result, boundShare zone (.text text) zones reference = .ok result ↔
      ∃ percent : Int, Percentage percent text.toList ∧ Fits 64 percent ∧
        Fits 32 ⌊(reference.toInt * percent : ℚ) / 100⌋ ∧
        result.toInt = evenShare zone zones ⌊(reference.toInt * percent : ℚ) / 100⌋.toNat) ∧
      ∀ (other others : Int) (failure : Failure),
        boundShare zone (.text text) zones reference = .error failure ↔
          boundShare other (.text text) others reference = .error failure := by
  refine ⟨fun result => ?_, fun other others failure => ?_⟩
  · unfold boundShare
    rw [map_eq_ok_iff]
    simp only [resolve_text_eq_ok_iff, resolve_percentage_eq_ok_iff]
    constructor
    · rintro ⟨_, ⟨percent, hpercent, hfits, hpart, rfl⟩, rfl⟩
      refine ⟨percent, hpercent, hfits, hpart, ?_⟩
      rw [to_int_share (by omega) (by omega) hpart, share_eq_even_share hzone]
    · rintro ⟨percent, hpercent, hfits, hpart, hresult⟩
      refine ⟨_, ⟨percent, hpercent, hfits, hpart, rfl⟩, ?_⟩
      rw [← Int32.toInt_inj, to_int_share (by omega) (by omega) hpart, share_eq_even_share hzone,
        hresult]
  · rw [bound_share_eq_error_iff, bound_share_eq_error_iff]

/-- Of seven machines below zero, minus fifty percent are three whole ones; the first of two zones has two
of them. -/
theorem negative_percentage_shared :
    0 < 2 ∧ boundShare (0 : Nat) (.text " -50%\n") (2 : Nat) (-7) = .ok 2 := by
  have hblanks : BlanksAround ("-50".toList ++ ['%']) " -50%\n".toList :=
    .around [' '] ['\n'] (by decide) (by decide)
  have hnumber : SignedDecimal "-50".toList (-50) := .minus ⟨by decide, by decide⟩
  refine ⟨by decide, ((text_bound_shares " -50%\n" (-7) (by decide)).1 2).2
    ⟨-50, ⟨_, hnumber, hblanks⟩, by decide, ?_, ?_⟩⟩
  · rw [floor_eq_fdiv]
    decide
  · rw [floor_eq_fdiv]
    decide

end ShootMachines.Pool
