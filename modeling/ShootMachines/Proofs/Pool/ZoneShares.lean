import Mathlib.Algebra.Order.Ring.Int
import Mathlib.Algebra.BigOperators.Group.List.Basic
import Mathlib.Data.Int.Order.Basic
import ShootMachines.Pool.Distribution
import ShootMachines.Proofs.Results

/-!
# Shares of zones

The shares of all zones in a total are spread evenly (`Pool.spreads_shares`): they add up to the total,
none is negative, none exceeds that of an earlier zone, and no two differ by more than one. Most of it
follows from one formula for a share (`Pool.share_eq_ediv`), which also shows that a greater total gives
no zone less. Of a total that fits 32 bits, every step on the way to a share does (`Pool.checked_share_eq`).
-/

namespace ShootMachines.Pool

variable {zone total zones : Int}

/-- The total over the number of zones, rounded up for the first zones and down for the others. -/
theorem share_eq_ediv (hzone : 0 ≤ zone) (hzones : zone < zones) :
    share zone total zones = (max 0 total + (zones - 1 - zone)) / zones := by
  have hpositive : 0 < zones := by omega
  unfold share
  by_cases htotal : total ≤ 0
  · rw [if_pos (Or.inr htotal), max_eq_left htotal, zero_add]
    exact (Int.ediv_eq_zero_of_lt (by omega) (by omega)).symm
  · rw [if_neg (by omega), max_eq_right (by omega)]
    have hdivide : total % zones + zones * (total / zones) = total := Int.emod_add_mul_ediv ..
    have hsplit : total + (zones - 1 - zone) =
        total % zones + (zones - 1 - zone) + zones * (total / zones) := by omega
    rw [hsplit, Int.add_mul_ediv_left _ _ (by omega)]
    have hlow : 0 ≤ total % zones := Int.emod_nonneg _ (by omega)
    have hhigh : total % zones < zones := Int.emod_lt_of_pos _ hpositive
    split
    -- What remains over reaches this zone, so the rest of the division is one more whole share.
    · rename_i hreached
      have hone : total % zones + (zones - 1 - zone) =
          total % zones - 1 - zone + zones * 1 := by omega
      have hzero : (total % zones - 1 - zone) / zones = 0 :=
        Int.ediv_eq_zero_of_lt (by omega) (by omega)
      rw [hone, Int.add_mul_ediv_left _ _ (by omega), hzero]
      omega
    · have hzero : (total % zones + (zones - 1 - zone)) / zones = 0 :=
        Int.ediv_eq_zero_of_lt (by omega) (by omega)
      rw [hzero, zero_add]

/-- No share is negative. -/
theorem share_nonneg (hzone : 0 ≤ zone) (hzones : zone < zones) : 0 ≤ share zone total zones := by
  rw [share_eq_ediv hzone hzones]
  exact Int.ediv_nonneg (by omega) (by omega)

/-- A greater total gives no zone less. -/
theorem share_mono {other : Int} (hzone : 0 ≤ zone) (hzones : zone < zones) (h : total ≤ other) :
    share zone total zones ≤ share zone other zones := by
  rw [share_eq_ediv hzone hzones, share_eq_ediv hzone hzones]
  exact Int.ediv_le_ediv (by omega) (by omega)

/-- No zone has more than an earlier one. -/
theorem share_anti {later : Int} (hzone : 0 ≤ zone) (horder : zone ≤ later) (hzones : later < zones) :
    share later total zones ≤ share zone total zones := by
  rw [share_eq_ediv hzone (by omega), share_eq_ediv (by omega) hzones]
  exact Int.ediv_le_ediv (by omega) (by omega)

/-- No zone has two more than another one. -/
theorem share_le_add_one {other : Int} (hzone : 0 ≤ zone) (hzones : zone < zones)
    (hother : 0 ≤ other) (hothers : other < zones) :
    share zone total zones ≤ share other total zones + 1 := by
  have hone : max 0 total + (zones - 1 - other) + zones * 1 =
      max 0 total + (zones - 1 - other) + zones := by omega
  rw [share_eq_ediv hzone hzones, share_eq_ediv hother hothers,
    ← Int.add_mul_ediv_left _ 1 (by omega), hone]
  exact Int.ediv_le_ediv (by omega) (by omega)

/-- A share in a total that is not negative is at most the total. -/
theorem share_le (hzone : 0 ≤ zone) (hzones : zone < zones) :
    share zone total zones ≤ max 0 total := by
  rw [share_eq_ediv hzone hzones]
  refine Int.lt_add_one_iff.1 (Int.ediv_lt_of_lt_mul (by omega) ?_)
  have hgrow : max 0 total * 1 ≤ max 0 total * zones :=
    Int.mul_le_mul_of_nonneg_left (by omega) (by omega)
  rw [Int.add_mul]
  omega

/-- The shares in a total, in the order of the zones. -/
def shares (total : Int) (zones : Nat) : List Int :=
  (List.range zones).map fun zone : Nat => share zone total zones

/-- A list of shares spreads a total evenly. A negative total is spread like none. -/
structure Spreads (total : Int) (shares : List Int) : Prop where
  sum_eq : shares.sum = max 0 total
  nonneg : ∀ share ∈ shares, 0 ≤ share
  descending : shares.Pairwise (· ≥ ·)
  level : ∀ first ∈ shares, ∀ second ∈ shares, first ≤ second + 1

/-- As many of the first zones as remain over have one more. -/
theorem sum_range_one_more (base : Int) (remaining count : Nat) :
    ((List.range count).map fun zone : Nat =>
      if (zone : Int) < remaining then base + 1 else base).sum =
        count * base + min count remaining := by
  induction count with
  | zero => simp
  | succ count ih =>
      rw [List.range_succ, List.map_append, List.sum_append, ih]
      simp only [List.map_cons, List.map_nil, List.sum_cons, List.sum_nil, add_zero]
      have hgrow : ((count + 1 : Nat) : Int) * base = count * base + base := by
        rw [Nat.cast_succ, add_mul, one_mul]
      rw [hgrow]
      split <;> omega

/-- The shares of all zones add up to the total. -/
theorem sum_shares {zones : Nat} (hzones : 0 < zones) (total : Int) :
    (shares total zones).sum = max 0 total := by
  unfold shares share
  by_cases htotal : total ≤ 0
  · simp [htotal]
  · obtain ⟨count, rfl⟩ := Int.eq_ofNat_of_zero_le (by omega : 0 ≤ total)
    have hsome : ¬((zones : Int) ≤ 0 ∨ (count : Int) ≤ 0) := by omega
    simp only [if_neg hsome]
    have hremaining : count % zones < zones := Nat.mod_lt _ hzones
    have hdivide : zones * (count / zones) + count % zones = count := Nat.div_add_mod ..
    have hsum := sum_range_one_more ((count : Int) / zones) (count % zones) zones
    rw [Int.natCast_mod] at hsum
    rw [hsum, max_eq_right (by omega), Nat.min_eq_right hremaining.le]
    exact_mod_cast hdivide

/-- The shares of all zones spread the total evenly. -/
theorem spreads_shares {zones : Nat} (hzones : 0 < zones) (total : Int) :
    Spreads total (shares total zones) := by
  have hmem {share : Int} (h : share ∈ shares total zones) :
      ∃ zone : Nat, zone < zones ∧ Pool.share zone total zones = share := by
    simpa [shares] using h
  refine ⟨sum_shares hzones total, fun share hshare => ?_, ?_, fun first hfirst second hsecond => ?_⟩
  · obtain ⟨zone, hzone, rfl⟩ := hmem hshare
    exact share_nonneg (by omega) (by omega)
  · unfold shares
    rw [List.pairwise_map]
    refine (List.pairwise_lt_range).imp_of_mem fun {earlier later} _ hlater horder => ?_
    have hbound : later < zones := List.mem_range.1 hlater
    exact share_anti (by omega) (by omega) (by omega)
  · obtain ⟨zone, hzone, rfl⟩ := hmem hfirst
    obtain ⟨other, hother, rfl⟩ := hmem hsecond
    exact share_le_add_one (by omega) (by omega) (by omega) (by omega)

/-- A whole number, of either sign, fits a number of bits. -/
def Fits (bits : Nat) (value : Int) : Prop :=
  -2 ^ (bits - 1) ≤ value ∧ value < 2 ^ (bits - 1)

instance (bits : Nat) (value : Int) : Decidable (Fits bits value) :=
  inferInstanceAs (Decidable (_ ∧ _))

/-- What is tested for 32 bits fits them. -/
theorem fits_int32_iff {value : Int} : fitsInt32 value = true ↔ Fits 32 value :=
  decide_eq_true_iff

/-- What is tested for 64 bits fits them. -/
theorem fits_int64_iff {value : Int} : fitsInt64 value = true ↔ Fits 64 value :=
  decide_eq_true_iff

/-- A number of 32 bits fits them. -/
theorem fits_to_int (value : Int32) : Fits 32 value.toInt :=
  ⟨value.le_toInt, value.toInt_lt⟩

/-- A number of 32 bits as the result of an operation, if it fits. -/
def exact32 (value : Int) : Option Int :=
  if Fits 32 value then some value else none

/-- The share of a zone by operations on 32 bits: dividing, taking what remains over, and adding one.
There is none if the result of an operation does not fit. -/
def checkedShare (zone total zones : Int) : Option Int :=
  if zones ≤ 0 ∨ total ≤ 0 then some 0
  else do
    let base ← exact32 (total.tdiv zones)
    let remaining ← exact32 (total.tmod zones)
    if zone < remaining then exact32 (base + 1) else some base

/-- No operation on the way to the share in a total of 32 bits overflows. -/
theorem checked_share_eq (hzone : 0 ≤ zone) (hzones : zone < zones) (hcount : Fits 32 zones)
    (htotal : Fits 32 total) :
    checkedShare zone total zones = some (share zone total zones) := by
  unfold Fits at hcount htotal
  have hleast : 0 ≤ share zone total zones := share_nonneg hzone hzones
  have hmost : share zone total zones ≤ max 0 total := share_le hzone hzones
  unfold checkedShare
  unfold share at hleast hmost ⊢
  split
  · rfl
  · rename_i hsome
    rw [if_neg hsome] at hleast hmost
    have hbase : 0 ≤ total / zones := Int.ediv_nonneg (by omega) (by omega)
    have hbaseLe : total / zones ≤ total := Int.ediv_le_self _ (by omega)
    have hremaining : 0 ≤ total % zones := Int.emod_nonneg _ (by omega)
    have hremainingLt : total % zones < zones := Int.emod_lt_of_pos _ (by omega)
    rw [Int.tdiv_eq_ediv_of_nonneg (by omega), Int.tmod_eq_emod_of_nonneg (by omega)]
    unfold exact32
    rw [if_pos ⟨by omega, by omega⟩, if_pos ⟨by omega, by omega⟩]
    simp only [Option.bind_eq_bind, Option.bind_some]
    split
    · rename_i hmore
      rw [if_pos hmore] at hleast hmost
      exact if_pos ⟨by omega, by omega⟩
    · rfl

/-- A share in a total of 32 bits is a number of 32 bits. -/
theorem to_int_share (hzone : 0 ≤ zone) (hzones : zone < zones) (htotal : Fits 32 total) :
    (Int32.ofInt (share zone total zones)).toInt = share zone total zones := by
  unfold Fits at htotal
  have hleast : 0 ≤ share zone total zones := share_nonneg hzone hzones
  have hmost : share zone total zones ≤ max 0 total := share_le hzone hzones
  exact Int32.toInt_ofInt_of_le (by omega) (by omega)

end ShootMachines.Pool
