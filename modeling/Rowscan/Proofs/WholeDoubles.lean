import Mathlib.Algebra.Order.Group.Nat
import Mathlib.Tactic.SplitIfs
import Rowscan.Proofs.Rounding

/-!
The doubles nearest to whole numbers. Rounding never passes a magnitude that a double has
(`le_roundUnits`), so it keeps the order of whole numbers; the double nearest to a whole number is
whole itself (`one_dvd_roundUnits`), and up to 2^53 it is that number (`nearest_of_le`). Beyond, it
may be a smaller one.
-/
namespace Rowscan.Double

/-! ## Bounds on rounding -/

private theorem roundUnits_one (n : Nat) :
    roundUnits n 1 = nearestQuotient n (spacing n) * spacing n := by
  rw [roundUnits, Nat.div_one, Nat.one_mul]

private theorem le_nearestQuotient (num den : Nat) : num / den ≤ nearestQuotient num den := by
  simp only [nearestQuotient]
  split_ifs <;> omega

private theorem nearestQuotient_le (num den : Nat) : nearestQuotient num den ≤ num / den + 1 := by
  simp only [nearestQuotient]
  split_ifs <;> omega

/-- Rounding does not pass a multiple of the gap on its way down. -/
theorem le_roundUnits_of_dvd {n bound : Nat} (multiple : spacing n ∣ bound) (le : bound ≤ n) :
    bound ≤ roundUnits n 1 := by
  obtain ⟨count, rfl⟩ := multiple
  have counted : count ≤ n / spacing n :=
    (Nat.le_div_iff_mul_le (spacing_pos n)).2 (Nat.mul_comm count _ ▸ le)
  rw [roundUnits_one, Nat.mul_comm]
  exact Nat.mul_le_mul_right _ (counted.trans (le_nearestQuotient n _))

/-- Rounding does not pass a multiple of the gap on its way up. -/
theorem roundUnits_le_of_dvd {n bound : Nat} (multiple : spacing n ∣ bound) (le : n ≤ bound) :
    roundUnits n 1 ≤ bound := by
  rcases Nat.eq_or_lt_of_le le with rfl | less
  · have fits : n % spacing n = 0 := Nat.mod_eq_zero_of_dvd multiple
    have gap := spacing_pos n
    have itself : roundUnits n 1 = n := roundUnits_of_above fits (by omega) (by omega)
    exact itself.le
  · obtain ⟨count, rfl⟩ := multiple
    have counted : n / spacing n < count :=
      (Nat.div_lt_iff_lt_mul (spacing_pos n)).2 (Nat.mul_comm count _ ▸ less)
    rw [roundUnits_one, Nat.mul_comm]
    exact Nat.mul_le_mul_left _ ((nearestQuotient_le n _).trans counted)

private theorem spacing_dvd_two_pow {n exponent : Nat} (large : n.log2 - 52 ≤ exponent) :
    spacing n ∣ 2 ^ exponent := Nat.pow_dvd_pow 2 large

/-- Rounding does not pass a magnitude that a double has. -/
theorem le_roundUnits {units n : Nat} (fits : units % spacing units = 0) (le : units ≤ n) :
    units ≤ roundUnits n 1 := by
  rcases Nat.eq_zero_or_pos units with rfl | positive
  · exact Nat.zero_le _
  by_cases same : units.log2 = n.log2
  · have multiple : spacing n ∣ units := by
      rw [spacing, ← same]
      exact Nat.dvd_of_mod_eq_zero fits
    exact le_roundUnits_of_dvd multiple le
  · -- A power of two lies between the two, and no gap reaches over it.
    have low : 2 ^ units.log2 ≤ n := (Nat.log2_self_le positive.ne').trans le
    have smaller : units.log2 ≤ n.log2 := (Nat.le_log2 (by omega)).2 low
    have below : units < 2 ^ n.log2 :=
      Nat.lt_log2_self.trans_le (Nat.pow_le_pow_right (by decide) (by omega))
    have power : 2 ^ n.log2 ≤ roundUnits n 1 :=
      le_roundUnits_of_dvd (spacing_dvd_two_pow (Nat.sub_le _ _)) (Nat.log2_self_le (by omega))
    exact below.le.trans power

/-- What is rounded is a magnitude that a double has. -/
theorem roundUnits_mod_spacing (n : Nat) :
    roundUnits n 1 % spacing (roundUnits n 1) = 0 := by
  rcases Nat.eq_zero_or_pos n with rfl | positive
  · rfl
  have low : 2 ^ n.log2 ≤ roundUnits n 1 :=
    le_roundUnits_of_dvd (spacing_dvd_two_pow (Nat.sub_le _ _)) (Nat.log2_self_le positive.ne')
  have high : roundUnits n 1 ≤ 2 ^ (n.log2 + 1) :=
    roundUnits_le_of_dvd (spacing_dvd_two_pow (by omega)) Nat.lt_log2_self.le
  rcases Nat.eq_or_lt_of_le high with power | below
  · rw [power]
    refine Nat.mod_eq_zero_of_dvd (spacing_dvd_two_pow ?_)
    rw [Nat.log2_two_pow]
    exact Nat.sub_le _ _
  · have log : (roundUnits n 1).log2 = n.log2 :=
      (Nat.log2_eq_iff (by have := Nat.two_pow_pos n.log2; omega)).2 ⟨low, below⟩
    have gap : spacing (roundUnits n 1) = spacing n := by rw [spacing, log, spacing]
    rw [gap, roundUnits_one, Nat.mul_mod_left]

/-! ## Whole numbers -/

/-- For any exponent, so that the large powers of two are not computed. -/
theorem natPow_two (exponent : Nat) : Nat.pow 2 exponent = 2 ^ exponent := rfl

private theorem one_eq : one = 2 ^ unitExponent := by
  unfold one
  exact natPow_two unitExponent

private theorem log2_mul_one {n : Nat} (positive : n ≠ 0) :
    (n * one).log2 = n.log2 + unitExponent := by
  have nonzero : n * one ≠ 0 := Nat.mul_ne_zero positive one_pos.ne'
  refine (Nat.log2_eq_iff nonzero).2 ⟨?_, ?_⟩
  · rw [Nat.pow_add, one_eq]
    exact Nat.mul_le_mul_right _ (Nat.log2_self_le positive)
  · rw [Nat.add_right_comm, Nat.pow_add, one_eq]
    exact Nat.mul_lt_mul_of_pos_right Nat.lt_log2_self (Nat.two_pow_pos _)

/-- Up to 53 binary digits every whole number is a double. -/
theorem spacing_dvd_of_few {n : Nat} (few : n.log2 ≤ 52) : spacing (n * one) ∣ n * one := by
  rcases Nat.eq_zero_or_pos n with rfl | positive
  · rw [Nat.zero_mul]
    exact Nat.dvd_zero _
  refine Nat.dvd_mul_left_of_dvd ?_ n
  rw [spacing, log2_mul_one positive.ne', one_eq]
  exact Nat.pow_dvd_pow 2 (by omega)

private theorem roundUnits_of_dvd {n : Nat} (multiple : spacing n ∣ n) : roundUnits n 1 = n :=
  Nat.le_antisymm (roundUnits_le_of_dvd multiple le_rfl) (le_roundUnits_of_dvd multiple le_rfl)

/-- The double nearest to a whole number is whole. -/
theorem one_dvd_roundUnits (n : Nat) : one ∣ roundUnits (n * one) 1 := by
  rcases Nat.le_total n.log2 52 with few | many
  · rw [roundUnits_of_dvd (spacing_dvd_of_few few)]
    exact Nat.dvd_mul_left one n
  · have positive : n ≠ 0 := by
      rintro rfl
      simp at many
    have multiple : one ∣ spacing (n * one) := by
      rw [spacing, log2_mul_one positive, one_eq]
      exact Nat.pow_dvd_pow 2 (by omega)
    rw [roundUnits_one]
    exact Nat.dvd_mul_left_of_dvd multiple _

/-- The whole number that the double nearest to `n` is. -/
def nearest (n : Nat) : Nat := roundUnits (n * one) 1 / one

private theorem nearest_mul_one (n : Nat) : nearest n * one = roundUnits (n * one) 1 :=
  Nat.div_mul_cancel (one_dvd_roundUnits n)

/-- Up to 2^53 a whole number is its own double. -/
theorem nearest_of_le {n : Nat} (small : n ≤ 2 ^ 53) : nearest n = n := by
  have multiple : spacing (n * one) ∣ n * one := by
    rcases Nat.eq_or_lt_of_le small with rfl | less
    · rw [one_eq, ← Nat.pow_add]
      refine spacing_dvd_two_pow ?_
      rw [Nat.log2_two_pow]
      exact Nat.sub_le _ _
    · rcases Nat.eq_zero_or_pos n with rfl | positive
      · exact spacing_dvd_of_few (by decide)
      · have log : n.log2 < 53 := (Nat.log2_lt positive.ne').2 less
        exact spacing_dvd_of_few (by omega)
  rw [nearest, roundUnits_of_dvd multiple, Nat.mul_div_cancel _ one_pos]

/-- Rounding does not pass a double. -/
theorem le_nearest {m n : Nat} (le : nearest m ≤ n) : nearest m ≤ nearest n := by
  have units : nearest m * one ≤ roundUnits (n * one) 1 := by
    refine le_roundUnits ?_ (Nat.mul_le_mul_right one le)
    rw [nearest_mul_one]
    exact roundUnits_mod_spacing _
  rw [← nearest_mul_one] at units
  exact Nat.le_of_mul_le_mul_right units one_pos

/-- A double above the one of a number is not below that number. -/
theorem le_nearest_of_lt {m n : Nat} (less : nearest m < nearest n) : m ≤ nearest n := by
  rcases Nat.le_total m (nearest n) with le | above
  · exact le
  · exact absurd (le_nearest above) (Nat.not_le.2 less)

theorem two_pow_le_nearest {n : Nat} (large : 2 ^ 53 ≤ n) : 2 ^ 53 ≤ nearest n := by
  have exponent := nearest_of_le (Nat.le_refl (2 ^ 53))
  have kept : nearest (2 ^ 53) ≤ nearest n := le_nearest (exponent.le.trans large)
  rwa [exponent] at kept

/-! ## Numbers of 64 bits -/

private theorem fits_nearest {n : Nat} (bounded : n < 2 ^ 64) : Fits (nearest n * one) := by
  rw [nearest_mul_one]
  refine ⟨?_, roundUnits_mod_spacing _⟩
  have top : beyond = 2 ^ topExponent := by
    unfold beyond
    exact natPow_two topExponent
  rcases Nat.eq_zero_or_pos n with rfl | positive
  · rw [Nat.zero_mul, roundUnits_of_dvd (Nat.dvd_zero _)]
    exact fits_zero.1
  have high : roundUnits (n * one) 1 ≤ 2 ^ ((n * one).log2 + 1) :=
    roundUnits_le_of_dvd (spacing_dvd_two_pow (by omega)) Nat.lt_log2_self.le
  have log : n.log2 < 64 := (Nat.log2_lt positive.ne').2 bounded
  refine Nat.lt_of_le_of_lt high ?_
  rw [log2_mul_one positive.ne', top]
  refine Nat.pow_lt_pow_right (by decide) ?_
  have unit : unitExponent = 1074 := rfl
  have ceiling : topExponent = 2098 := rfl
  omega

theorem ofInt_natCast {n : Nat} (bounded : n < 2 ^ 64) :
    ofInt n = .finite false (nearest n * one) (fits_nearest bounded) := by
  have sign : decide ((n : Int) < 0) = false := by simp
  rw [ofInt, ofRatio, sign, Int.natAbs_natCast, ← nearest_mul_one, ofUnits,
    dif_pos (fits_nearest bounded)]

theorem isWhole_ofInt {n : Nat} (bounded : n < 2 ^ 64) : (ofInt n).isWhole = true := by
  rw [ofInt_natCast bounded, isWhole, Nat.mul_mod_left, decide_eq_true rfl]

/-- A whole double is held to the greatest number of 64 bits. -/
theorem toInt64_ofInt {n : Nat} (bounded : n < 2 ^ 64) :
    (ofInt n).toInt64.toInt = min (2 ^ 63 - 1) (nearest n) := by
  rw [ofInt_natCast bounded, toInt64, Nat.mul_div_cancel _ one_pos, signed, if_neg Bool.false_ne_true]
  have least : Int64.minValue.toInt = -2 ^ 63 := rfl
  have greatest : Int64.maxValue.toInt = 2 ^ 63 - 1 := rfl
  rw [least, greatest, Int64.toInt_ofInt_of_le (by omega) (by omega)]
  omega

theorem less_of_value? {x y : Double} {a b : Int} (left : x.value? = some a)
    (right : y.value? = some b) : x.less y = decide (a < b) := by
  rw [Bool.eq_iff_iff, decide_eq_true_eq, ← compare_lt_iff_lt]
  simp [less, compare?, left, right]

private theorem value?_ofInt {n : Nat} (bounded : n < 2 ^ 64) :
    (ofInt n).value? = some ((nearest n * one : Nat) : Int) := by
  rw [ofInt_natCast bounded]
  rfl

/-- Whole numbers compare as the doubles nearest to them do. -/
theorem less_ofInt {m n : Nat} (left : m < 2 ^ 64) (right : n < 2 ^ 64) :
    (ofInt m).less (ofInt n) = decide (nearest m < nearest n) := by
  rw [less_of_value? (value?_ofInt left) (value?_ofInt right), Bool.eq_iff_iff, decide_eq_true_eq,
    decide_eq_true_eq, Int.ofNat_lt, Nat.mul_lt_mul_right one_pos]

/-- No number counts as below a negative one. -/
theorem less_ofInt_negative {m : Nat} {n : Int} (bounded : m < 2 ^ 64) (negative : n < 0) :
    (ofInt m).less (ofInt n) = false := by
  have opposite (units : Nat) : signed true units ≤ 0 :=
    Int.neg_nonpos_of_nonneg (Int.natCast_nonneg units)
  have below : ∃ value ≤ 0, (ofInt n).value? = some value := by
    rw [ofInt, ofRatio, decide_eq_true negative, ofUnits]
    split
    · exact ⟨signed true _, opposite _, rfl⟩
    · exact ⟨signed true beyond, opposite beyond, rfl⟩
  obtain ⟨value, nonpositive, held⟩ := below
  rw [less_of_value? (value?_ofInt bounded) held]
  exact decide_eq_false (Int.not_lt.2 (nonpositive.trans (Int.natCast_nonneg _)))

end Rowscan.Double
