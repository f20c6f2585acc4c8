import Mathlib.Algebra.Order.Field.Power
import Mathlib.Data.Rat.Cast.Order
import Mathlib.Tactic.FieldSimp
import Mathlib.Tactic.Linarith
import Mathlib.Tactic.NormNum
import Mathlib.Tactic.Positivity
import Mathlib.Tactic.Ring
import Rowscan.Double.Layout
import Rowscan.Proofs.Numerals
import Rowscan.Proofs.Rounding

/-!
The digits written for a double read back as that double. The search for the shortest digits
takes a decimal number only if it rounds to the magnitude, and with 17 digits the decimal grid is
so fine that one of the two neighbours does round to it (`neighbour?_isSome`); so the search
never runs out (`shortest_spec`). The plain layout only moves the point and adds zeros, which
does not change the number (`read?_positional`). Main statement: the plain text of a finite
double is read as that double (`toNumber?_text`). Whatever the layout, a finite double is written
in the alphabet of numerals (`isNumeralChar_write`).
-/
namespace Rowscan.Double

/-! ## The decimal grid in units -/

/-- A step of `10 ^ scale` is `stepNum scale / stepDen scale` units. -/
def stepNum (scale : Int) : Nat := if 0 ≤ scale then one * Nat.pow 10 scale.toNat else one

/-- See `stepNum`. -/
def stepDen (scale : Int) : Nat := if 0 ≤ scale then 1 else Nat.pow 10 (-scale).toNat

private theorem stepNum_pos (scale : Int) : 0 < stepNum scale := by
  unfold stepNum
  split
  · exact Nat.mul_pos one_pos (Nat.pow_pos (by decide))
  · exact one_pos

private theorem stepDen_pos (scale : Int) : 0 < stepDen scale := by
  unfold stepDen
  split
  · exact Nat.one_pos
  · exact Nat.pow_pos (by decide)

private theorem stepNum_cast (scale : Int) :
    (stepNum scale : ℚ) = one * 10 ^ scale * stepDen scale := by
  unfold stepNum stepDen
  split
  next nonneg =>
    have power : (10 : ℚ) ^ scale = 10 ^ scale.toNat := by
      conv_lhs => rw [← Int.toNat_of_nonneg nonneg]
      exact zpow_natCast 10 scale.toNat
    rw [power]
    simp only [Nat.pow_eq]
    push_cast
    ring
  next negative =>
    have power : (10 : ℚ) ^ scale * 10 ^ (-scale).toNat = 1 := by
      rw [← zpow_natCast, Int.toNat_of_nonneg (by omega), ← zpow_add₀ (by norm_num)]
      simp
    simp only [Nat.pow_eq]
    push_cast
    rw [mul_assoc, power, mul_one]

private theorem inSteps_eq (units : Nat) (scale : Int) :
    inSteps units scale = (units * stepDen scale, stepNum scale) := by
  unfold inSteps stepNum stepDen
  split
  · rw [Nat.mul_one]
  · rfl

private theorem unitsOfDecimal_eq (count : Nat) (scale : Int) :
    unitsOfDecimal count scale = roundUnits (count * stepNum scale) (stepDen scale) := by
  unfold unitsOfDecimal stepNum stepDen
  split
  · rw [Nat.mul_assoc, Nat.mul_comm one]
  · rfl

/-! ## The search succeeds -/

/-- The search looks at the two multiples next to the magnitude and takes one that reads back. -/
theorem neighbour?_eq_some {tie : TieRule} {units : Nat} {scale : Int} {count : Nat}
    (found : neighbour? tie units scale = some count) :
    unitsOfDecimal count scale = units ∧
      (count = units * stepDen scale / stepNum scale ∨
        count = units * stepDen scale / stepNum scale + 1) := by
  simp only [neighbour?, inSteps_eq] at found
  refine ⟨by simpa using List.find?_some found, ?_⟩
  have member := List.mem_of_find?_eq_some found
  split at member
  · simpa using member
  · simpa [or_comm] using member

private theorem neighbour?_isSome_of_reads {tie : TieRule} {units : Nat} {scale : Int}
    (reads : unitsOfDecimal (units * stepDen scale / stepNum scale) scale = units ∨
      unitsOfDecimal (units * stepDen scale / stepNum scale + 1) scale = units) :
    (neighbour? tie units scale).isSome = true := by
  simp only [neighbour?, inSteps_eq, List.find?_isSome, decide_eq_true_eq]
  rcases reads with reads | reads <;> exact ⟨_, by split <;> simp, reads⟩

/-- A magnitude has at most 53 binary digits. -/
theorem lt_spacing (units : Nat) : units < 2 ^ 53 * spacing units := by
  have high : units < 2 ^ (units.log2 + 1) := Nat.lt_log2_self
  have le : 2 ^ (units.log2 + 1) ≤ 2 ^ 53 * 2 ^ (units.log2 - 52) := by
    rw [← Nat.pow_add]
    exact Nat.pow_le_pow_right (by decide) (by omega)
  exact Nat.lt_of_lt_of_le high le

/-- A magnitude is a power of two, or a whole gap above it. -/
theorem eq_or_gap_le {units : Nat} (fits : units % spacing units = 0) (large : 52 < units.log2) :
    units = 2 ^ 52 * spacing units ∨ 2 ^ units.log2 + spacing units ≤ units := by
  have nonzero : units ≠ 0 := by
    rintro rfl
    simp at large
  have power : 2 ^ units.log2 = 2 ^ 52 * spacing units := by
    rw [spacing, Nat.pow_eq, ← Nat.pow_add]
    congr 1
    omega
  have low : 2 ^ units.log2 ≤ units := Nat.log2_self_le nonzero
  obtain ⟨count, total⟩ := Nat.dvd_of_mod_eq_zero fits
  rw [power] at low ⊢
  rcases Nat.lt_or_ge (2 ^ 52) count with more | less
  · right
    have step : spacing units * (2 ^ 52 + 1) ≤ spacing units * count := Nat.mul_le_mul_left _ more
    rw [Nat.mul_add_one, ← total] at step
    omega
  · left
    have bound : spacing units * count ≤ spacing units * 2 ^ 52 := Nat.mul_le_mul_left _ less
    rw [← total] at bound
    omega

/-- With 17 digits the step is smaller than the gap, and one of the two neighbours reads back:
the nearer one, or just above a power of two, where the gap below is too small, the upper one. -/
theorem neighbour?_isSome (tie : TieRule) {units : Nat} {scale : Int}
    (fits : units % spacing units = 0)
    (fine : 10 ^ 16 * stepNum scale ≤ units * stepDen scale) :
    (neighbour? tie units scale).isSome = true := by
  apply neighbour?_isSome_of_reads
  rw [unitsOfDecimal_eq, unitsOfDecimal_eq]
  have stepPositive : 0 < stepNum scale := stepNum_pos scale
  have divided := Nat.div_add_mod' (units * stepDen scale) (stepNum scale)
  have small := Nat.mod_lt (units * stepDen scale) stepPositive
  have wide : units * stepDen scale < 2 ^ 53 * (spacing units * stepDen scale) := by
    rw [← Nat.mul_assoc]
    exact Nat.mul_lt_mul_of_pos_right (lt_spacing units) (stepDen_pos scale)
  set count := units * stepDen scale / stepNum scale
  set rest := units * stepDen scale % stepNum scale
  by_cases near : 2 * rest ≤ stepNum scale
  · by_cases exact : rest = 0
    · left
      exact roundUnits_of_above fits (by omega) (by omega)
    by_cases regular : 2 ^ units.log2 * stepDen scale ≤ count * stepNum scale ∨ units.log2 ≤ 52
    · left
      exact roundUnits_of_below fits (by omega) (by omega) regular
    · right
      rw [not_or, not_le, not_le] at regular
      have power : units = 2 ^ 52 * spacing units := by
        refine (eq_or_gap_le fits regular.2).resolve_right fun gap => ?_
        have below : (2 ^ units.log2 + spacing units) * stepDen scale ≤ units * stepDen scale :=
          Nat.mul_le_mul_right _ gap
        rw [Nat.add_mul] at below
        omega
      have exactPower : units * stepDen scale = 2 ^ 52 * (spacing units * stepDen scale) := by
        conv_lhs => rw [power]
        rw [Nat.mul_assoc]
      rw [Nat.add_one_mul]
      exact roundUnits_of_above fits (by omega) (by omega)
  · right
    rw [Nat.add_one_mul]
    exact roundUnits_of_above fits (by omega) (by omega)

/-! ## The position of the point -/

private theorem lt_pow_decimalLength (n : Nat) : n < 10 ^ decimalLength n :=
  (Nat.length_toDigits_le_iff (by decide) Nat.length_toDigits_pos).1 (Nat.le_refl _)

private theorem pow_decimalLength_le {n : Nat} (positive : 0 < n) :
    10 ^ (decimalLength n - 1) ≤ n := by
  by_contra less
  rcases Nat.eq_zero_or_pos (decimalLength n - 1) with zero | more
  · rw [zero] at less
    omega
  · have shorter := (Nat.length_toDigits_le_iff (by decide) more).2 (not_le.1 less)
    have : decimalLength n ≤ decimalLength n - 1 := shorter
    omega

/-- The point stands right behind the leading digit's power of ten. -/
theorem pointOf_spec {num den : Nat} (numPositive : 0 < num) (denPositive : 0 < den) :
    (10 : ℚ) ^ (pointOf num den - 1) * den ≤ num ∧ (num : ℚ) < 10 ^ pointOf num den * den := by
  unfold pointOf
  split
  next large =>
    have positive : 0 < num / den := Nat.div_pos large denPositive
    have length : 0 < decimalLength (num / den) := Nat.length_toDigits_pos
    have low : 10 ^ (decimalLength (num / den) - 1) * den ≤ num :=
      (Nat.le_div_iff_mul_le denPositive).1 (pow_decimalLength_le positive)
    have high : num < 10 ^ decimalLength (num / den) * den :=
      (Nat.div_lt_iff_lt_mul denPositive).1 (lt_pow_decimalLength _)
    constructor
    · have shifted : ((decimalLength (num / den) : ℤ) - 1) =
          ((decimalLength (num / den) - 1 : ℕ) : ℤ) := by omega
      rw [shifted, zpow_natCast]
      exact_mod_cast low
    · rw [zpow_natCast]
      exact_mod_cast high
  next small =>
    have positive : 0 < (den - 1) / num := Nat.div_pos (by omega) numPositive
    have length : 0 < decimalLength ((den - 1) / num) := Nat.length_toDigits_pos
    have low : 10 ^ (decimalLength ((den - 1) / num) - 1) * num ≤ den - 1 :=
      (Nat.le_div_iff_mul_le numPositive).1 (pow_decimalLength_le positive)
    have high : den - 1 < 10 ^ decimalLength ((den - 1) / num) * num :=
      (Nat.div_lt_iff_lt_mul numPositive).1 (lt_pow_decimalLength _)
    generalize decimalLength ((den - 1) / num) = length' at *
    have inverse (k : ℕ) : (10 : ℚ) ^ (-(k : ℤ)) * 10 ^ k = 1 := by
      rw [← zpow_natCast, ← zpow_add₀ (by norm_num), neg_add_cancel, zpow_zero]
    constructor
    · have cast : (den : ℚ) ≤ 10 ^ length' * num := by exact_mod_cast (show den ≤ _ by omega)
      have exponent : (1 - (length' : ℤ) - 1) = -(length' : ℤ) := by ring
      rw [exponent]
      calc (10 : ℚ) ^ (-(length' : ℤ)) * den
          ≤ 10 ^ (-(length' : ℤ)) * (10 ^ length' * num) := by gcongr
        _ = num := by rw [← mul_assoc, inverse, one_mul]
    · have cast : (10 : ℚ) ^ (length' - 1) * num < den := by exact_mod_cast (show _ < den by omega)
      have exponent : (1 - (length' : ℤ)) = -((length' - 1 : ℕ) : ℤ) := by omega
      rw [exponent]
      calc (num : ℚ) = 10 ^ (-((length' - 1 : ℕ) : ℤ)) * (10 ^ (length' - 1) * num) := by
            rw [← mul_assoc, inverse, one_mul]
        _ < 10 ^ (-((length' - 1 : ℕ) : ℤ)) * den := by gcongr

/-- With `length + 1` digits before the grid's point, the magnitude has at least `10 ^ length`
steps. -/
theorem steps_of_point {units : Nat} {point : Int} (lower : (10 : ℚ) ^ (point - 1) * one ≤ units)
    (length : Nat) :
    10 ^ length * stepNum (point - (length + 1 : ℕ)) ≤
      units * stepDen (point - (length + 1 : ℕ)) := by
  set scale := point - (length + 1 : ℕ) with hscale
  have power : (10 : ℚ) ^ length * 10 ^ scale = 10 ^ (point - 1) := by
    rw [← zpow_natCast, ← zpow_add₀ (by norm_num)]
    congr 1
    push_cast at hscale
    omega
  have denNonneg : (0 : ℚ) ≤ stepDen scale := by positivity
  have cast : (10 : ℚ) ^ length * stepNum scale ≤ units * stepDen scale := by
    calc (10 : ℚ) ^ length * stepNum scale
        = 10 ^ length * 10 ^ scale * one * stepDen scale := by rw [stepNum_cast]; ring
      _ = 10 ^ (point - 1) * one * stepDen scale := by rw [power]
      _ ≤ units * stepDen scale := by gcongr
  exact_mod_cast cast

/-- The search stops at digits that read back; it never takes digits as they are. -/
theorem shortestFrom_spec (tie : TieRule) {units : Nat} {point : Int}
    (fits : units % spacing units = 0) (lower : (10 : ℚ) ^ (point - 1) * one ≤ units) :
    ∀ (attempts length : Nat), length + 1 + attempts = 17 →
      ∃ count scale, shortestFrom tie units point (length + 1) (attempts + 1) =
          .ofSteps count scale ∧ neighbour? tie units scale = some count ∧
        stepNum scale ≤ units * stepDen scale := by
  intro attempts
  induction attempts with
  | zero =>
    intro length total
    obtain rfl : length = 16 := by omega
    obtain ⟨count, found⟩ := Option.isSome_iff_exists.1
      (neighbour?_isSome tie fits (steps_of_point lower 16))
    refine ⟨count, _, ?_, found, ?_⟩
    · simp only [shortestFrom]
      rw [found]
    · exact Nat.le_trans (Nat.le_mul_of_pos_left _ (by decide)) (steps_of_point lower 16)
  | succ attempts ih =>
    intro length total
    rw [shortestFrom]
    split
    next count found =>
      exact ⟨count, _, rfl, found,
        Nat.le_trans (Nat.le_mul_of_pos_left _ (Nat.pow_pos (by decide)))
          (steps_of_point lower length)⟩
    next => exact ih (length + 1) (by omega)

/-- The shortest digits of a magnitude read back as it, and stand for a number within a factor
of two of it. -/
theorem shortest_spec (tie : TieRule) {units : Nat} (fits : units % spacing units = 0)
    (positive : 0 < units) :
    ∃ count scale, shortest tie units = .ofSteps count scale ∧
      unitsOfDecimal count scale = units ∧
      units * stepDen scale ≤ 2 * (count * stepNum scale) ∧
      count * stepNum scale ≤ 2 * (units * stepDen scale) := by
  have lower := (pointOf_spec positive one_pos).1
  obtain ⟨count, scale, written, found, step⟩ :=
    shortestFrom_spec tie fits lower 16 0 rfl
  obtain ⟨reads, next⟩ := neighbour?_eq_some found
  refine ⟨count, scale, ?_, reads, ?_⟩
  · rw [shortest, if_neg (by omega)]
    exact written
  · have stepPositive : 0 < stepNum scale := stepNum_pos scale
    have divided := Nat.div_add_mod' (units * stepDen scale) (stepNum scale)
    have small := Nat.mod_lt (units * stepDen scale) stepPositive
    have first : 1 * stepNum scale ≤ units * stepDen scale / stepNum scale * stepNum scale :=
      Nat.mul_le_mul_right _ ((Nat.one_le_div_iff stepPositive).2 step)
    rcases next with rfl | rfl
    · omega
    · rw [Nat.add_one_mul (units * stepDen scale / stepNum scale)]
      omega

/-! ## Digits with a point as a number -/

/-- The number that digits with a point stand for. -/
def Decimal.value (d : Decimal) : ℚ :=
  Numeral.digitsValue d.digits * 10 ^ (d.point - d.digits.length)

/-- The zeros at the end of a number's digits: dropping them moves no other digit. -/
theorem exists_stripped (digits : List Char) :
    ∃ zeros, digits = (digits.reverse.dropWhile (· == '0')).reverse ++
      List.replicate zeros '0' := by
  refine ⟨(digits.reverse.takeWhile (· == '0')).length, ?_⟩
  have same : digits.reverse.takeWhile (· == '0') =
      List.replicate (digits.reverse.takeWhile (· == '0')).length '0' := by
    rw [List.eq_replicate_iff]
    exact ⟨rfl, fun c member => by simpa using List.mem_takeWhile_imp member⟩
  have parts := List.takeWhile_append_dropWhile (p := (· == '0')) (l := digits.reverse)
  calc digits = digits.reverse.reverse := (List.reverse_reverse _).symm
    _ = (digits.reverse.dropWhile (· == '0')).reverse ++
        (digits.reverse.takeWhile (· == '0')).reverse := by
      conv_lhs => rw [← parts, List.reverse_append]
    _ = _ := by
      conv_lhs => rw [same, List.reverse_replicate]

theorem Decimal.value_ofSteps (count : Nat) (scale : Int) :
    (Decimal.ofSteps count scale).value = count * 10 ^ scale := by
  obtain ⟨zeros, parts⟩ := exists_stripped (Nat.toDigits 10 count)
  simp only [Decimal.value, Decimal.ofSteps]
  set stripped := ((Nat.toDigits 10 count).reverse.dropWhile (· == '0')).reverse
  have length : (Nat.toDigits 10 count).length = stripped.length + zeros := by
    rw [parts, List.length_append, List.length_replicate]
  have total : count = Numeral.digitsValue stripped * 10 ^ zeros := by
    calc count = Numeral.digitsValue (Nat.toDigits 10 count) := by simp
      _ = Numeral.digitsValue stripped * 10 ^ zeros := by
        conv_lhs => rw [parts]
        rw [Numeral.digitsValue_append, Numeral.digitsValue_replicate_zero,
          List.length_replicate, Nat.add_zero]
  have exponent : ((Nat.toDigits 10 count).length : ℤ) + scale - stripped.length =
      (zeros : ℤ) + scale := by
    rw [length]
    push_cast
    ring
  rw [exponent, zpow_add₀ (by norm_num), zpow_natCast]
  conv_rhs => rw [total]
  push_cast
  ring

theorem Decimal.isDigit_ofSteps (count : Nat) (scale : Int) :
    ∀ c ∈ (Decimal.ofSteps count scale).digits, c.isDigit = true := by
  intro c member
  apply Numeral.isDigit_toDigits count
  simp only [Decimal.ofSteps, List.mem_reverse] at member
  exact List.mem_reverse.1 (List.dropWhile_sublist _ |>.subset member)

private theorem isDigit_replicate_zero (count : Nat) :
    ∀ c ∈ List.replicate count '0', c.isDigit = true := by
  intro c member
  rw [(List.mem_replicate.1 member).2]
  rfl

/-- A text is read as a numeral with this sign and the value of this decimal number. -/
private def ReadsAs (negative : Bool) (chars : List Char) (d : Decimal) : Prop :=
  ∃ n : Numeral, Numeral.read? (Numeral.signChars negative ++ chars) = some n ∧
    n.negative = negative ∧ (n.coefficient : ℚ) * 10 ^ n.scale = d.value

section Positional

variable {d : Decimal} (digits : ∀ c ∈ d.digits, c.isDigit = true) (negative : Bool)
include digits

private theorem reads_fraction (before : d.point ≤ 0) : ReadsAs negative
    (['0', '.'] ++ List.replicate (-d.point).toNat '0' ++ d.digits) d := by
  have all : ∀ c ∈ List.replicate (-d.point).toNat '0' ++ d.digits, c.isDigit = true := by
    intro c member
    rcases List.mem_append.1 member with zero | digit
    · exact isDigit_replicate_zero _ c zero
    · exact digits c digit
  have zero : ∀ c ∈ ['0'], c.isDigit = true := List.forall_mem_singleton.2 rfl
  refine ⟨_, Numeral.read?_point zero (by decide) all negative, rfl, ?_⟩
  simp only [Numeral.coefficient, Numeral.scale, Decimal.value]
  rw [Numeral.digitsValue_append, Numeral.digitsValue_append,
    Numeral.digitsValue_replicate_zero, show Numeral.digitsValue ['0'] = 0 from rfl]
  simp only [Nat.zero_mul, Nat.zero_add, List.length_append, List.length_replicate]
  congr 2
  push_cast [Int.toNat_of_nonneg (show 0 ≤ -d.point by omega)]
  ring

private theorem reads_whole (after : ¬ d.point ≤ 0) (short : d.digits.length ≤ d.point.toNat) :
    ReadsAs negative (d.digits ++ List.replicate (d.point.toNat - d.digits.length) '0') d := by
  have all : ∀ c ∈ d.digits ++ List.replicate (d.point.toNat - d.digits.length) '0',
      c.isDigit = true := by
    intro c member
    rcases List.mem_append.1 member with digit | zero
    · exact digits c digit
    · exact isDigit_replicate_zero _ c zero
  have nonempty : d.digits ++ List.replicate (d.point.toNat - d.digits.length) '0' ≠ [] := by
    rw [← List.length_pos_iff, List.length_append, List.length_replicate]
    omega
  refine ⟨_, Numeral.read?_whole all nonempty negative, rfl, ?_⟩
  simp only [Numeral.coefficient, Numeral.scale, Decimal.value, List.append_nil]
  rw [Numeral.digitsValue_append, Numeral.digitsValue_replicate_zero]
  have exponent : d.point - d.digits.length = ((d.point.toNat - d.digits.length : ℕ) : ℤ) := by
    omega
  rw [exponent, zpow_natCast]
  simp

private theorem reads_mixed (after : ¬ d.point ≤ 0) (long : ¬ d.digits.length ≤ d.point.toNat) :
    ReadsAs negative (d.digits.take d.point.toNat ++ ['.'] ++ d.digits.drop d.point.toNat) d := by
  have front : ∀ c ∈ d.digits.take d.point.toNat, c.isDigit = true :=
    fun c member => digits c (List.mem_of_mem_take member)
  have back : ∀ c ∈ d.digits.drop d.point.toNat, c.isDigit = true :=
    fun c member => digits c (List.mem_of_mem_drop member)
  have nonempty : d.digits.take d.point.toNat ≠ [] := by
    rw [← List.length_pos_iff, List.length_take]
    omega
  refine ⟨_, by
    rw [List.append_assoc]
    exact Numeral.read?_point front nonempty back negative, rfl, ?_⟩
  simp only [Numeral.coefficient, Numeral.scale, Decimal.value, List.take_append_drop,
    List.length_drop]
  congr 2
  omega

/-- The plain layout of digits with a point is a numeral of the same value. -/
theorem read?_positional :
    ∃ n : Numeral, Numeral.read? (Numeral.signChars negative ++ d.positional false) = some n ∧
      n.negative = negative ∧ (n.coefficient : ℚ) * 10 ^ n.scale = d.value := by
  unfold Decimal.positional
  split
  next before => exact reads_fraction digits negative before
  next after =>
    simp only [Bool.false_eq_true, ↓reduceIte, List.append_nil]
    split
    next short => exact reads_whole digits negative after short
    next long => exact reads_mixed digits negative after long

end Positional

/-! ## Reading a double back -/

/-- Decimal numbers of one value round alike. -/
theorem unitsOfDecimal_congr {count count' : Nat} {scale scale' : Int}
    (same : (count : ℚ) * 10 ^ scale = count' * 10 ^ scale') :
    unitsOfDecimal count scale = unitsOfDecimal count' scale' := by
  rw [unitsOfDecimal_eq, unitsOfDecimal_eq]
  apply roundUnits_congr (stepDen_pos scale) (stepDen_pos scale')
  have cast : (count * stepNum scale * stepDen scale' : ℚ) =
      count' * stepNum scale' * stepDen scale := by
    calc (count * stepNum scale * stepDen scale' : ℚ)
        = (count * 10 ^ scale) * (one * stepDen scale * stepDen scale') := by
          rw [stepNum_cast]; ring
      _ = (count' * 10 ^ scale') * (one * stepDen scale * stepDen scale') := by rw [same]
      _ = count' * stepNum scale' * stepDen scale := by rw [stepNum_cast]; ring
  exact_mod_cast cast

/-- Within the range of doubles a numeral is rounded, and not cut off as too large or too
small. -/
theorem toDouble_eq {n : Numeral} (low : (10 : ℚ) ^ (-400 : ℤ) ≤ n.coefficient * 10 ^ n.scale)
    (high : (n.coefficient : ℚ) * 10 ^ n.scale < 10 ^ (400 : ℤ)) :
    n.toDouble = ofUnits n.negative (unitsOfDecimal n.coefficient n.scale) := by
  have tenPositive : (0 : ℚ) < 10 ^ (-400 : ℤ) := by positivity
  have positive : 0 < n.coefficient := by
    rcases Nat.eq_zero_or_pos n.coefficient with zero | positive
    · rw [zero, Nat.cast_zero, zero_mul] at low
      exact absurd low (not_le.2 tenPositive)
    · exact positive
  have length : 0 < (Nat.toDigits 10 n.coefficient).length := Nat.length_toDigits_pos
  have below : n.coefficient < 10 ^ (Nat.toDigits 10 n.coefficient).length :=
    lt_pow_decimalLength _
  have above : 10 ^ ((Nat.toDigits 10 n.coefficient).length - 1) ≤ n.coefficient :=
    pow_decimalLength_le positive
  have notLarge : ¬ 400 < n.scale + (Nat.toDigits 10 n.coefficient).length := by
    intro large
    have exponent : (400 : ℤ) ≤ ((Nat.toDigits 10 n.coefficient).length - 1 : ℕ) + n.scale := by
      omega
    refine absurd high (not_lt.2 ?_)
    calc (10 : ℚ) ^ (400 : ℤ)
        ≤ 10 ^ (((Nat.toDigits 10 n.coefficient).length - 1 : ℕ) + n.scale) :=
          zpow_le_zpow_right₀ (by norm_num) exponent
      _ = 10 ^ ((Nat.toDigits 10 n.coefficient).length - 1) * 10 ^ n.scale := by
          rw [zpow_add₀ (by norm_num), zpow_natCast]
      _ ≤ n.coefficient * 10 ^ n.scale := by
          gcongr
          exact_mod_cast above
  have notSmall : ¬ n.scale + (Nat.toDigits 10 n.coefficient).length < -400 := by
    intro small
    refine absurd low (not_le.2 ?_)
    calc (n.coefficient : ℚ) * 10 ^ n.scale
        < 10 ^ (Nat.toDigits 10 n.coefficient).length * 10 ^ n.scale := by
          gcongr
          exact_mod_cast below
      _ = 10 ^ (((Nat.toDigits 10 n.coefficient).length : ℤ) + n.scale) := by
          rw [zpow_add₀ (by norm_num), zpow_natCast]
      _ ≤ 10 ^ (-400 : ℤ) := zpow_le_zpow_right₀ (by norm_num) (by omega)
  simp only [Numeral.toDouble, if_neg (Nat.ne_of_gt positive), if_neg notLarge, if_neg notSmall]
  unfold unitsOfDecimal
  split <;> rfl

private theorem one_cast : (one : ℚ) = 2 ^ unitExponent := by
  unfold one
  rw [Nat.pow_eq]
  push_cast
  rfl

/-- Three binary digits are fewer than one decimal digit. -/
theorem two_pow_le {binary decimal : Nat} (fewer : binary ≤ 3 * decimal) :
    (2 : ℚ) ^ binary ≤ 10 ^ decimal := by
  calc (2 : ℚ) ^ binary ≤ 2 ^ (3 * decimal) := pow_le_pow_right₀ (by norm_num) fewer
    _ = 8 ^ decimal := by rw [pow_mul]; norm_num
    _ ≤ 10 ^ decimal := by gcongr; norm_num

/-- What is within a factor of two of a magnitude is within the range of numerals that are
rounded. -/
theorem range_of_near {units : Nat} {value : ℚ} (fits : Fits units) (positive : 0 < units)
    (low : (units : ℚ) ≤ 2 * (value * one)) (high : value * one ≤ 2 * units) :
    (10 : ℚ) ^ (-400 : ℤ) ≤ value ∧ value < 10 ^ (400 : ℤ) := by
  have onePositive : (0 : ℚ) < one := by exact_mod_cast one_pos
  have atLeast : (1 : ℚ) ≤ units := by exact_mod_cast positive
  have beyondCast : (beyond : ℚ) = 2 ^ topExponent := by
    unfold beyond
    rw [Nat.pow_eq]
    push_cast
    rfl
  have below : (units : ℚ) < 2 ^ topExponent := by
    rw [← beyondCast]
    exact_mod_cast fits.1
  constructor
  · have binary : 2 * (one : ℚ) ≤ 10 ^ 400 := by
      rw [one_cast, ← pow_succ']
      exact two_pow_le (by decide)
    rw [zpow_neg, inv_le_iff_one_le_mul₀ (by positivity)]
    have valuePositive : 0 < value := by
      by_contra other
      have : value * one ≤ 0 := mul_nonpos_of_nonpos_of_nonneg (not_lt.1 other) onePositive.le
      linarith
    calc (1 : ℚ) ≤ 2 * (value * one) := atLeast.trans low
      _ = value * (2 * one) := by ring
      _ ≤ value * 10 ^ (400 : ℤ) := by rw [zpow_ofNat]; gcongr
  · have binary : (2 : ℚ) ^ (topExponent + 1 - unitExponent) ≤ 10 ^ 400 := two_pow_le (by decide)
    rw [zpow_ofNat]
    refine lt_of_lt_of_le (lt_of_mul_lt_mul_right ?_ onePositive.le) binary
    calc value * one ≤ 2 * units := high
      _ < 2 * 2 ^ topExponent := by gcongr
      _ = 2 ^ (topExponent + 1 - unitExponent) * one := by
        rw [one_cast, ← pow_succ', ← pow_add, Nat.sub_add_cancel (by decide)]

/-- The plain text of a magnitude is a numeral, and the double nearest to it is that magnitude. -/
theorem read?_magnitude {units : Nat} (fits : Fits units) (negative : Bool) :
    ∃ n : Numeral,
      Numeral.read? (Numeral.signChars negative ++ Layout.plain.magnitude units) = some n ∧
        n.toDouble = .finite negative units fits := by
  rcases Nat.eq_zero_or_pos units with rfl | positive
  · have zero : ∀ c ∈ ['0'], c.isDigit = true := List.forall_mem_singleton.2 rfl
    exact ⟨_, Numeral.read?_whole zero (by decide) negative, rfl⟩
  · obtain ⟨count, scale, written, reads, low, high⟩ :=
      shortest_spec Layout.plain.tie fits.2 positive
    obtain ⟨n, read, sign, value⟩ :=
      read?_positional (Decimal.isDigit_ofSteps count scale) negative
    rw [Decimal.value_ofSteps] at value
    refine ⟨n, ?_, ?_⟩
    · simp only [Layout.magnitude, Layout.plain] at written ⊢
      rw [written]
      exact read
    have denPositive : (0 : ℚ) < stepDen scale := by exact_mod_cast stepDen_pos scale
    have product : (count * 10 ^ scale : ℚ) * one * stepDen scale = count * stepNum scale := by
      rw [stepNum_cast]
      ring
    have castLow : (units : ℚ) ≤ 2 * (count * 10 ^ scale * one) := by
      refine le_of_mul_le_mul_right ?_ denPositive
      rw [mul_assoc, product]
      exact_mod_cast low
    have castHigh : (count * 10 ^ scale : ℚ) * one ≤ 2 * units := by
      refine le_of_mul_le_mul_right ?_ denPositive
      rw [product, mul_assoc]
      exact_mod_cast high
    obtain ⟨least, greatest⟩ := range_of_near fits positive castLow castHigh
    rw [toDouble_eq (value ▸ least) (value ▸ greatest), unitsOfDecimal_congr value, reads, sign,
      ofUnits, dif_pos fits]

/-- The plain text of a finite double is a numeral. -/
theorem isNumeral_text {x : Double} (finite : x.isFinite = true) : isNumeral x.text = true := by
  cases x with
  | nan => simp [isFinite] at finite
  | infinite negative => simp [isFinite] at finite
  | finite negative units fits =>
    obtain ⟨n, read, -⟩ := read?_magnitude fits negative
    rw [isNumeral, text, Layout.write, String.toList_ofList]
    exact Option.isSome_iff_exists.2 ⟨n, read⟩

/-- The plain text of a finite double reads back as that double. -/
theorem toNumber?_text {x : Double} (finite : x.isFinite = true) : toNumber? x.text = some x := by
  cases x with
  | nan => simp [isFinite] at finite
  | infinite negative => simp [isFinite] at finite
  | finite negative units fits =>
    obtain ⟨n, read, double⟩ := read?_magnitude fits negative
    have written : Numeral.read? (text (.finite negative units fits)).toList = some n := by
      rw [text, Layout.write, String.toList_ofList]
      exact read
    rw [toNumber?_of_read? written, double]

/-! ## The alphabet of all layouts -/

private theorem isDigit_shortestFrom (tie : TieRule) (units : Nat) (point : Int)
    (length attempts : Nat) :
    ∀ c ∈ (shortestFrom tie units point length attempts).digits, c.isDigit = true := by
  induction attempts generalizing length with
  | zero => exact Decimal.isDigit_ofSteps _ _
  | succ attempts ih =>
    rw [shortestFrom]
    split
    next => exact Decimal.isDigit_ofSteps _ _
    next => exact ih (length + 1)

private theorem isDigit_shortest (tie : TieRule) (units : Nat) :
    ∀ c ∈ (shortest tie units).digits, c.isDigit = true := by
  unfold shortest
  split
  next => exact List.forall_mem_singleton.2 rfl
  next => exact isDigit_shortestFrom tie units _ _ _

private theorem isNumeralChar_positional {d : Decimal} (digits : ∀ c ∈ d.digits, c.isDigit = true)
    (keepsFraction : Bool) :
    ∀ c ∈ d.positional keepsFraction, Numeral.isNumeralChar c = true := by
  have written : ∀ c ∈ d.digits, Numeral.isNumeralChar c = true := fun c member =>
    Numeral.isNumeralChar_of_isDigit (digits c member)
  have zeros (count : Nat) : ∀ c ∈ List.replicate count '0', Numeral.isNumeralChar c = true :=
    fun c member => Numeral.isNumeralChar_of_isDigit (isDigit_replicate_zero count c member)
  have lead : ∀ c ∈ ['0', '.'], Numeral.isNumeralChar c = true :=
    List.forall_mem_cons.2 ⟨rfl, List.forall_mem_singleton.2 rfl⟩
  have idle : ∀ c ∈ if keepsFraction then ['.', '0'] else [], Numeral.isNumeralChar c = true := by
    cases keepsFraction with
    | false => nofun
    | true => exact List.forall_mem_cons.2 ⟨rfl, List.forall_mem_singleton.2 rfl⟩
  intro c member
  unfold Decimal.positional at member
  split at member
  next =>
    rw [List.mem_append, List.mem_append] at member
    rcases member with (front | zero) | digit
    · exact lead c front
    · exact zeros _ c zero
    · exact written c digit
  next =>
    simp only at member
    split at member
    next =>
      rw [List.mem_append, List.mem_append] at member
      rcases member with (digit | zero) | fraction
      · exact written c digit
      · exact zeros _ c zero
      · exact idle c fraction
    next =>
      rw [List.mem_append, List.mem_append] at member
      rcases member with (digit | point) | digit
      · exact written c (List.mem_of_mem_take digit)
      · rw [List.mem_singleton.1 point]
        rfl
      · exact written c (List.mem_of_mem_drop digit)

private theorem isNumeralChar_scientific {d : Decimal} (digits : ∀ c ∈ d.digits, c.isDigit = true)
    (plusSign : Bool) : ∀ c ∈ d.scientific plusSign, Numeral.isNumeralChar c = true := by
  have written : ∀ c ∈ d.digits, Numeral.isNumeralChar c = true := fun c member =>
    Numeral.isNumeralChar_of_isDigit (digits c member)
  intro c member
  unfold Decimal.scientific at member
  simp only [List.mem_append] at member
  rcases member with (((first | later) | mark) | sign) | exponent
  · exact written c (List.mem_of_mem_take first)
  · split at later
    next => cases later
    next =>
      rcases List.mem_cons.1 later with rfl | digit
      · rfl
      · exact written c (List.mem_of_mem_drop digit)
  · rw [List.mem_singleton.1 mark]
    rfl
  · split at sign
    next =>
      rw [List.mem_singleton.1 sign]
      rfl
    next =>
      cases plusSign with
      | false => cases sign
      | true =>
        rw [List.mem_singleton.1 sign]
        rfl
  · exact Numeral.isNumeralChar_of_isDigit (Numeral.isDigit_toDigits _ c exponent)

/-- In every layout a finite double is written in the alphabet of numerals. -/
theorem isNumeralChar_write (layout : Layout) {x : Double} (finite : x.isFinite = true) :
    ∀ c ∈ (layout.write x).toList, Numeral.isNumeralChar c = true := by
  cases x with
  | nan => cases finite
  | infinite negative => cases finite
  | finite negative units fits =>
    intro c member
    rw [Layout.write, String.toList_ofList, List.mem_append] at member
    have digits := isDigit_shortest layout.tie units
    rcases member with sign | magnitude
    · cases negative with
      | false => cases sign
      | true =>
        rw [List.mem_singleton.1 sign]
        rfl
    · unfold Layout.magnitude at magnitude
      split at magnitude
      next => exact isNumeralChar_positional digits _ c magnitude
      next =>
        simp only at magnitude
        split at magnitude
        next => exact isNumeralChar_positional digits _ c magnitude
        next => exact isNumeralChar_scientific digits _ c magnitude

end Rowscan.Double
