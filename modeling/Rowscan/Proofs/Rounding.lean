import Mathlib.Algebra.Group.Nat.Defs
import Rowscan.Double.Basic

/-!
Rounding depends on the quotient alone and not on how it is written as a fraction
(`roundUnits_congr`), and a quotient that lies nearer to a magnitude than half of the gap around
it rounds to that magnitude (`roundUnits_of_above`, `roundUnits_of_below`). The gap below a power
of two is half of the gap above it, so the two sides are kept apart.
-/
namespace Rowscan.Double

theorem spacing_pos (units : Nat) : 0 < spacing units := Nat.two_pow_pos _

theorem one_pos : 0 < one := by
  have positive (n : Nat) : 0 < Nat.pow 2 n := Nat.two_pow_pos n
  unfold one
  exact positive unitExponent

private theorem spacing_of_small {units : Nat} (small : units.log2 ≤ 52) : spacing units = 1 := by
  rw [spacing, Nat.sub_eq_zero_of_le small, Nat.pow_eq, Nat.pow_zero]

/-! ## The quotient alone counts -/

private theorem nearestQuotient_scale (num den : Nat) {k : Nat} (positive : 0 < k) :
    nearestQuotient (num * k) (den * k) = nearestQuotient num den := by
  have quotient : num * k / (den * k) = num / den := Nat.mul_div_mul_right num den positive
  have rest : num * k % (den * k) = num % den * k := Nat.mul_mod_mul_right k num den
  have below : 2 * (num % den * k) < den * k ↔ 2 * (num % den) < den := by
    rw [← Nat.mul_assoc]
    exact Nat.mul_lt_mul_right positive
  have above : den * k < 2 * (num % den * k) ↔ den < 2 * (num % den) := by
    rw [← Nat.mul_assoc]
    exact Nat.mul_lt_mul_right positive
  simp only [nearestQuotient, quotient, rest, below, above]

private theorem roundUnits_scale (num den : Nat) {k : Nat} (positive : 0 < k) :
    roundUnits (num * k) (den * k) = roundUnits num den := by
  have quotient : num * k / (den * k) = num / den := Nat.mul_div_mul_right num den positive
  simp only [roundUnits, quotient]
  rw [Nat.mul_right_comm, nearestQuotient_scale _ _ positive]

/-- Two fractions of one value round alike. -/
theorem roundUnits_congr {num den num' den' : Nat} (positive : 0 < den) (positive' : 0 < den')
    (same : num * den' = num' * den) : roundUnits num den = roundUnits num' den' := by
  rw [← roundUnits_scale num den positive', ← roundUnits_scale num' den' positive, same,
    Nat.mul_comm den den']

/-! ## What rounds to a magnitude -/

/-- A quotient less than a half away from a whole number rounds to it. -/
theorem nearestQuotient_near {num den m : Nat} (upper : 2 * num < 2 * (m * den) + den)
    (lower : 2 * (m * den) < 2 * num + den) : nearestQuotient num den = m := by
  have positive : 0 < den := by omega
  have divided : num / den * den + num % den = num := Nat.div_add_mod' num den
  have small : num % den < den := Nat.mod_lt num positive
  rcases Nat.lt_trichotomy (num / den) m with less | same | more
  · have step : (num / den + 1) * den ≤ m * den := Nat.mul_le_mul_right den less
    rw [Nat.add_one_mul] at step
    have next : m * den < (num / den + 1 + 1) * den := by
      rw [Nat.add_one_mul, Nat.add_one_mul]
      omega
    have successor : m = num / den + 1 := by
      have := Nat.lt_of_mul_lt_mul_right next
      omega
    subst successor
    rw [Nat.add_one_mul] at lower upper
    simp only [nearestQuotient]
    rw [if_neg (by omega), if_pos (by omega)]
  · subst same
    simp only [nearestQuotient]
    rw [if_pos (by omega)]
  · have step : (m + 1) * den ≤ num / den * den := Nat.mul_le_mul_right den more
    rw [Nat.add_one_mul] at step
    omega

/-- The gap stays the same from a magnitude up to the next one. -/
theorem spacing_of_above {units n : Nat} (fits : units % spacing units = 0) (lower : units ≤ n)
    (upper : n < units + spacing units) : spacing n = spacing units := by
  by_cases small : units.log2 < 52
  · have gap : spacing units = 1 := spacing_of_small (Nat.le_of_lt small)
    have same : n = units := by omega
    rw [same]
  · have nonzero : units ≠ 0 := by
      rintro rfl
      simp at small
    have low : 2 ^ units.log2 ≤ units := Nat.log2_self_le nonzero
    have high : units < 2 ^ (units.log2 + 1) := Nat.lt_log2_self
    -- The next power of two is a multiple of the gap, so no magnitude steps over it.
    have divides : spacing units ∣ 2 ^ (units.log2 + 1) := Nat.pow_dvd_pow 2 (by omega)
    obtain ⟨count, total⟩ := Nat.dvd_of_mod_eq_zero fits
    obtain ⟨bound, limit⟩ := divides
    have counted : count + 1 ≤ bound := by
      have : spacing units * count < spacing units * bound := by omega
      exact Nat.lt_of_mul_lt_mul_left this
    have room : units + spacing units ≤ 2 ^ (units.log2 + 1) := by
      calc units + spacing units = spacing units * (count + 1) := by rw [Nat.mul_add_one, ← total]
        _ ≤ spacing units * bound := Nat.mul_le_mul_left _ counted
        _ = 2 ^ (units.log2 + 1) := limit.symm
    have log : n.log2 = units.log2 := (Nat.log2_eq_iff (by omega)).2 ⟨by omega, by omega⟩
    rw [spacing, log, spacing]

/-- Below a magnitude the gap is the same as above it down to the power of two; among the
smallest magnitudes it never changes. -/
theorem spacing_of_below {units n : Nat} (upper : n < units)
    (regular : 2 ^ units.log2 ≤ n ∨ units.log2 ≤ 52) : spacing n = spacing units := by
  have le : n.log2 ≤ units.log2 := by
    rcases Nat.eq_zero_or_pos n with rfl | positive
    · simp
    · exact (Nat.le_log2 (by omega)).2
        (Nat.le_trans (Nat.log2_self_le (by omega)) (Nat.le_of_lt upper))
  rcases regular with power | small
  · have positive : 0 < 2 ^ units.log2 := Nat.two_pow_pos _
    have ge : units.log2 ≤ n.log2 := (Nat.le_log2 (by omega)).2 power
    rw [spacing, Nat.le_antisymm le ge, spacing]
  · rw [spacing_of_small small, spacing_of_small (Nat.le_trans le small)]

/-- With the right gap, a quotient less than half a gap away rounds to the magnitude. -/
private theorem roundUnits_near {units num den : Nat} (fits : units % spacing units = 0)
    (gap : spacing (num / den) = spacing units)
    (upper : 2 * num < 2 * (units * den) + spacing units * den)
    (lower : 2 * (units * den) < 2 * num + spacing units * den) : roundUnits num den = units := by
  obtain ⟨count, total⟩ := Nat.dvd_of_mod_eq_zero fits
  have product : count * (den * spacing units) = units * den := by
    rw [Nat.mul_comm den, ← Nat.mul_assoc, Nat.mul_comm count, ← total]
  have nearest : nearestQuotient num (den * spacing units) = count := by
    apply nearestQuotient_near
    · rw [product, Nat.mul_comm den]
      exact upper
    · rw [product, Nat.mul_comm den]
      exact lower
  simp only [roundUnits, gap, nearest]
  rw [Nat.mul_comm, ← total]

/-- What is at most half a gap above a magnitude rounds to it. -/
theorem roundUnits_of_above {units num den : Nat} (fits : units % spacing units = 0)
    (lower : units * den ≤ num) (upper : 2 * num < 2 * (units * den) + spacing units * den) :
    roundUnits num den = units := by
  have positive : 0 < den := by
    rcases Nat.eq_zero_or_pos den with rfl | positive
    · simp at upper
    · exact positive
  have floorLow : units ≤ num / den := (Nat.le_div_iff_mul_le positive).2 lower
  have floorHigh : num / den < units + spacing units := by
    rw [Nat.div_lt_iff_lt_mul positive, Nat.add_mul]
    omega
  exact roundUnits_near fits (spacing_of_above fits floorLow floorHigh) upper (by
    have := Nat.mul_pos (spacing_pos units) positive
    omega)

/-- What is less than half a gap below a magnitude rounds to it, as long as it does not pass a
power of two. -/
theorem roundUnits_of_below {units num den : Nat} (fits : units % spacing units = 0)
    (upper : num < units * den) (lower : 2 * (units * den) < 2 * num + spacing units * den)
    (regular : 2 ^ units.log2 * den ≤ num ∨ units.log2 ≤ 52) : roundUnits num den = units := by
  have positive : 0 < den := by
    rcases Nat.eq_zero_or_pos den with rfl | positive
    · simp at upper
    · exact positive
  have floorHigh : num / den < units := (Nat.div_lt_iff_lt_mul positive).2 upper
  have floorRegular : 2 ^ units.log2 ≤ num / den ∨ units.log2 ≤ 52 :=
    regular.imp_left (Nat.le_div_iff_mul_le positive).2
  exact roundUnits_near fits (spacing_of_below floorHigh floorRegular) (by omega) lower

end Rowscan.Double
