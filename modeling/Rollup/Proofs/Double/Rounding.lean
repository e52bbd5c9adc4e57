import Mathlib.Algebra.Order.Field.Power
import Mathlib.Data.Rat.Cast.Order
import Mathlib.Tactic.Linarith
import Mathlib.Tactic.Positivity
import Mathlib.Tactic.Qify
import Rollup.Double.Basic

/-!
# Rounding to doubles

The rationals that round to a double form an interval around it.  Half of the last place
of the double reaches up, and half of it, or a quarter above a power of two, reaches down;
the ends belong to the even significand.  Every ratio in the interval is rounded to the
double.
-/

namespace Rollup.Double

/-! ## Scaling -/

theorem scaleDown_pos (numerator : Nat) {denominator : Nat} (positive : 0 < denominator)
    (exponent : Int) : 0 < (scaleDown numerator denominator exponent).2 := by
  unfold scaleDown
  split
  · exact Nat.mul_pos positive (Nat.pow_pos (by decide))
  · exact positive

/-- Scaling divides a ratio by a power of two. -/
theorem scaleDown_ratio (numerator denominator : Nat) (exponent : Int) :
    ((scaleDown numerator denominator exponent).1 : ℚ) /
        (scaleDown numerator denominator exponent).2 =
      (numerator : ℚ) / denominator / 2 ^ exponent := by
  unfold scaleDown
  split
  next up =>
    obtain ⟨power, rfl⟩ := Int.eq_ofNat_of_zero_le up
    simp only [Int.toNat_natCast, zpow_natCast, Nat.pow_eq, Nat.cast_mul, Nat.cast_pow,
      Nat.cast_ofNat]
    rw [div_div]
  next down =>
    obtain ⟨power, rfl⟩ : ∃ power : Nat, exponent = -(power : Int) :=
      ⟨(-exponent).toNat, by omega⟩
    simp only [Int.neg_neg, Int.toNat_natCast, zpow_neg, zpow_natCast, Nat.pow_eq, Nat.cast_mul,
      Nat.cast_pow, Nat.cast_ofNat, div_inv_eq_mul]
    rw [mul_div_right_comm]

/-- The integer part of a scaled ratio is below a bound exactly when the ratio is. -/
theorem scaleDown_div_lt_iff {numerator denominator : Nat} (positive : 0 < denominator)
    (exponent : Int) (bound : Nat) :
    (scaleDown numerator denominator exponent).1 / (scaleDown numerator denominator exponent).2 <
        bound ↔
      (numerator : ℚ) / denominator < bound * 2 ^ exponent := by
  have unit := scaleDown_pos numerator positive exponent
  rw [Nat.div_lt_iff_lt_mul unit, ← div_lt_iff₀ (zpow_pos two_pos exponent), ← scaleDown_ratio,
    div_lt_iff₀ (Nat.cast_pos.mpr unit), ← Nat.cast_mul, Nat.cast_lt]

/-! ## Halves -/

/-- The bounds of `roundHalfEven_eq` cleared of fractions. -/
theorem roundHalfEven_eq_of_within {numerator denominator nearest : Nat}
    (positive : 0 < denominator)
    (low : 2 * (denominator * nearest) ≤ 2 * numerator + denominator)
    (high : 2 * numerator ≤ 2 * (denominator * nearest) + denominator)
    (inside : nearest % 2 = 1 →
      2 * (denominator * nearest) < 2 * numerator + denominator ∧
        2 * numerator < 2 * (denominator * nearest) + denominator) :
    roundHalfEven numerator denominator = nearest := by
  have parts := Nat.div_add_mod numerator denominator
  have small := Nat.mod_lt numerator positive
  have notBelow : numerator / denominator ≤ nearest := by
    by_contra below
    have := Nat.mul_le_mul_left denominator (Nat.lt_of_not_le below)
    rw [Nat.mul_succ] at this
    omega
  have notAbove : nearest ≤ numerator / denominator + 1 := by
    by_contra above
    have := Nat.mul_le_mul_left denominator (Nat.lt_of_not_le above)
    rw [Nat.mul_succ, Nat.mul_succ] at this
    omega
  simp only [roundHalfEven]
  rcases Nat.eq_or_lt_of_le notBelow with same | next
  · rw [← same] at low high inside ⊢
    split
    · rfl
    · split
      · omega
      · omega
  · obtain rfl : nearest = numerator / denominator + 1 := by omega
    rw [Nat.mul_succ] at low high inside
    split
    · omega
    · split
      · rfl
      · omega

/-- The natural number within half of a ratio is the one that it is rounded to, an odd one
only if it is nearer than half. -/
theorem roundHalfEven_eq {numerator denominator nearest : Nat} (positive : 0 < denominator)
    (low : (nearest : ℚ) - 1 / 2 ≤ numerator / denominator)
    (high : (numerator : ℚ) / denominator ≤ nearest + 1 / 2)
    (inside : nearest % 2 = 1 →
      (nearest : ℚ) - 1 / 2 < numerator / denominator ∧
        (numerator : ℚ) / denominator < nearest + 1 / 2) :
    roundHalfEven numerator denominator = nearest := by
  have unit : (0 : ℚ) < denominator := Nat.cast_pos.mpr positive
  rw [le_div_iff₀ unit] at low
  rw [div_le_iff₀ unit] at high
  rw [lt_div_iff₀ unit, div_lt_iff₀ unit] at inside
  refine roundHalfEven_eq_of_within positive ?_ ?_ fun odd => ?_
  · qify
    linarith
  · qify
    linarith
  · obtain ⟨above, below⟩ := inside odd
    qify
    exact ⟨by linarith, by linarith⟩

/-! ## Exponents -/

/-- The highest bit of a ratio is that of its numerator less that of its denominator, or the
one below. -/
theorem ratio_log2_bounds {numerator denominator : Nat} (present : numerator ≠ 0)
    (positive : 0 < denominator) :
    (2 : ℚ) ^ ((numerator.log2 : Int) - denominator.log2 - 1) < numerator / denominator ∧
      (numerator : ℚ) / denominator < 2 ^ ((numerator.log2 : Int) - denominator.log2 + 1) := by
  have unit : (0 : ℚ) < denominator := Nat.cast_pos.mpr positive
  have top : (2 : ℚ) ^ numerator.log2 ≤ numerator := by
    exact_mod_cast Nat.log2_self_le present
  have topNext : (numerator : ℚ) < 2 ^ (numerator.log2 + 1) := by
    exact_mod_cast Nat.lt_log2_self
  have bottom : (2 : ℚ) ^ denominator.log2 ≤ denominator := by
    exact_mod_cast Nat.log2_self_le (Nat.ne_of_gt positive)
  have bottomNext : (denominator : ℚ) < 2 ^ (denominator.log2 + 1) := by
    exact_mod_cast Nat.lt_log2_self
  constructor
  · rw [lt_div_iff₀ unit, show (numerator.log2 : Int) - denominator.log2 - 1 =
      (numerator.log2 : Int) - (denominator.log2 + 1 : Nat) by omega, zpow_sub₀ two_ne_zero,
      zpow_natCast, zpow_natCast, div_mul_eq_mul_div, div_lt_iff₀ (by positivity)]
    calc (2 : ℚ) ^ numerator.log2 * denominator
        < 2 ^ numerator.log2 * 2 ^ (denominator.log2 + 1) := by gcongr
      _ ≤ numerator * 2 ^ (denominator.log2 + 1) := by gcongr
  · rw [div_lt_iff₀ unit, show (numerator.log2 : Int) - denominator.log2 + 1 =
      (numerator.log2 + 1 : Nat) - (denominator.log2 : Int) by omega, zpow_sub₀ two_ne_zero,
      zpow_natCast, zpow_natCast, div_mul_eq_mul_div, lt_div_iff₀ (by positivity)]
    calc (numerator : ℚ) * 2 ^ denominator.log2
        < 2 ^ (numerator.log2 + 1) * 2 ^ denominator.log2 := by gcongr
      _ ≤ 2 ^ (numerator.log2 + 1) * denominator := by gcongr

/-- At its exponent a ratio has a significand below `2 ^ 53`, and one from `2 ^ 52` up unless
the exponent is the least. -/
theorem exponentFor_spec {numerator denominator : Nat} (present : numerator ≠ 0)
    (positive : 0 < denominator) :
    -1074 ≤ exponentFor numerator denominator ∧
      (numerator : ℚ) / denominator <
        9007199254740992 * 2 ^ exponentFor numerator denominator ∧
      (4503599627370496 * 2 ^ exponentFor numerator denominator ≤
          (numerator : ℚ) / denominator ∨
        exponentFor numerator denominator = -1074) := by
  obtain ⟨above, below⟩ := ratio_log2_bounds present positive
  simp only [exponentFor, scaleDown_div_lt_iff positive]
  generalize (numerator : ℚ) / denominator = value at above below ⊢
  generalize guessed : (numerator.log2 : Int) - denominator.log2 - 52 = guess
  rw [show (numerator.log2 : Int) - denominator.log2 - 1 = guess + 51 by omega,
    zpow_add₀ two_ne_zero] at above
  rw [show (numerator.log2 : Int) - denominator.log2 + 1 = guess + 53 by omega,
    zpow_add₀ two_ne_zero] at below
  obtain ⟨found, chosen, low, high⟩ : ∃ found : Int,
      (if value < (4503599627370496 : Nat) * 2 ^ guess then guess - 1 else guess) = found ∧
        4503599627370496 * 2 ^ found ≤ value ∧ value < 9007199254740992 * 2 ^ found := by
    by_cases less : value < (4503599627370496 : Nat) * 2 ^ guess
    · refine ⟨guess - 1, if_pos less, ?_, ?_⟩
      · rw [zpow_sub_one₀ two_ne_zero]
        norm_num at above ⊢
        linarith
      · rw [zpow_sub_one₀ two_ne_zero]
        norm_num at less ⊢
        linarith
    · refine ⟨guess, if_neg less, ?_, ?_⟩
      · exact_mod_cast le_of_not_gt less
      · norm_num at below ⊢
        linarith
  rw [chosen]
  refine ⟨le_max_right _ _, ?_, ?_⟩
  · have grows : (2 : ℚ) ^ found ≤ 2 ^ max found (-1074) :=
      zpow_le_zpow_right₀ one_le_two (le_max_left _ _)
    linarith
  · rcases le_total found (-1074) with small | large
    · exact .inr (max_eq_right small)
    · rw [max_eq_left large]
      exact .inl low

/-! ## Nearest doubles -/

/-- How far the rationals that round to a double reach down from it, in its last place:
half, or a quarter where the double below is half as far as the one above. -/
def reachBelow (significand : Nat) (exponent : Int) : ℚ :=
  if significand = 4503599627370496 ∧ exponent ≠ -1074 then 1 / 4 else 1 / 2

/-- Whether a rational is nearest to `significand * 2 ^ exponent`. -/
structure IsNearest (significand : Nat) (exponent : Int) (value : ℚ) : Prop where
  low : (significand - reachBelow significand exponent) * 2 ^ exponent ≤ value
  high : value ≤ (significand + 1 / 2) * 2 ^ exponent
  inside : significand % 2 = 1 →
    (significand - reachBelow significand exponent) * 2 ^ exponent < value ∧
      value < (significand + 1 / 2) * 2 ^ exponent

theorem reachBelow_le (significand : Nat) (exponent : Int) :
    reachBelow significand exponent ≤ 1 / 2 := by
  rw [reachBelow]
  split <;> norm_num

theorem two_mul_zpow_le {exponent later : Int} (ordered : exponent < later) :
    (2 : ℚ) * 2 ^ exponent ≤ 2 ^ later := by
  rw [mul_comm, ← zpow_add_one₀ two_ne_zero]
  exact zpow_le_zpow_right₀ one_le_two ordered

variable {numerator denominator significand : Nat} {exponent : Int}

/-- A ratio nearest to a double has the exponent of the double, unless the double is a power
of two and the ratio lies below it. -/
theorem exponentFor_of_isNearest (normal : IsNormal significand exponent)
    (present : numerator ≠ 0) (positive : 0 < denominator)
    (nearest : IsNearest significand exponent (numerator / denominator)) :
    exponentFor numerator denominator = exponent ∨
      exponentFor numerator denominator = exponent - 1 ∧ significand = 4503599627370496 ∧
        exponent ≠ -1074 ∧ (numerator : ℚ) / denominator < 4503599627370496 * 2 ^ exponent := by
  obtain ⟨bounded, least, _, full⟩ := normal
  obtain ⟨foundLeast, below, above⟩ := exponentFor_spec present positive
  have low := nearest.low
  have high := nearest.high
  generalize (numerator : ℚ) / denominator = value at low high below above ⊢
  generalize exponentFor numerator denominator = found at foundLeast below above ⊢
  have place : (0 : ℚ) < 2 ^ exponent := zpow_pos two_pos exponent
  have small : (significand : ℚ) ≤ 9007199254740991 := by
    exact_mod_cast Nat.le_of_lt_succ bounded
  rcases lt_trichotomy found exponent with less | same | more
  · have half := two_mul_zpow_le less
    have large : 4503599627370496 ≤ significand := full.resolve_right (by omega)
    rcases Nat.eq_or_lt_of_le large with power | notPower
    · rw [reachBelow, if_pos ⟨power.symm, by omega⟩, ← power] at low
      refine .inr ⟨?_, power.symm, by omega, ?_⟩
      · by_contra other
        have quarter := two_mul_zpow_le (show found < exponent - 1 by omega)
        have next := two_mul_zpow_le (show exponent - 1 < exponent by omega)
        norm_num at low
        linarith
      · linarith
    · have reach := reachBelow_le significand exponent
      have large : (4503599627370497 : ℚ) ≤ significand := by exact_mod_cast notPower
      have : (4503599627370496 : ℚ) * 2 ^ exponent <
          (significand - reachBelow significand exponent) * 2 ^ exponent := by
        gcongr
        linarith
      linarith
  · exact .inl same
  · have double := two_mul_zpow_le more
    have : (significand + 1 / 2 : ℚ) * 2 ^ exponent < 9007199254740992 * 2 ^ exponent := by
      gcongr
      linarith
    rcases above with full | least
    · linarith
    · omega

section Nearest

variable (positive : 0 < denominator)
  (nearest : IsNearest significand exponent (numerator / denominator))
include nearest

/-- Zero is nearest to no other double. -/
theorem numerator_ne_zero (nonzero : significand ≠ 0) : numerator ≠ 0 := by
  rintro rfl
  have low := nearest.low
  have reach := reachBelow_le significand exponent
  have one : (1 : ℚ) ≤ significand := by exact_mod_cast Nat.one_le_iff_ne_zero.mpr nonzero
  have : 0 < (significand - reachBelow significand exponent) * 2 ^ exponent :=
    mul_pos (by linarith) (zpow_pos two_pos exponent)
  rw [Nat.cast_zero, zero_div] at low
  linarith

include positive

/-- At the exponent of the double, the ratio is rounded to its significand. -/
theorem roundHalfEven_of_isNearest :
    roundHalfEven (scaleDown numerator denominator exponent).1
      (scaleDown numerator denominator exponent).2 = significand := by
  have place : (0 : ℚ) < 2 ^ exponent := zpow_pos two_pos exponent
  have reach := reachBelow_le significand exponent
  have scaled := scaleDown_ratio numerator denominator exponent
  apply roundHalfEven_eq (scaleDown_pos numerator positive exponent)
  · rw [scaled, le_div_iff₀ place]
    exact le_trans (by gcongr) nearest.low
  · rw [scaled, div_le_iff₀ place]
    exact nearest.high
  · intro odd
    rw [scaled, lt_div_iff₀ place, div_lt_iff₀ place]
    exact ⟨lt_of_le_of_lt (by gcongr) (nearest.inside odd).1, (nearest.inside odd).2⟩

/-- Just below a power of two, one exponent lower, the ratio is rounded up to the next power. -/
theorem roundHalfEven_of_isNearest_power (power : significand = 4503599627370496)
    (off : exponent ≠ -1074)
    (below : (numerator : ℚ) / denominator < 4503599627370496 * 2 ^ exponent) :
    roundHalfEven (scaleDown numerator denominator (exponent - 1)).1
      (scaleDown numerator denominator (exponent - 1)).2 = 9007199254740992 := by
  have half : (2 : ℚ) ^ exponent = 2 * 2 ^ (exponent - 1) := by
    rw [zpow_sub_one₀ two_ne_zero]
    linarith
  have low := nearest.low
  rw [reachBelow, if_pos ⟨power, off⟩, power, half] at low
  rw [half] at below
  have place : (0 : ℚ) < 2 ^ (exponent - 1) := zpow_pos two_pos _
  have scaled := scaleDown_ratio numerator denominator (exponent - 1)
  apply roundHalfEven_eq (scaleDown_pos numerator positive (exponent - 1))
  · rw [scaled, le_div_iff₀ place]
    norm_num at low ⊢
    linarith
  · rw [scaled, div_le_iff₀ place]
    norm_num
    linarith
  · intro odd
    contradiction

/-- A ratio nearest to a double is rounded to it. -/
theorem ofRatio_of_isNearest (negative : Bool) (normal : IsNormal significand exponent)
    (nonzero : significand ≠ 0) :
    ofRatio negative numerator denominator = .finite negative significand exponent normal := by
  have present := numerator_ne_zero nearest nonzero
  have bounded := normal.1
  simp only [ofRatio, if_neg present]
  rcases exponentFor_of_isNearest normal present positive nearest with
    same | ⟨lower, power, off, below⟩
  · rw [same, roundHalfEven_of_isNearest positive nearest, if_neg (by omega)]
    exact dif_pos normal
  · rw [lower, roundHalfEven_of_isNearest_power positive nearest power off below]
    subst power
    rw [if_pos rfl, Int.sub_add_cancel]
    exact dif_pos normal

end Nearest

end Rollup.Double
