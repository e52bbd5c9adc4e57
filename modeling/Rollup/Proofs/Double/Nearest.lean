import Mathlib.Data.Rat.Floor
import Mathlib.Tactic.Linarith
import Rollup.Proofs.Double.Reading
import Rollup.Proofs.Number.Exact

/-!
# The error of rounding

A ratio is rounded to a double that is no further from it than half of the last place.  So
the error is small next to the number itself, and an integer among doubles with places after
the point is not passed: a number on one side of it is not rounded to the other side.
-/

namespace Rollup.Double

/-! ## Halves -/

/-- What a ratio is rounded to is within half of it. -/
theorem roundHalfEven_within (numerator : Nat) {denominator : Nat} (positive : 0 < denominator) :
    (numerator : ℚ) / denominator - 1 / 2 ≤ roundHalfEven numerator denominator ∧
      (roundHalfEven numerator denominator : ℚ) ≤ numerator / denominator + 1 / 2 := by
  have parts := Nat.div_add_mod numerator denominator
  have small := Nat.mod_lt numerator positive
  have cleared :
      2 * numerator ≤ 2 * (denominator * roundHalfEven numerator denominator) + denominator ∧
        2 * (denominator * roundHalfEven numerator denominator) ≤
          2 * numerator + denominator := by
    simp only [roundHalfEven]
    split
    · omega
    · split
      · rw [Nat.mul_succ]
        omega
      · rcases Nat.mod_two_eq_zero_or_one (numerator / denominator) with even | odd
        · rw [even, Nat.add_zero]
          omega
        · rw [odd, Nat.mul_succ]
          omega
  have unit : (0 : ℚ) < denominator := Nat.cast_pos.mpr positive
  obtain ⟨low, high⟩ := cleared
  qify at low high
  constructor
  · rw [sub_le_iff_le_add, div_le_iff₀ unit]
    linarith
  · rw [← sub_le_iff_le_add, le_div_iff₀ unit]
    linarith

/-! ## Rounded significands -/

/-- Whether a number is rounded to `significand * 2 ^ exponent`, which has fifty-three
significant bits unless the exponent is the least. -/
structure IsRounded (value : ℚ) (significand : Nat) (exponent : Int) : Prop where
  bounded : significand ≤ 9007199254740992
  low : value ≤ (significand + 1 / 2) * 2 ^ exponent
  high : (significand - 1 / 2) * 2 ^ exponent ≤ value
  full : 4503599627370496 * 2 ^ exponent ≤ value ∨ exponent = -1074

namespace IsRounded

variable {value : ℚ} {significand : Nat} {exponent : Int}

/-- A whole number of last places above the number is not passed. -/
theorem le_of_le (rounded : IsRounded value significand exponent) {places : Nat}
    (above : value ≤ places * 2 ^ exponent) : significand ≤ places := by
  have place : (0 : ℚ) < 2 ^ exponent := zpow_pos two_pos exponent
  have near : (significand : ℚ) - 1 / 2 ≤ places :=
    le_of_mul_le_mul_right (rounded.high.trans above) place
  have : (2 * significand : Nat) ≤ ((2 * places + 1 : Nat) : ℚ) := by
    push_cast
    linarith
  have := Nat.cast_le.mp this
  omega

/-- A whole number of last places below the number is not passed. -/
theorem ge_of_le (rounded : IsRounded value significand exponent) {places : Nat}
    (below : places * 2 ^ exponent ≤ value) : places ≤ significand := by
  have place : (0 : ℚ) < 2 ^ exponent := zpow_pos two_pos exponent
  have near : (places : ℚ) ≤ significand + 1 / 2 :=
    le_of_mul_le_mul_right (below.trans rounded.low) place
  have : (2 * places : Nat) ≤ ((2 * significand + 1 : Nat) : ℚ) := by
    push_cast
    linarith
  have := Nat.cast_le.mp this
  omega

/-- The error is at most `2 ^ (-53)` of the number, unless the exponent is the least. -/
theorem error_le (rounded : IsRounded value significand exponent)
    (full : 4503599627370496 * 2 ^ exponent ≤ value) :
    |significand * 2 ^ exponent - value| ≤ value / 2 ^ 53 := by
  have half : |(significand : ℚ) * 2 ^ exponent - value| ≤ 1 / 2 * 2 ^ exponent :=
    abs_le.mpr ⟨by linarith [rounded.low], by linarith [rounded.high]⟩
  refine half.trans ?_
  rw [le_div_iff₀ (by norm_num)]
  linarith

/-- At the least exponent all is below one. -/
theorem lt_one_of_least (rounded : IsRounded value significand (-1074)) :
    (significand : ℚ) * 2 ^ (-1074 : Int) < 1 := by
  have bounded : (significand : ℚ) ≤ 9007199254740992 := by exact_mod_cast rounded.bounded
  calc (significand : ℚ) * 2 ^ (-1074 : Int) ≤ 9007199254740992 * 2 ^ (-1074 : Int) := by gcongr
    _ ≤ 9007199254740992 * 2 ^ (-54 : Int) := by
        gcongr
        · exact one_le_two
        · decide
    _ < 1 := by norm_num

theorem natCast_eq_places (fine : exponent ≤ 0) (n : Nat) :
    (n : ℚ) = (n * 2 ^ (-exponent).toNat : Nat) * 2 ^ exponent := by
  obtain ⟨places, rfl⟩ : ∃ places : Nat, exponent = -(places : Int) :=
    ⟨(-exponent).toNat, by omega⟩
  rw [Int.neg_neg, Int.toNat_natCast, zpow_neg, zpow_natCast, Nat.cast_mul, Nat.cast_pow,
    Nat.cast_ofNat, mul_inv_cancel_right₀ (by positivity)]

/-- The integer part is that of the number, or it is no further from the number than the error
of rounding may be.  With places after the point, the two integers around the number are not
passed; without them, the double is an integer. -/
theorem floor_eq_or_near (rounded : IsRounded value significand exponent)
    (notNegative : 0 ≤ value) :
    ⌊(significand : ℚ) * 2 ^ exponent⌋ = ⌊value⌋ ∨
      |(⌊(significand : ℚ) * 2 ^ exponent⌋ : ℚ) - value| ≤ value / 2 ^ 53 := by
  rcases Int.le_total exponent 0 with fine | coarse
  · let n := ⌊value⌋₊
    have below : (n : ℚ) ≤ value := Nat.floor_le notNegative
    have above : value < (n + 1 : Nat) := by
      rw [Nat.cast_succ]
      exact Nat.lt_floor_add_one value
    have whole : ⌊value⌋ = n := Int.floor_eq_iff.mpr ⟨below, by exact_mod_cast above⟩
    have low : (n : ℚ) ≤ significand * 2 ^ exponent := by
      rw [natCast_eq_places fine n] at below ⊢
      gcongr
      exact rounded.ge_of_le below
    have high : (significand : ℚ) * 2 ^ exponent ≤ (n + 1 : Nat) := by
      have above := above.le
      rw [natCast_eq_places fine (n + 1)] at above ⊢
      gcongr
      exact rounded.le_of_le above
    rcases high.lt_or_eq with less | next
    · left
      rw [whole]
      exact Int.floor_eq_iff.mpr ⟨low, by exact_mod_cast less⟩
    · right
      rw [next, Int.floor_natCast, Int.cast_natCast, ← next]
      rcases rounded.full with full | rfl
      · exact rounded.error_le full
      · have small := rounded.lt_one_of_least
        rw [next, Nat.cast_succ] at small
        have : (0 : ℚ) ≤ n := Nat.cast_nonneg n
        linarith
  · right
    obtain ⟨power, rfl⟩ := Int.eq_ofNat_of_zero_le coarse
    have integer : (significand : ℚ) * 2 ^ (power : Int) = (significand * 2 ^ power : Nat) := by
      push_cast
      rw [zpow_natCast]
    rw [integer, Int.floor_natCast, Int.cast_natCast, ← integer]
    exact rounded.error_le (rounded.full.resolve_right (by omega))

/-- What is beyond the longs is not rounded to what is not. -/
theorem le_of_large (rounded : IsRounded value significand exponent) (large : 2 ^ 63 ≤ value) :
    2 ^ 63 ≤ (significand : ℚ) * 2 ^ exponent := by
  have place : (0 : ℚ) < 2 ^ exponent := zpow_pos two_pos exponent
  rcases Int.le_total exponent 63 with fine | coarse
  · obtain ⟨places, rfl⟩ : ∃ places : Nat, exponent = 63 - places :=
      ⟨(63 - exponent).toNat, by omega⟩
    have power : (2 : ℚ) ^ 63 = (2 ^ places : Nat) * 2 ^ ((63 : Int) - places) := by
      rw [Nat.cast_pow, Nat.cast_ofNat, zpow_sub₀ two_ne_zero, zpow_natCast,
        mul_div_cancel₀ _ (by positivity)]
      norm_num
    rw [power] at large ⊢
    gcongr
    exact rounded.ge_of_le large
  · have full := rounded.full.resolve_right (by omega)
    have counted : (4503599627370496 : Nat) ≤ significand :=
      rounded.ge_of_le (by exact_mod_cast full)
    calc (2 : ℚ) ^ 63 = 1 * 2 ^ (63 : Int) := by norm_num
      _ ≤ significand * 2 ^ exponent := by
          gcongr
          · exact_mod_cast (show 1 ≤ significand by omega)
          · exact one_le_two

/-- With an exponent beyond the greatest, the number is at least `2 ^ 1023`. -/
theorem large_of_coarse (rounded : IsRounded value significand exponent)
    (coarse : 971 ≤ exponent) : 2 ^ (1023 : Int) ≤ value :=
  calc (2 : ℚ) ^ (1023 : Int) = 4503599627370496 * 2 ^ (971 : Int) := by
        rw [show (1023 : Int) = 52 + 971 by decide, zpow_add₀ two_ne_zero]
        norm_num
    _ ≤ 4503599627370496 * 2 ^ exponent := by
        gcongr
        exact one_le_two
    _ ≤ value := rounded.full.resolve_right (by omega)

end IsRounded

/-! ## Ratios -/

/-- A ratio that is scaled to a significand of fifty-three bits is rounded to it. -/
theorem isRounded_roundHalfEven {numerator denominator : Nat} (present : numerator ≠ 0)
    (positive : 0 < denominator) :
    IsRounded (numerator / denominator)
      (roundHalfEven (scaleDown numerator denominator (exponentFor numerator denominator)).1
        (scaleDown numerator denominator (exponentFor numerator denominator)).2)
      (exponentFor numerator denominator) := by
  obtain ⟨_, below, full⟩ := exponentFor_spec present positive
  have unit := scaleDown_pos numerator positive (exponentFor numerator denominator)
  have within := roundHalfEven_within
    (scaleDown numerator denominator (exponentFor numerator denominator)).1 unit
  have place : (0 : ℚ) < 2 ^ exponentFor numerator denominator := zpow_pos two_pos _
  rw [scaleDown_ratio, sub_le_iff_le_add, div_le_iff₀ place, ← sub_le_iff_le_add,
    le_div_iff₀ place] at within
  refine ⟨?_, within.1, within.2, full⟩
  have small := lt_of_mul_lt_mul_right (within.2.trans_lt below) place.le
  refine Nat.le_of_lt_succ (Nat.cast_lt.mp ((sub_lt_iff_lt_add.mp small).trans ?_))
  norm_num

/-- A ratio is rounded to a finite double, unless it is at least `2 ^ 1023`. -/
theorem ofRatio_cases (negative : Bool) {numerator denominator : Nat} (present : numerator ≠ 0)
    (positive : 0 < denominator) :
    ∃ significand exponent, IsRounded (numerator / denominator) significand exponent ∧
      ((ofRatio negative numerator denominator).isFinite = true ∧
          (ofRatio negative numerator denominator).exact =
            (if negative then -(significand * 2 ^ exponent : ℚ) else significand * 2 ^ exponent) ∨
        ofRatio negative numerator denominator = .infinite negative ∧
          2 ^ (1023 : Int) ≤ (numerator : ℚ) / denominator) := by
  have least : -1074 ≤ exponentFor numerator denominator :=
    (exponentFor_spec present positive).1
  have rounded := isRounded_roundHalfEven present positive
  simp only [ofRatio, if_neg present]
  generalize roundHalfEven _ _ = significand at rounded ⊢
  generalize exponentFor numerator denominator = exponent at least rounded ⊢
  have bounded := rounded.bounded
  refine ⟨significand, exponent, rounded, ?_⟩
  split
  next top =>
    subst top
    by_cases normal : IsNormal 4503599627370496 (exponent + 1)
    · left
      rw [pack, dif_pos normal, exact_finite]
      refine ⟨rfl, ?_⟩
      have same : ((4503599627370496 : Nat) : ℚ) * 2 ^ (exponent + 1) =
          (9007199254740992 : Nat) * 2 ^ exponent := by
        rw [zpow_add_one₀ two_ne_zero]
        push_cast
        ring
      rw [same]
    · right
      rw [pack, dif_neg normal]
      simp only [IsNormal] at normal
      exact ⟨rfl, rounded.large_of_coarse (by omega)⟩
  next =>
    by_cases normal : IsNormal significand exponent
    · left
      rw [pack, dif_pos normal, exact_finite]
      exact ⟨rfl, rfl⟩
    · right
      rw [pack, dif_neg normal]
      refine ⟨rfl, rounded.large_of_coarse ?_⟩
      have significant : 4503599627370496 ≤ significand ∨ exponent = -1074 :=
        rounded.full.imp_left fun full => rounded.ge_of_le (by exact_mod_cast full)
      simp only [IsNormal] at normal
      omega

theorem two_pow_le_zpow {power : Nat} {bits : Int} (bounded : power ≤ bits) :
    (2 : ℚ) ^ power ≤ 2 ^ bits := by
  rw [← zpow_natCast]
  exact zpow_le_zpow_right₀ one_le_two bounded

/-- The double nearest to an integer of sixty-four bits is finite. -/
theorem isFinite_ofInt {i : Int} (small : i.natAbs ≤ 2 ^ 64) : (ofInt i).isFinite = true := by
  rw [ofInt]
  by_cases zero : i.natAbs = 0
  · rw [ofRatio, if_pos zero]
    rfl
  obtain ⟨_, _, _, ⟨finite, _⟩ | ⟨_, large⟩⟩ :=
    ofRatio_cases (decide (i < 0)) zero Nat.one_pos
  · exact finite
  · have bounded : (i.natAbs : ℚ) ≤ 2 ^ 64 := by exact_mod_cast small
    have strict : (2 : ℚ) ^ 64 < 2 ^ 65 := by norm_num
    have inside : (i.natAbs : ℚ) < 2 ^ (1023 : Int) :=
      (bounded.trans_lt strict).trans_le (two_pow_le_zpow (by decide))
    rw [Nat.cast_one, div_one] at large
    exact absurd large (not_le_of_gt inside)

/-! ## Decimals -/

/-- Whether a number is close enough to another one to be rounded from it, as far as whole
numbers are told apart by it. -/
structure IsCloseTo (value rounded : ℚ) : Prop where
  nonneg : 0 ≤ rounded
  whole : ⌊rounded⌋ = ⌊value⌋ ∨ |(⌊rounded⌋ : ℚ) - value| ≤ value / 2 ^ 53
  large : 2 ^ 63 ≤ value → 2 ^ 63 ≤ rounded

theorem IsRounded.isCloseTo {value : ℚ} {significand : Nat} {exponent : Int}
    (rounded : IsRounded value significand exponent) (notNegative : 0 ≤ value) :
    IsCloseTo value (significand * 2 ^ exponent) :=
  ⟨by positivity, rounded.floor_eq_or_near notNegative, rounded.le_of_large⟩

/-- A decimal is rounded to a finite double that is close to it, unless it is beyond the
longs. -/
theorem ofDecimal_cases (negative : Bool) (count : Nat) (power : Int) :
    (∃ rounded, IsCloseTo (count * 10 ^ power) rounded ∧
      (ofDecimal negative count power).isFinite = true ∧
      (ofDecimal negative count power).exact = if negative then -rounded else rounded) ∨
    ofDecimal negative count power = .infinite negative ∧ 2 ^ 64 ≤ (count : ℚ) * 10 ^ power := by
  have ofZero (small : (count : ℚ) * 10 ^ power < 1) : ∃ rounded,
      IsCloseTo (count * 10 ^ power) rounded ∧ (zero negative).isFinite = true ∧
        (zero negative).exact = if negative then -rounded else rounded := by
    refine ⟨0, ⟨le_rfl, .inl ?_, fun large => ?_⟩, rfl, ?_⟩
    · rw [Int.floor_zero, eq_comm, Int.floor_eq_zero_iff]
      exact ⟨by positivity, small⟩
    · linarith
    · rw [exact_zero, neg_zero, ite_self]
  simp only [ofDecimal]
  split
  next absent =>
    subst absent
    exact .inl (ofZero (by rw [Nat.cast_zero, zero_mul]; exact one_pos))
  next present =>
  split
  next large =>
    right
    refine ⟨rfl, ?_⟩
    by_contra small
    have := log2_estimate_le present
      ((not_le.mp small).trans_le (two_pow_le_zpow (by decide)))
    omega
  next =>
  split
  next small =>
    left
    refine ofZero ?_
    by_contra large
    have := neg_le_log2_estimate
      ((zpow_le_one_of_nonpos₀ one_le_two (by decide)).trans (not_lt.mp large))
    omega
  next =>
  have ofRatio {numerator denominator : Nat} (numeratorPresent : numerator ≠ 0)
      (positive : 0 < denominator)
      (same : (numerator : ℚ) / denominator = count * 10 ^ power) :
      (∃ rounded, IsCloseTo (count * 10 ^ power) rounded ∧
        (ofRatio negative numerator denominator).isFinite = true ∧
        (ofRatio negative numerator denominator).exact =
          if negative then -rounded else rounded) ∨
      ofRatio negative numerator denominator = .infinite negative ∧
        2 ^ 64 ≤ (count : ℚ) * 10 ^ power := by
    obtain ⟨significand, exponent, rounded, found⟩ :=
      ofRatio_cases negative numeratorPresent positive
    rw [same] at rounded found
    rcases found with ⟨finite, exact⟩ | ⟨infinite, large⟩
    · exact .inl ⟨_, rounded.isCloseTo (by positivity), finite, exact⟩
    · exact .inr ⟨infinite, (two_pow_le_zpow (by decide)).trans large⟩
  split
  next whole =>
    obtain ⟨zeros, rfl⟩ := Int.eq_ofNat_of_zero_le whole
    refine ofRatio (Nat.mul_ne_zero present (Nat.pow_pos (by decide)).ne') Nat.one_pos ?_
    simp
  next fraction =>
    obtain ⟨places, rfl⟩ : ∃ places : Nat, power = -(places : Int) := ⟨(-power).toNat, by omega⟩
    refine ofRatio present (Nat.pow_pos (by decide)) ?_
    simp [div_eq_mul_inv]

end Rollup.Double
