import Rollup.Proofs.Double.Reading

/-!
# Numbers that are read from displayed doubles

A displayed double is read as the double again, unless it is displayed like a long.  This
is so for the whole numbers below `2 ^ 63`, and only for them: each is read as a long to
which it is the nearest double, the same number as long as it is below `2 ^ 53`.
-/

namespace Rollup

open Text

namespace Double

variable {significand : Nat} {exponent : Int}

/-! ## Whole numbers -/

/-- The natural number that a whole double is displayed as, its sign aside. -/
def displayedNatural (significand : Nat) (exponent : Int) : Nat :=
  (displayed significand exponent).1 * 10 ^ (displayed significand exponent).2.toNat

@[simp]
theorem displayed_zero (exponent : Int) : displayed 0 exponent = (0, 0) :=
  if_pos rfl

theorem displayed_of_ne_zero (nonzero : significand ≠ 0) (exponent : Int) :
    displayed significand exponent = shortest significand exponent :=
  if_neg nonzero

section Whole

variable (normal : IsNormal significand exponent)
  (whole : 0 ≤ (displayed significand exponent).2)
include normal whole

theorem isNearest_displayedNatural (nonzero : significand ≠ 0) :
    IsNearest significand exponent (displayedNatural significand exponent) := by
  have nearest := shortest_isNearest normal nonzero
  rw [← displayed_of_ne_zero nonzero, ← Int.toNat_of_nonneg whole, zpow_natCast] at nearest
  rw [displayedNatural, Nat.cast_mul, Nat.cast_pow, Nat.cast_ofNat]
  exact nearest

/-- A double without places above the point is displayed as itself. -/
theorem displayedNatural_eq (fine : exponent ≤ 0) :
    (significand : ℚ) * 2 ^ exponent = displayedNatural significand exponent := by
  by_cases zero : significand = 0
  · subst zero
    simp [displayedNatural]
  · exact (isNearest_displayedNatural normal whole zero).eq_of_natural fine

omit whole in
/-- A double is displayed without a point exactly when it is a whole number. -/
theorem displayed_nonneg_iff :
    0 ≤ (displayed significand exponent).2 ↔
      ∃ count : Nat, (significand : ℚ) * 2 ^ exponent = count := by
  constructor
  · intro whole
    rcases Int.le_total exponent 0 with fine | coarse
    · exact ⟨_, displayedNatural_eq normal whole fine⟩
    · obtain ⟨power, rfl⟩ := Int.eq_ofNat_of_zero_le coarse
      exact ⟨significand * 2 ^ power, by push_cast; rw [zpow_natCast]⟩
  · rintro ⟨count, same⟩
    by_cases zero : significand = 0
    · subst zero
      rw [displayed_zero]
    · rw [displayed_of_ne_zero zero]
      exact shortest_nonneg_of_whole normal zero same

/-- What is displayed for a whole number below `2 ^ 63` is below it too: the next double
is no further away, since both are multiples of the last place. -/
theorem displayedNatural_lt (small : (significand : ℚ) * 2 ^ exponent < 2 ^ 63) :
    displayedNatural significand exponent < 2 ^ 63 := by
  rcases Int.le_total exponent 0 with fine | coarse
  · rw [displayedNatural_eq normal whole fine] at small
    exact_mod_cast small
  · obtain ⟨power, rfl⟩ := Int.eq_ofNat_of_zero_le coarse
    have full : 4503599627370496 ≤ significand := normal.2.2.2.resolve_right (by omega)
    have high := (isNearest_displayedNatural normal whole (by omega)).high
    rw [zpow_natCast] at small high
    have below : significand * 2 ^ power < 2 ^ 63 := by exact_mod_cast small
    have places : power ≤ 63 := by
      by_contra more
      have := Nat.pow_le_pow_right two_pos (Nat.le_of_not_le more)
      have := Nat.mul_le_mul full this
      omega
    obtain ⟨rest, split⟩ := Nat.exists_eq_add_of_le' places
    have next : (significand + 1) * 2 ^ power ≤ 2 ^ 63 := by
      rw [split, Nat.pow_add] at below ⊢
      exact Nat.mul_le_mul_right _ (Nat.lt_of_mul_lt_mul_right below)
    have unit : (0 : ℚ) < 2 ^ power := by positivity
    have bounded : ((significand : ℚ) + 1) * 2 ^ power ≤ 2 ^ 63 := by exact_mod_cast next
    have : (displayedNatural significand power : ℚ) < 2 ^ 63 := by linarith
    exact_mod_cast this

/-- What is displayed for a whole number from `2 ^ 63` up is above it: for that power itself
the digits are `9223372036854776`, and any other is further away than its interval reaches. -/
theorem lt_displayedNatural (large : 2 ^ 63 ≤ (significand : ℚ) * 2 ^ exponent) :
    2 ^ 63 < displayedNatural significand exponent := by
  have coarse : 11 ≤ exponent := by
    by_contra fine
    have bounded : (significand : ℚ) < 2 ^ 53 := by exact_mod_cast normal.1
    have : (significand : ℚ) * 2 ^ exponent < 2 ^ 63 := by
      calc (significand : ℚ) * 2 ^ exponent < 2 ^ 53 * 2 ^ exponent := by gcongr
        _ ≤ 2 ^ 53 * 2 ^ (10 : Int) := by
            gcongr
            · exact one_le_two
            · omega
        _ = 2 ^ 63 := by norm_num
    linarith
  have full : 4503599627370496 ≤ significand := normal.2.2.2.resolve_right (by omega)
  rcases Nat.eq_or_lt_of_le full with power | notPower
  · rcases Int.le_iff_eq_or_lt.mp coarse with least | more
    · subst power least
      decide +kernel
    · have low := (isNearest_displayedNatural normal whole (by omega)).low
      rw [reachBelow, if_pos ⟨power.symm, by omega⟩] at low
      have above : (2 ^ 63 : ℚ) < displayedNatural significand exponent := by
        refine lt_of_lt_of_le ?_ low
        calc (2 : ℚ) ^ 63 < (4503599627370496 - 1 / 4) * 2 ^ (12 : Int) := by norm_num
          _ ≤ (significand - 1 / 4) * 2 ^ exponent := by
              have big : (4503599627370496 : ℚ) ≤ significand := by exact_mod_cast full
              have place : (2 : ℚ) ^ (12 : Int) ≤ 2 ^ exponent :=
                zpow_le_zpow_right₀ one_le_two more
              exact mul_le_mul (by linarith) place (by positivity) (by linarith)
      exact_mod_cast above
  · have low := (isNearest_displayedNatural normal whole (by omega)).low
    have reach := reachBelow_le significand exponent
    have big : (4503599627370497 : ℚ) ≤ significand := by exact_mod_cast notPower
    have above : (2 ^ 63 : ℚ) < displayedNatural significand exponent := by
      refine lt_of_lt_of_le ?_ low
      calc (2 : ℚ) ^ 63 < (4503599627370497 - 1 / 2) * 2 ^ (11 : Int) := by norm_num
        _ ≤ (significand - reachBelow significand exponent) * 2 ^ exponent := by
            have place : (2 : ℚ) ^ (11 : Int) ≤ 2 ^ exponent :=
              zpow_le_zpow_right₀ one_le_two coarse
            exact mul_le_mul (by linarith) place (by positivity) (by linarith)
    exact_mod_cast above

omit normal whole in
@[simp]
theorem natAbs_signed (negative : Bool) (magnitude : Nat) :
    (signed negative magnitude).natAbs = magnitude := by
  cases negative <;> simp [signed]

/-- What a whole number is displayed as is a long, with its sign, exactly below `2 ^ 63`. -/
theorem fits_displayedNatural_iff (negative : Bool) :
    Long.Fits (signed negative (displayedNatural significand exponent)) ↔
      (significand : ℚ) * 2 ^ exponent < 2 ^ 63 := by
  constructor
  · intro fits
    by_contra large
    have := lt_displayedNatural normal whole (not_lt.mp large)
    simp only [Long.Fits, signed] at fits
    split at fits <;> omega
  · intro small
    have := displayedNatural_lt normal whole small
    simp only [Long.Fits, signed]
    split <;> omega

/-- A double that is not zero is nearest to the whole number that it is displayed as. -/
theorem ofInt_displayedNatural (negative : Bool) (nonzero : significand ≠ 0) :
    ofInt (signed negative (displayedNatural significand exponent)) =
      .finite negative significand exponent normal := by
  have nearest := isNearest_displayedNatural normal whole nonzero
  have positive : 0 < displayedNatural significand exponent := by
    rw [← Nat.cast_pos (α := ℚ)]
    exact lt_of_lt_of_le (zpow_pos two_pos _) (nearest.bounds normal nonzero).1
  have sign : decide (signed negative (displayedNatural significand exponent) < 0) = negative := by
    cases negative <;> simp [signed, positive]
  rw [ofInt, sign, natAbs_signed]
  refine ofRatio_of_isNearest Nat.one_pos ?_ negative normal nonzero
  rwa [Nat.cast_one, div_one]

end Whole

/-! ## Displayed doubles as numbers -/

/-- Whether a double is a whole number below `2 ^ 63`, its sign aside. -/
def IsWhole (value : Double) : Prop :=
  value.isFinite = true ∧ ∃ whole : Int, value.exact = whole ∧ whole.natAbs < 2 ^ 63

/-- What a double is read as once it has been displayed: a whole number below `2 ^ 63` as
the long of its digits, which it is the nearest double to, and any other as itself. -/
inductive DisplayedAs (value : Double) : Number → Prop
  | long {long : Long} (whole : value.IsWhole)
      (shown : Long.ofText? value.displayText.toList = some long)
      (exact : |value.exact| < 2 ^ 53 → (long.toInt : ℚ) = value.exact)
      (nearest : value.isZero = false → ofInt long.toInt = value) :
      DisplayedAs value (.integer long)
  | itself (notWhole : ¬ value.IsWhole) : DisplayedAs value (.float value)

theorem abs_exact_finite (negative : Bool) (normal : IsNormal significand exponent) :
    |(Double.finite negative significand exponent normal).exact| = significand * 2 ^ exponent := by
  have present : (0 : ℚ) ≤ significand * 2 ^ exponent := by positivity
  rw [exact_finite]
  split
  · rw [abs_neg, abs_of_nonneg present]
  · exact abs_of_nonneg present

/-- A finite double is a whole number below `2 ^ 63` exactly when it is displayed as one. -/
theorem isWhole_finite_iff (negative : Bool) (normal : IsNormal significand exponent) :
    (Double.finite negative significand exponent normal).IsWhole ↔
      0 ≤ (displayed significand exponent).2 ∧ (significand : ℚ) * 2 ^ exponent < 2 ^ 63 := by
  have size := abs_exact_finite negative normal
  rw [displayed_nonneg_iff normal]
  constructor
  · rintro ⟨_, whole, same, small⟩
    rw [same, ← Int.cast_abs, ← Nat.cast_natAbs] at size
    rw [← size]
    exact ⟨⟨whole.natAbs, rfl⟩, by exact_mod_cast small⟩
  · rintro ⟨⟨count, same⟩, small⟩
    rw [same] at small
    refine ⟨rfl, signed negative count, ?_, ?_⟩
    · rw [exact_finite, same]
      cases negative <;> simp [signed]
    · rw [natAbs_signed]
      exact_mod_cast small

/-- A double below `2 ^ 53` has no places above the point. -/
theorem exponent_nonpos_of_lt (normal : IsNormal significand exponent)
    (below : (significand : ℚ) * 2 ^ exponent < 2 ^ 53) : exponent ≤ 0 := by
  by_contra coarse
  have full : (4503599627370496 : ℚ) ≤ significand := by
    exact_mod_cast normal.2.2.2.resolve_right (by omega)
  have place : (2 : ℚ) ^ (1 : Int) ≤ 2 ^ exponent := zpow_le_zpow_right₀ one_le_two (by omega)
  have large : (4503599627370496 : ℚ) * 2 ^ (1 : Int) ≤ significand * 2 ^ exponent :=
    mul_le_mul full place (by positivity) (by positivity)
  norm_num at large below
  linarith

/-- No blanks are displayed. -/
@[simp]
theorem trim_displayText (value : Double) :
    trim value.displayText.toList = value.displayText.toList := by
  cases value with
  | nan => rfl
  | infinite negative => cases negative <;> rfl
  | finite negative significand exponent normal =>
      have decimals : ∀ c ∈ Layout.display.magnitude significand exponent, isBlank c = false := by
        rw [magnitude_display]
        obtain ⟨first, rest, same, digit, decimal⟩ := isMantissa_plainDigits false
          ((digits (displayed significand exponent).1).length +
            (displayed significand exponent).2)
          (digits_ne_nil (displayed significand exponent).1) fun _ => isDigit_of_mem_digits
        rw [same]
        refine List.forall_mem_cons.mpr ⟨not_isBlank_of_isDigit digit, fun c listed => ?_⟩
        rcases decimal c listed with digit | rfl
        · exact not_isBlank_of_isDigit digit
        · rfl
      apply trim_of_forall_not_isBlank
      rw [displayText, Layout.text, String.toList_ofList]
      cases negative with
      | false => exact decimals
      | true => exact List.forall_mem_cons.mpr ⟨rfl, decimals⟩

/-- A whole number below `2 ^ 63` is displayed as a long that it is nearest to. -/
theorem exists_long_of_isWhole {value : Double} (whole : value.IsWhole) :
    ∃ long, Long.ofText? value.displayText.toList = some long ∧
      value.DisplayedAs (.integer long) := by
  cases value with
  | nan => cases whole.1
  | infinite negative => cases whole.1
  | finite negative significand exponent normal =>
      obtain ⟨placed, small⟩ := (isWhole_finite_iff negative normal).mp whole
      have fits := (fits_displayedNatural_iff normal placed negative).mpr small
      have shown : Long.ofText? (Double.finite negative significand exponent
          normal).displayText.toList =
            some (Int64.ofInt (signed negative (displayedNatural significand exponent))) := by
        rw [Long.ofText?, integer?_displayText, if_pos placed]
        exact if_pos fits
      refine ⟨_, shown, .long whole shown (fun below => ?_) (fun present => ?_)⟩
      · rw [abs_exact_finite] at below
        have fine := exponent_nonpos_of_lt normal below
        rw [Long.toInt_ofInt fits, exact_finite, displayedNatural_eq normal placed fine]
        cases negative <;> simp [signed]
      · have nonzero : significand ≠ 0 := by
          rintro rfl
          cases present
        rw [Long.toInt_ofInt fits, ofInt_displayedNatural normal placed negative nonzero]

/-- No other double is displayed as a long. -/
theorem not_long_of_not_isWhole {value : Double} (notWhole : ¬ value.IsWhole) :
    Long.ofText? value.displayText.toList = none := by
  cases value with
  | nan => rfl
  | infinite negative => cases negative <;> rfl
  | finite negative significand exponent normal =>
      rw [isWhole_finite_iff, not_and] at notWhole
      rw [Long.ofText?, integer?_displayText]
      by_cases placed : 0 ≤ (displayed significand exponent).2
      · have unfit := mt (fits_displayedNatural_iff normal placed negative).mp (notWhole placed)
        rw [if_pos placed]
        exact if_neg unfit
      · rw [if_neg placed]
        rfl

end Double

/-- A displayed double is read as a number that it is displayed as. -/
theorem Number.exists_ofText?_displayText (value : Double) :
    ∃ number, Number.ofText? value.displayText = some number ∧ value.DisplayedAs number := by
  rw [Number.ofText?, Double.trim_displayText, Floating.ofText?_eq, Double.ofText?_displayText]
  by_cases whole : value.IsWhole
  · obtain ⟨long, read, displayed⟩ := Double.exists_long_of_isWhole whole
    exact ⟨.integer long, by rw [read], displayed⟩
  · exact ⟨.float value, by rw [Double.not_long_of_not_isWhole whole, Option.map_some], .itself whole⟩

end Rollup
