import Mathlib.Data.List.TakeWhile
import Rollup.Proofs.Double.Shortest
import Rollup.Proofs.Double.Notation
import Rollup.Proofs.Number.Exact
/-!
# Displayed doubles are read back

A decimal that is nearest to a double is read as it, whichever of its forms is written.  So
is the shortest one, which is what a double is displayed by: every double is read back from
the text that displays it.
-/

namespace Rollup.Double

open Text

variable {significand count : Nat} {exponent power : Int}

/-! ## Reading decimals -/

/-- What is nearest to a double lies between half of the least one and `2 ^ 1024`. -/
theorem IsNearest.bounds {value : ℚ} (normal : IsNormal significand exponent)
    (nonzero : significand ≠ 0) (nearest : IsNearest significand exponent value) :
    2 ^ (-1075 : Int) ≤ value ∧ value < 2 ^ (1024 : Int) := by
  obtain ⟨bounded, least, greatest, _⟩ := normal
  have one : (1 : ℚ) ≤ significand := Nat.one_le_cast.mpr (Nat.one_le_iff_ne_zero.mpr nonzero)
  have small : (significand : ℚ) + 1 ≤ 9007199254740992 := by exact_mod_cast bounded
  have reach := reachBelow_le significand exponent
  constructor
  · refine le_trans ?_ nearest.low
    calc (2 : ℚ) ^ (-1075 : Int) = 1 / 2 * 2 ^ (-1074 : Int) := by
          rw [show (-1075 : Int) = -1074 - 1 by decide, zpow_sub_one₀ two_ne_zero]
          ring
      _ ≤ 1 / 2 * 2 ^ exponent := by
          gcongr
          exact one_le_two
      _ ≤ (significand - reachBelow significand exponent) * 2 ^ exponent := by
          gcongr
          linarith
  · refine lt_of_le_of_lt nearest.high ?_
    calc ((significand : ℚ) + 1 / 2) * 2 ^ exponent
        < 9007199254740992 * 2 ^ exponent := by
          gcongr
          linarith
      _ ≤ 9007199254740992 * 2 ^ (971 : Int) := by
          gcongr
          exact one_le_two
      _ = 2 ^ (1024 : Int) := by
          rw [show (1024 : Int) = 53 + 971 by decide, zpow_add₀ two_ne_zero]
          norm_num

/-- A decimal in the range of doubles is not beyond it by its logarithms. -/
theorem log2_estimate_le (present : count ≠ 0)
    (inside : (count : ℚ) * 10 ^ power < 2 ^ (1024 : Int)) :
    (count.log2 : Int) * 3 / 10 + power ≤ 312 := by
  by_contra large
  have top : (2 : ℚ) ^ (count.log2 : Int) ≤ count := by
    exact_mod_cast Nat.log2_self_le present
  have tens : (2 : ℚ) ^ min (10 * power / 3) (33 * power / 10) ≤ 10 ^ power :=
    two_zpow_le (by omega) (by omega)
  have outside : (2 : ℚ) ^ (1024 : Int) ≤ count * 10 ^ power := by
    calc (2 : ℚ) ^ (1024 : Int)
        ≤ 2 ^ ((count.log2 : Int) + min (10 * power / 3) (33 * power / 10)) :=
          zpow_le_zpow_right₀ one_le_two (by omega)
      _ = 2 ^ (count.log2 : Int) * 2 ^ min (10 * power / 3) (33 * power / 10) :=
          zpow_add₀ two_ne_zero _ _
      _ ≤ count * 10 ^ power := by gcongr
  exact absurd inside (not_lt_of_ge outside)

/-- A decimal in the range of doubles is not below it by its logarithms. -/
theorem neg_le_log2_estimate (inside : 2 ^ (-1075 : Int) ≤ (count : ℚ) * 10 ^ power) :
    -power ≤ 2 * (count.log2 : Int) + 332 := by
  by_contra small
  have topNext : (count : ℚ) < 2 ^ ((count.log2 : Int) + 1) := by
    exact_mod_cast Nat.lt_log2_self
  have tens : (10 : ℚ) ^ power ≤ 2 ^ (-(33 * -power / 10)) :=
    ten_zpow_le (by omega) (by omega)
  have outside : (count : ℚ) * 10 ^ power < 2 ^ (-1075 : Int) := by
    calc (count : ℚ) * 10 ^ power
        < 2 ^ ((count.log2 : Int) + 1) * 10 ^ power := by gcongr
      _ ≤ 2 ^ ((count.log2 : Int) + 1) * 2 ^ (-(33 * -power / 10)) := by gcongr
      _ = 2 ^ ((count.log2 : Int) + 1 + -(33 * -power / 10)) := (zpow_add₀ two_ne_zero _ _).symm
      _ ≤ 2 ^ (-1075 : Int) := zpow_le_zpow_right₀ one_le_two (by omega)
  exact absurd inside (not_le_of_gt outside)

/-- A decimal nearest to a double is read as it. -/
theorem ofDecimal_of_isNearest (negative : Bool) (normal : IsNormal significand exponent)
    (nonzero : significand ≠ 0)
    (nearest : IsNearest significand exponent (count * 10 ^ power)) :
    ofDecimal negative count power = .finite negative significand exponent normal := by
  obtain ⟨low, high⟩ := nearest.bounds normal nonzero
  have present : count ≠ 0 := by
    rintro rfl
    rw [Nat.cast_zero, zero_mul] at low
    exact absurd low (not_le_of_gt (zpow_pos two_pos _))
  have notLarge := not_lt_of_ge (log2_estimate_le present high)
  have notSmall := not_lt_of_ge (neg_le_log2_estimate low)
  simp only [ofDecimal, if_neg present, if_neg notLarge, if_neg notSmall]
  split
  next whole =>
    obtain ⟨zeros, rfl⟩ := Int.eq_ofNat_of_zero_le whole
    refine ofRatio_of_isNearest Nat.one_pos ?_ negative normal nonzero
    simpa using nearest
  next fraction =>
    obtain ⟨places, rfl⟩ : ∃ places : Nat, power = -(places : Int) := ⟨(-power).toNat, by omega⟩
    refine ofRatio_of_isNearest (Nat.pow_pos (by decide)) ?_ negative normal nonzero
    simpa [div_eq_mul_inv] using nearest

/-! ## Written digits -/

theorem forall_zeros_isDigit (places : Nat) :
    ∀ c ∈ List.replicate places '0', c.isDigit = true :=
  fun _ listed => List.eq_of_mem_replicate listed ▸ rfl

/-- A number without places after the point is written as its digits and zeros. -/
theorem plainDigits_of_nonneg (count : Nat) {power : Int} (whole : 0 ≤ power) :
    plainDigits false (digits count) ((digits count).length + power) =
      digits count ++ List.replicate power.toNat '0' := by
  have positive : 0 < (digits count).length := List.length_pos_iff.mpr (digits_ne_nil count)
  have zeros : ((digits count).length + power).toNat - (digits count).length = power.toNat := by
    omega
  rw [plainDigits, if_neg (by omega), if_pos (by omega), if_neg Bool.false_ne_true,
    List.append_nil, zeros]

/-- Any other number is written with a point between its digits. -/
theorem plainDigits_of_neg (count : Nat) {power : Int} (fractional : power < 0) :
    ∃ whole fraction, plainDigits false (digits count) ((digits count).length + power) =
        whole ++ '.' :: fraction ∧
      whole ≠ [] ∧ (∀ c ∈ whole, c.isDigit = true) ∧ (∀ c ∈ fraction, c.isDigit = true) ∧
      digitsValue (whole ++ fraction) = count ∧ (fraction.length : Int) = -power := by
  have each : ∀ c ∈ digits count, c.isDigit = true := fun _ => isDigit_of_mem_digits
  unfold plainDigits
  split
  next small =>
    have value := digitsValue_zeros_append
      (1 + (-((digits count).length + power)).toNat) (digits count)
    rw [List.replicate_add, List.append_assoc, digitsValue_digits] at value
    refine ⟨['0'], _, rfl, List.cons_ne_nil _ _, List.forall_mem_singleton.mpr rfl,
      List.forall_mem_append.mpr ⟨forall_zeros_isDigit _, each⟩, value, ?_⟩
    rw [List.length_append, List.length_replicate]
    omega
  next large =>
    rw [if_neg (by omega)]
    refine ⟨_, _, rfl, ?_, fun c listed => each c (List.mem_of_mem_take listed),
      fun c listed => each c (List.mem_of_mem_drop listed), ?_, ?_⟩
    · rw [Ne, List.take_eq_nil_iff]
      rintro (empty | empty)
      · omega
      · exact digits_ne_nil count empty
    · rw [List.take_append_drop, digitsValue_digits]
    · rw [List.length_drop]
      omega

/-- Digits are split at the point between them. -/
theorem splitPoint_point {whole fraction : List Char} (wholeDigits : ∀ c ∈ whole, c.isDigit = true)
    (fractionDigits : ∀ c ∈ fraction, c.isDigit = true) :
    splitPoint (whole ++ '.' :: fraction) = (whole, fraction, []) := by
  have taken : (whole ++ '.' :: fraction).takeWhile Char.isDigit = whole := by
    rw [List.takeWhile_append_of_pos wholeDigits]
    exact List.append_nil _
  have dropped : (whole ++ '.' :: fraction).dropWhile Char.isDigit = '.' :: fraction := by
    rw [List.dropWhile_append_of_pos wholeDigits]
    rfl
  simp only [splitPoint, taken, dropped, List.takeWhile_eq_self_iff.mpr fractionDigits,
    List.dropWhile_eq_nil_iff.mpr fractionDigits]

/-- The decimal that is written for a number of digits and a power of ten: without a point,
the zeros are digits of it. -/
def writtenDecimal (negative : Bool) (count : Nat) (power : Int) : Decimal :=
  if 0 ≤ power then ⟨negative, count * 10 ^ power.toNat, 0⟩ else ⟨negative, count, power⟩

/-- Digits and zeros, or digits around a point, are read as they were written. -/
theorem unsigned?_plainDigits (negative : Bool) (count : Nat) (power : Int) :
    Decimal.unsigned? negative
        (plainDigits false (digits count) ((digits count).length + power)) =
      some (writtenDecimal negative count power) := by
  have each : ∀ c ∈ digits count, c.isDigit = true := fun _ => isDigit_of_mem_digits
  by_cases whole : 0 ≤ power
  · have split := splitPoint_digits
      (List.forall_mem_append.mpr ⟨each, forall_zeros_isDigit power.toNat⟩)
    have nonempty := List.append_ne_nil_of_left_ne_nil (digits_ne_nil count)
      (List.replicate power.toNat '0')
    rw [plainDigits_of_nonneg count whole, Decimal.unsigned?_of_splitPoint negative split nonempty,
      writtenDecimal, if_pos whole, List.append_nil, digitsValue_append_zeros,
      digitsValue_digits]
    rfl
  · obtain ⟨front, behind, written, nonempty, frontDigits, behindDigits, value, places⟩ :=
      plainDigits_of_neg count (not_le.mp whole)
    rw [written, Decimal.unsigned?_of_splitPoint negative (splitPoint_point frontDigits behindDigits)
      nonempty, writtenDecimal, if_neg whole, value, places, Int.neg_neg]

/-- A text of digits is the whole number that they are written for; a point is no digit. -/
theorem natural?_plainDigits (count : Nat) (power : Int) :
    natural? (plainDigits false (digits count) ((digits count).length + power)) =
      if 0 ≤ power then some (count * 10 ^ power.toNat) else none := by
  by_cases whole : 0 ≤ power
  · have each : (digits count ++ List.replicate power.toNat '0').all Char.isDigit = true := by
      rw [List.all_eq_true]
      exact List.forall_mem_append.mpr
        ⟨fun _ => isDigit_of_mem_digits, forall_zeros_isDigit _⟩
    have present : (digits count ++ List.replicate power.toNat '0').isEmpty = false :=
      List.isEmpty_eq_false_iff.mpr
        (List.append_ne_nil_of_left_ne_nil (digits_ne_nil count) _)
    rw [plainDigits_of_nonneg count whole, if_pos whole, natural?, each, present, Bool.not_false,
      Bool.and_self, if_pos rfl, digitsValue_append_zeros, digitsValue_digits]
  · obtain ⟨front, behind, written, _⟩ := plainDigits_of_neg count (not_le.mp whole)
    have pointed : (front ++ '.' :: behind).all Char.isDigit = false := by
      rw [List.all_append, List.all_cons, show '.'.isDigit = false from rfl, Bool.false_and,
        Bool.and_false]
    rw [written, if_neg whole, natural?, pointed, Bool.and_false, if_neg Bool.false_ne_true]

/-! ## Displayed doubles -/

/-- The digits and the power of ten that a finite double is displayed by. -/
def displayed (significand : Nat) (exponent : Int) : Nat × Int :=
  if significand = 0 then (0, 0) else shortest significand exponent

theorem magnitude_display (significand : Nat) (exponent : Int) :
    Layout.display.magnitude significand exponent =
      plainDigits false (digits (displayed significand exponent).1)
        ((digits (displayed significand exponent).1).length +
          (displayed significand exponent).2) := by
  unfold Layout.magnitude displayed
  split
  · rfl
  · rfl

/-- What is displayed is a sign and then digits. -/
theorem splitSign_displayText (negative : Bool) (normal : IsNormal significand exponent) :
    splitSign (Double.finite negative significand exponent normal).displayText.toList =
      (negative, Layout.display.magnitude significand exponent) := by
  rw [displayText, Layout.text, String.toList_ofList]
  cases negative with
  | true => rfl
  | false =>
      rw [magnitude_display]
      obtain ⟨first, rest, starts, digit, _⟩ := isMantissa_plainDigits false
        ((digits (displayed significand exponent).1).length + (displayed significand exponent).2)
        (digits_ne_nil (displayed significand exponent).1) fun _ => isDigit_of_mem_digits
      rw [starts]
      exact splitSign_of_isDigit digit rest

theorem toDouble_writtenDecimal (negative : Bool) (normal : IsNormal significand exponent) :
    (writtenDecimal negative (displayed significand exponent).1
      (displayed significand exponent).2).toDouble =
      .finite negative significand exponent normal := by
  by_cases zero : significand = 0
  · subst zero
    obtain rfl : exponent = -1074 := normal.2.2.2.resolve_left (by decide)
    rfl
  · rw [displayed, if_neg zero]
    have nearest := shortest_isNearest normal zero
    rw [writtenDecimal]
    split
    next whole =>
      apply ofDecimal_of_isNearest negative normal zero
      rw [← Int.toNat_of_nonneg whole, zpow_natCast] at nearest
      simpa using nearest
    next => exact ofDecimal_of_isNearest negative normal zero nearest

/-- Every double is read back from the text that displays it. -/
@[simp]
theorem ofText?_displayText (value : Double) :
    ofText? value.displayText.toList = some value := by
  cases value with
  | nan => rfl
  | infinite negative => cases negative <;> rfl
  | finite negative significand exponent normal =>
      have read : Decimal.ofText?
          (Double.finite negative significand exponent normal).displayText.toList =
          some (writtenDecimal negative (displayed significand exponent).1
            (displayed significand exponent).2) := by
        simp only [Decimal.ofText?, splitSign_displayText, magnitude_display]
        exact unsigned?_plainDigits negative _ _
      rw [Decimal.ofText?_toDouble read, toDouble_writtenDecimal]

/-- A finite double is displayed as an integer if it has no places after the point. -/
theorem integer?_displayText (negative : Bool) (normal : IsNormal significand exponent) :
    integer? (Double.finite negative significand exponent normal).displayText.toList =
      if 0 ≤ (displayed significand exponent).2 then
        some (signed negative
          ((displayed significand exponent).1 * 10 ^ (displayed significand exponent).2.toNat))
      else none := by
  simp only [integer?, splitSign_displayText, magnitude_display, natural?_plainDigits]
  by_cases whole : 0 ≤ (displayed significand exponent).2
  · simp only [if_pos whole]
    cases negative <;> rfl
  · simp only [if_neg whole]
    cases negative <;> rfl

end Rollup.Double
