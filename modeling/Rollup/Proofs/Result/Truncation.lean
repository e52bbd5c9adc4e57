import Rollup.Proofs.Double.Nearest
import Rollup.Result.Cell

/-!
# Cells as integers

The number that a cell denotes, exactly, and the long that it is coerced to.  A double is cut
toward zero as the number that it is.  A text that is not the text of a long is rounded to a
double before it is cut, so that it may come out as the integer next to it or, beyond `2 ^ 53`,
as one further away.  What no long is near to becomes an end of their range, or zero.
-/

namespace Rollup

open Text

/-- The integer part of a rational, toward zero. -/
def towardZero (value : ℚ) : Int :=
  if 0 ≤ value then ⌊value⌋ else ⌈value⌉

@[simp]
theorem towardZero_neg (value : ℚ) : towardZero (-value) = -towardZero value := by
  rcases lt_trichotomy value 0 with negative | rfl | positive
  · rw [towardZero, if_pos (by linarith), towardZero, if_neg (not_le_of_gt negative),
      Int.floor_neg]
  · rw [neg_zero, towardZero, if_pos le_rfl, Int.floor_zero, Int.neg_zero]
  · rw [towardZero, if_neg (by linarith), towardZero, if_pos positive.le, Int.ceil_neg]

theorem towardZero_of_nonneg {value : ℚ} (nonneg : 0 ≤ value) : towardZero value = ⌊value⌋ :=
  if_pos nonneg

@[simp]
theorem towardZero_intCast (i : Int) : towardZero i = i := by
  rw [towardZero, Int.floor_intCast, Int.ceil_intCast, ite_self]

/-- The sign of a number is that of its integer part. -/
theorem towardZero_ite (negative : Bool) {value : ℚ} (nonneg : 0 ≤ value) :
    towardZero (if negative then -value else value) =
      if negative then -⌊value⌋ else ⌊value⌋ := by
  cases negative with
  | true => exact (towardZero_neg value).trans (congrArg Neg.neg (towardZero_of_nonneg nonneg))
  | false => exact towardZero_of_nonneg nonneg

/-- A number whose integer part is below another integer that is not negative is below it. -/
theorem lt_of_towardZero_lt {value : ℚ} {bound : Int} (nonneg : 0 ≤ bound)
    (below : towardZero value < bound) : value < bound := by
  rcases lt_or_ge value 0 with negative | positive
  · exact negative.trans_le (by exact_mod_cast nonneg)
  · rw [towardZero_of_nonneg positive] at below
    exact Int.floor_lt.mp below

/-! ## Longs -/

namespace Long

theorem toInt_clamp (i : Int) :
    (clamp i).toInt = max (-9223372036854775808) (min i 9223372036854775807) :=
  toInt_ofInt ⟨by omega, by omega⟩

theorem toInt_clamp_of_fits {i : Int} (fits : Fits i) : (clamp i).toInt = i := by
  rw [toInt_clamp]
  have := fits.1
  have := fits.2
  omega

/-- The long nearest to an integer is no further from a number whose integer part is a long than
the integer is, unless it is that integer part. -/
theorem toInt_clamp_near {i : Int} {value reach : ℚ} (fits : Fits (towardZero value))
    (near : |(i : ℚ) - value| ≤ reach) :
    (clamp i).toInt = towardZero value ∨ |((clamp i).toInt : ℚ) - value| ≤ reach := by
  have toInt := toInt_clamp i
  obtain ⟨low, high⟩ := abs_le.mp near
  rcases lt_or_ge i (-9223372036854775808) with below | above
  · rcases fits.1.eq_or_lt with same | inside
    · left
      omega
    · right
      have bounded : -value < (9223372036854775808 : Int) := by
        refine lt_of_towardZero_lt (by decide) ?_
        rw [towardZero_neg]
        omega
      have cut : (clamp i).toInt = -9223372036854775808 := by omega
      have further : (i : ℚ) < -9223372036854775808 := by exact_mod_cast below
      rw [cut, abs_le]
      push_cast at bounded ⊢
      constructor <;> linarith
  rcases lt_or_ge i 9223372036854775808 with inside | beyond
  · right
    rw [toInt_clamp_of_fits ⟨above, inside⟩]
    exact near
  · have atMost : towardZero value ≤ 9223372036854775807 := Int.le_of_lt_add_one fits.2
    rcases atMost.eq_or_lt with same | inside
    · left
      omega
    · right
      have bounded : value < (9223372036854775807 : Int) :=
        lt_of_towardZero_lt (by decide) inside
      have cut : (clamp i).toInt = 9223372036854775807 := by omega
      have further : (9223372036854775808 : ℚ) ≤ i := by exact_mod_cast beyond
      rw [cut, abs_le]
      push_cast at bounded ⊢
      constructor <;> linarith

theorem clamp_of_large {i : Int} (large : 9223372036854775808 ≤ i) : clamp i = greatest := by
  rw [clamp, show max (-9223372036854775808) (min i 9223372036854775807) =
    9223372036854775807 by omega]
  rfl

theorem clamp_of_small {i : Int} (small : i ≤ -9223372036854775808) : clamp i = least := by
  rw [clamp, show max (-9223372036854775808) (min i 9223372036854775807) =
    -9223372036854775808 by omega]
  rfl

/-- What a number may be coerced to: its integer part or, if the number is rounded first, an
integer that is near to it, as long as the integer part is a long.  Otherwise it is the end of
the longs that the number lies beyond. -/
structure IsCutOf (long : Long) (value : ℚ) (unrounded : Prop) : Prop where
  exact : Fits (towardZero value) → unrounded → long.toInt = towardZero value
  near : Fits (towardZero value) →
    long.toInt = towardZero value ∨ |(long.toInt : ℚ) - value| ≤ |value| / 2 ^ 53
  beyond : ¬ Fits (towardZero value) → long = if value < 0 then least else greatest

/-- The long nearest to the integer part of a number is what the number is coerced to. -/
theorem isCutOf_clamp (value : ℚ) (unrounded : Prop) :
    (clamp (towardZero value)).IsCutOf value unrounded := by
  refine ⟨fun fits _ => toInt_clamp_of_fits fits, fun fits => .inl (toInt_clamp_of_fits fits),
    fun beyond => ?_⟩
  rw [Fits] at beyond
  split
  next negative =>
    have nonpos : towardZero value ≤ 0 := by
      rw [towardZero, if_neg (not_le_of_gt negative), Int.ceil_le]
      exact_mod_cast negative.le
    exact clamp_of_small (by omega)
  next notNegative =>
    have nonneg : 0 ≤ towardZero value := by
      rw [towardZero_of_nonneg (not_lt.mp notNegative)]
      exact Int.floor_nonneg.mpr (not_lt.mp notNegative)
    exact clamp_of_large (by omega)

theorem IsCutOf.imp {long : Long} {value : ℚ} {unrounded exact : Prop}
    (cut : long.IsCutOf value unrounded) (each : exact → unrounded) :
    long.IsCutOf value exact :=
  ⟨fun fits known => cut.exact fits (each known), cut.near, cut.beyond⟩

theorem isCutOf_toInt (long : Long) (unrounded : Prop) :
    long.IsCutOf long.toInt unrounded := by
  have same : clamp (towardZero long.toInt) = long := by
    rw [← Int64.toInt_inj, towardZero_intCast, toInt_clamp_of_fits (fits_toInt long)]
  have cut := isCutOf_clamp (long.toInt : ℚ) unrounded
  rwa [same] at cut

end Long

/-! ## Doubles -/

namespace Double

/-- A finite double is cut to the long nearest to its integer part. -/
theorem truncate_of_isFinite {value : Double} (finite : value.isFinite = true) :
    value.truncate = Long.clamp (towardZero value.exact) := by
  cases value with
  | nan => cases finite
  | infinite _ => cases finite
  | finite negative significand exponent normal =>
      have unit := scaleDown_pos significand Nat.one_pos (-exponent)
      have ratio := scaleDown_ratio significand 1 (-exponent)
      rw [Nat.cast_one, div_one, zpow_neg, div_inv_eq_mul] at ratio
      have whole : ⌊(significand : ℚ) * 2 ^ exponent⌋ =
          ((scaleDown significand 1 (-exponent)).1 /
            (scaleDown significand 1 (-exponent)).2 : Nat) := by
        rw [← ratio, Rat.floor_natCast_div_natCast, Int.natCast_div]
      rw [exact_finite, towardZero_ite negative (by positivity), whole]
      rfl

end Double

namespace Decimal

/-- The size of a decimal, its sign aside. -/
def magnitude (decimal : Decimal) : ℚ :=
  decimal.significand * 10 ^ decimal.exponent

theorem magnitude_nonneg (decimal : Decimal) : 0 ≤ decimal.magnitude := by
  rw [magnitude]
  positivity

theorem value_eq_ite (decimal : Decimal) :
    decimal.value = if decimal.negative then -decimal.magnitude else decimal.magnitude := by
  rw [value, magnitude]
  cases decimal.negative <;> simp [Double.signed]

@[simp]
theorem abs_value (decimal : Decimal) : |decimal.value| = decimal.magnitude := by
  rw [value_eq_ite]
  cases decimal.negative with
  | true => exact (abs_neg _).trans (abs_of_nonneg decimal.magnitude_nonneg)
  | false => exact abs_of_nonneg decimal.magnitude_nonneg

/-- A decimal whose integer part is no long is beyond all of them. -/
theorem le_magnitude_of_not_fits {decimal : Decimal}
    (beyond : ¬ Long.Fits (towardZero decimal.value)) : 2 ^ 63 ≤ decimal.magnitude := by
  rw [value_eq_ite, towardZero_ite _ decimal.magnitude_nonneg, Long.Fits] at beyond
  have nonneg : 0 ≤ ⌊decimal.magnitude⌋ := Int.floor_nonneg.mpr decimal.magnitude_nonneg
  have large : ((2 ^ 63 : Int) : ℚ) ≤ decimal.magnitude := by
    rw [← Int.le_floor]
    cases negative : decimal.negative with
    | true =>
        simp only [negative, if_true] at beyond
        omega
    | false =>
        simp only [negative, Bool.false_eq_true, if_false] at beyond
        omega
  exact_mod_cast large

theorem value_neg_iff {decimal : Decimal} (nonzero : 0 < decimal.magnitude) :
    decimal.value < 0 ↔ decimal.negative = true := by
  rw [value_eq_ite]
  cases decimal.negative with
  | true => simpa using nonzero
  | false => simpa using nonzero.le

/-- The integer part of the double nearest to a decimal is that of the decimal, or it is near
to the decimal. -/
theorem towardZero_near {decimal : Decimal} {rounded : ℚ}
    (close : Double.IsCloseTo decimal.magnitude rounded)
    (exact : decimal.toDouble.exact = if decimal.negative then -rounded else rounded) :
    towardZero decimal.toDouble.exact = towardZero decimal.value ∨
      |(towardZero decimal.toDouble.exact : ℚ) - decimal.value| ≤ |decimal.value| / 2 ^ 53 := by
  rw [abs_value, exact, value_eq_ite, towardZero_ite _ close.nonneg,
    towardZero_ite _ decimal.magnitude_nonneg]
  refine close.whole.imp (fun same => by rw [same]) fun near => ?_
  cases decimal.negative with
  | true =>
      rw [abs_sub_comm] at near
      simpa [add_comm, sub_eq_add_neg] using near
  | false => simpa using near

/-- The double nearest to a decimal is cut to a long as the decimal may be. -/
theorem isCutOf_toDouble (decimal : Decimal) :
    decimal.toDouble.truncate.IsCutOf decimal.value
      (decimal.toDouble.exact = decimal.value) := by
  have ended (large : 2 ^ 63 ≤ decimal.magnitude) :
      (if decimal.value < 0 then Long.least else Long.greatest) =
        if decimal.negative then Long.least else Long.greatest := by
    have positive : 0 < decimal.magnitude := lt_of_lt_of_le (by positivity) large
    simp only [value_neg_iff positive]
  rcases Double.ofDecimal_cases decimal.negative decimal.significand decimal.exponent with
    ⟨rounded, close, finite, exact⟩ | ⟨infinite, large⟩
  · have cut : decimal.toDouble.truncate = Long.clamp (towardZero decimal.toDouble.exact) :=
      Double.truncate_of_isFinite finite
    rw [cut]
    refine ⟨fun fits unrounded => ?_, fun fits => ?_, fun beyond => ?_⟩
    · rw [unrounded, Long.toInt_clamp_of_fits fits]
    · rcases towardZero_near close exact with same | near
      · left
        rw [same, Long.toInt_clamp_of_fits fits]
      · exact Long.toInt_clamp_near fits near
    · have large := le_magnitude_of_not_fits beyond
      have floor : 9223372036854775808 ≤ ⌊rounded⌋ := by
        rw [Int.le_floor]
        exact_mod_cast close.large large
      rw [ended large, toDouble, exact, towardZero_ite _ close.nonneg]
      cases decimal.negative with
      | true => exact Long.clamp_of_small (Int.neg_le_neg floor)
      | false => exact Long.clamp_of_large floor
  · have large : 2 ^ 64 ≤ decimal.magnitude := large
    have beyond : ¬ Long.Fits (towardZero decimal.value) := by
      have floor : 18446744073709551616 ≤ ⌊decimal.magnitude⌋ := by
        rw [Int.le_floor]
        exact_mod_cast large
      rw [value_eq_ite, towardZero_ite _ decimal.magnitude_nonneg, Long.Fits]
      split_ifs <;> omega
    refine ⟨fun fits => absurd fits beyond, fun fits => absurd fits beyond, fun _ => ?_⟩
    rw [ended (le_trans (by norm_num) large), toDouble, infinite]
    rfl

/-- A text that is read as a double is a decimal, which is rounded to it, or a word for what is
not finite. -/
theorem ofText?_cases {text : List Char} {double : Double}
    (read : Double.ofText? text = some double) :
    (∃ decimal, ofText? text = some decimal ∧ double = decimal.toDouble) ∨
      ofText? text = none ∧ (double = .nan ∨ ∃ negative, double = .infinite negative) := by
  cases found : ofText? text with
  | some decimal =>
      exact .inl ⟨decimal, rfl, Option.some.inj (read.symm.trans (ofText?_toDouble found))⟩
  | none =>
      refine .inr ⟨rfl, ?_⟩
      rcases parts : splitSign text with ⟨negative, rest⟩
      simp only [ofText?, parts] at found
      simp only [Double.ofText?, parts, ← unsigned?_map_toDouble, found] at read
      rw [Option.map_none, Double.word?] at read
      split_ifs at read
      · cases read
        exact .inl rfl
      · cases read
        exact .inr ⟨negative, rfl⟩
      · cases read

end Decimal

/-! ## Cells -/

namespace Cell

/-- The number that a cell denotes, exactly.  There is none where the cell is absent, and none
in an infinity or an absent number. -/
def exactValue? : Cell → Option ℚ
  | .null => none
  | .boolean value => some (if value then 1 else 0)
  | .integer value => some value.toInt
  | .float value => value.rational?
  | .text value => (Decimal.ofText? (trim value.toList)).map Decimal.value

/-- Whether the number of a cell is cut as it is: that of a text is the number of a long, or
that of a double. -/
def IsUnrounded : Cell → Prop
  | .text value =>
      (Long.ofText? (trim value.toList)).isSome = true ∨
        ∀ decimal ∈ Decimal.ofText? (trim value.toList), decimal.toDouble.exact = decimal.value
  | _ => True

/-- A text is coerced to the long that it is, or cut as the double that it is read as. -/
theorem toLong_text_cases {value : String} {long : Long}
    (read : (text value).toLong = .ok (some long)) :
    Long.ofText? (trim value.toList) = some long ∨
      Long.ofText? (trim value.toList) = none ∧
        ∃ double, Double.ofText? (trim value.toList) = some double ∧ double.truncate = long := by
  simp only [toLong] at read
  cases whole : Long.ofText? (trim value.toList) with
  | some _ =>
      rw [whole] at read
      cases read
      exact .inl rfl
  | none =>
      rw [whole] at read
      cases number : Double.ofText? (trim value.toList) with
      | none =>
          rw [number] at read
          cases read
      | some double =>
          rw [number] at read
          cases read
          exact .inr ⟨rfl, double, rfl, rfl⟩

/-- A text that is a long denotes it. -/
theorem exactValue?_of_longText {value : String} {long : Long}
    (whole : Long.ofText? (trim value.toList) = some long) :
    (text value).exactValue? = some (long.toInt : ℚ) := by
  obtain ⟨i, digits, fits⟩ := Option.bind_eq_some_iff.mp whole
  obtain ⟨decimal, found, same⟩ := Decimal.ofText?_of_integer? digits
  rw [exactValue?, found, Option.map_some, same, ← Long.ofInt?_eq_some_iff.mp fits]

/-- The long that a cell is coerced to is the integer part, toward zero, of the number that the
cell denotes, as long as this is a long, and the number is not a decimal that is rounded on the
way.  A decimal that is rounded gives its integer part or an integer that is no further from it
than `2 ^ (-53)` of its size.  A number beyond the longs gives an end of their range, and so does
an infinity; the absent number gives zero. -/
theorem toLong_truncates {cell : Cell} {long : Long} (read : cell.toLong = .ok (some long)) :
    (∀ value, cell.exactValue? = some value → long.IsCutOf value cell.IsUnrounded) ∧
      (cell.exactValue? = none → ∃ double, cell.toDouble = .ok (some double) ∧
        (double = .nan ∧ long = 0 ∨ ∃ negative, double = .infinite negative ∧
          long = if negative then Long.least else Long.greatest)) := by
  suffices denoted :
      (∃ value, cell.exactValue? = some value ∧ long.IsCutOf value cell.IsUnrounded) ∨
        cell.exactValue? = none ∧ ∃ double, cell.toDouble = .ok (some double) ∧
          (double = .nan ∧ long = 0 ∨ ∃ negative, double = .infinite negative ∧
            long = if negative then Long.least else Long.greatest) by
    rcases denoted with ⟨value, known, cut⟩ | ⟨absent, converted⟩
    · rw [known]
      refine ⟨fun _ same => ?_, fun absent => absurd absent (Option.some_ne_none _)⟩
      rwa [← Option.some.inj same]
    · rw [absent]
      exact ⟨fun _ known => absurd known.symm (Option.some_ne_none _), fun _ => converted⟩
  cases cell with
  | null => cases read
  | boolean value =>
      cases read
      refine .inl ⟨_, rfl, ?_⟩
      cases value with
      | true => exact_mod_cast Long.isCutOf_toInt 1 _
      | false => exact_mod_cast Long.isCutOf_toInt 0 _
  | integer value =>
      cases read
      exact .inl ⟨_, rfl, Long.isCutOf_toInt long _⟩
  | float value =>
      cases read
      by_cases finite : value.isFinite = true
      · rw [exactValue?, Double.rational?_of_isFinite finite, Double.truncate_of_isFinite finite]
        exact .inl ⟨_, rfl, Long.isCutOf_clamp _ _⟩
      · rw [exactValue?, Double.rational?_of_not_isFinite finite]
        refine .inr ⟨rfl, value, rfl, ?_⟩
        cases value with
        | nan => exact .inl ⟨rfl, rfl⟩
        | infinite negative => exact .inr ⟨negative, rfl, rfl⟩
        | finite _ _ _ _ => exact absurd rfl finite
  | text value =>
      rcases toLong_text_cases read with whole | ⟨notWhole, double, number, rfl⟩
      · exact .inl ⟨_, exactValue?_of_longText whole, Long.isCutOf_toInt long _⟩
      rcases Decimal.ofText?_cases number with ⟨decimal, found, rfl⟩ | ⟨absent, word⟩
      · refine .inl ⟨decimal.value, congrArg (Option.map Decimal.value) found, ?_⟩
        refine decimal.isCutOf_toDouble.imp fun unrounded => ?_
        rw [IsUnrounded, notWhole, found] at unrounded
        exact (unrounded.resolve_left Bool.false_ne_true) decimal rfl
      · refine .inr ⟨congrArg (Option.map Decimal.value) absent, double, ?_, ?_⟩
        · rw [toDouble, number]
        · rcases word with rfl | ⟨negative, rfl⟩
          · exact .inl ⟨rfl, rfl⟩
          · exact .inr ⟨negative, rfl, rfl⟩

/-- A fraction that is a double is cut toward zero. -/
theorem toLong_truncates_of_fraction :
    let cell := Cell.text "-12.75"
    cell.toLong = .ok (some (-12)) ∧ cell.exactValue? = some (-51 / 4) ∧ cell.IsUnrounded ∧
      (-12 : Long).toInt = towardZero (-51 / 4) := by
  intro cell
  have read : cell.toLong = .ok (some (-12)) := by decide +kernel
  have decimal : Decimal.ofText? (trim "-12.75".toList) = some ⟨true, 1275, -2⟩ :=
    rfl
  have value : (⟨true, 1275, -2⟩ : Decimal).value = -51 / 4 := by
    norm_num [Decimal.value, Double.signed]
  have exact : cell.exactValue? = some (-51 / 4) := by
    rw [← value]
    exact congrArg (Option.map Decimal.value) decimal
  have unrounded : cell.IsUnrounded := by
    refine .inr fun found listed => ?_
    obtain rfl : _ = found := Option.some.inj (decimal.symm.trans listed)
    have double : (⟨true, 1275, -2⟩ : Decimal).toDouble =
        .finite true 7177611906121728 (-49) (by decide) := by decide +kernel
    rw [value, double, Double.exact_finite]
    norm_num
  have fits : Long.Fits (towardZero (-51 / 4)) := by
    norm_num [towardZero, Long.Fits, Int.ceil_le, Int.lt_ceil]
  exact ⟨read, exact, unrounded, ((toLong_truncates read).1 _ exact).exact fits unrounded⟩

/-- A decimal just below an integer is coerced to that integer, and no number to zero. -/
theorem toLong_passes_integer :
    (Cell.text "9007199254740993.5").toLong = .ok (some 9007199254740994) ∧
      (Cell.text "9007199254740993.5").exactValue? = some (18014398509481987 / 2) ∧
      towardZero (18014398509481987 / 2) = 9007199254740993 ∧
      (Cell.float .nan).toLong = .ok (some 0) ∧ (Cell.float .nan).exactValue? = none := by
  have decimal : Decimal.ofText? (trim "9007199254740993.5".toList) =
      some ⟨false, 90071992547409935, -1⟩ :=
    rfl
  refine ⟨by decide +kernel, ?_, ?_, rfl, rfl⟩
  · rw [exactValue?, decimal]
    norm_num [Decimal.value, Double.signed]
  · rw [towardZero_of_nonneg (by norm_num), Int.floor_eq_iff]
    norm_num

end Cell

end Rollup
