import Mathlib.Algebra.Field.Rat
import Mathlib.Data.Int.Cast.Lemmas
import Mathlib.Data.List.TakeWhile
import Rollup.Plan.Formula

/-!
# Exact numbers

Numbers whose floating-point numbers are rationals are computed without rounding and without
a greatest value.  They are combined by the same functions as numbers over doubles; longs
stay longs, and the rules for results that do not fit them are the same.

A decimal text is read as a sign, digits and a power of ten.  Its exact value is that
product; its double is the same product, rounded.
-/

namespace Rollup

/-! ## Values of doubles and of decimal texts -/

/-- The rational that a finite double is.  It says nothing of the infinite ones and the absent
number; see `Double.rational?`. -/
def Double.exact : Double → ℚ
  | .finite negative significand exponent _ => Double.signed negative significand * 2 ^ exponent
  | _ => 0

/-- The rational that a double is.  The infinite ones and the absent number have none. -/
def Double.rational? (value : Double) : Option ℚ :=
  if value.isFinite then some value.exact else none

theorem Double.rational?_of_isFinite {value : Double} (finite : value.isFinite = true) :
    value.rational? = some value.exact :=
  if_pos finite

theorem Double.rational?_of_not_isFinite {value : Double} (infinite : ¬ value.isFinite = true) :
    value.rational? = none :=
  if_neg infinite

@[simp]
theorem Double.exact_zero (negative : Bool) : (Double.zero negative).exact = 0 := by
  cases negative <;> simp [Double.zero, Double.exact, Double.signed]

@[simp]
theorem Double.rational?_zero (negative : Bool) : (Double.zero negative).rational? = some 0 := by
  rw [Double.rational?_of_isFinite rfl, Double.exact_zero]

theorem Double.exact_finite (negative : Bool) {significand : Nat} {exponent : Int}
    (normal : IsNormal significand exponent) :
    (Double.finite negative significand exponent normal).exact =
      if negative then -((significand : ℚ) * 2 ^ exponent) else significand * 2 ^ exponent := by
  cases negative <;> simp [Double.exact, Double.signed]

/-- Digits without a point are all whole. -/
theorem Double.splitPoint_digits {digits : List Char} (each : ∀ c ∈ digits, c.isDigit = true) :
    splitPoint digits = (digits, [], []) := by
  have taken : digits.takeWhile Char.isDigit = digits := List.takeWhile_eq_self_iff.mpr each
  have dropped : digits.dropWhile Char.isDigit = [] := List.dropWhile_eq_nil_iff.mpr each
  simp only [splitPoint, taken, dropped]

/-- The decimal number `± significand * 10 ^ exponent`. -/
structure Decimal where
  negative : Bool
  significand : Nat
  exponent : Int

namespace Decimal

/-- The rational that a decimal is. -/
def value (decimal : Decimal) : ℚ :=
  Double.signed decimal.negative decimal.significand * 10 ^ decimal.exponent

/-- The double nearest to a decimal. -/
def toDouble (decimal : Decimal) : Double :=
  Double.ofDecimal decimal.negative decimal.significand decimal.exponent

/-- The decimal of a sign and unsigned digits with an optional point and an optional
exponent. -/
def unsigned? (negative : Bool) (text : List Char) : Option Decimal :=
  let (whole, fraction, rest) := Double.splitPoint text
  if whole.isEmpty && fraction.isEmpty then none
  else (Double.exponent? rest).map fun exponent =>
    ⟨negative, Text.digitsValue (whole ++ fraction), exponent - fraction.length⟩

/-- The decimal that a text denotes. -/
def ofText? (text : List Char) : Option Decimal :=
  let (negative, rest) := Text.splitSign text
  unsigned? negative rest

/-- Digits around a point, at least one of them in front, are read as one number. -/
theorem unsigned?_of_splitPoint (negative : Bool) {text whole fraction : List Char}
    (split : Double.splitPoint text = (whole, fraction, [])) (nonempty : whole ≠ []) :
    unsigned? negative text =
      some ⟨negative, Text.digitsValue (whole ++ fraction), -fraction.length⟩ := by
  have present : ¬ (whole.isEmpty && fraction.isEmpty) = true := by
    simp [List.isEmpty_eq_false_iff.mpr nonempty]
  simp only [unsigned?, split]
  rw [if_neg present, ← Int.zero_sub]
  rfl

/-- The digits of an integer are a decimal that is the integer. -/
theorem ofText?_of_integer? {text : List Char} {i : Int} (found : Text.integer? text = some i) :
    ∃ decimal, ofText? text = some decimal ∧ decimal.value = i := by
  rcases parts : Text.splitSign text with ⟨negative, rest⟩
  simp only [Text.integer?, parts, Option.map_eq_some_iff] at found
  obtain ⟨n, digits, rfl⟩ := found
  rw [Text.natural?] at digits
  split at digits
  next wellFormed =>
    cases digits
    obtain ⟨nonempty, each⟩ := Bool.and_eq_true_iff.mp wellFormed
    have split := Double.splitPoint_digits (List.all_eq_true.mp each)
    have read := unsigned?_of_splitPoint negative split (by simpa using nonempty)
    refine ⟨_, by rw [ofText?, parts]; exact read, ?_⟩
    cases negative <;> simp [value, Double.signed]
  next => cases digits

/-- Digits are read as a double by rounding the decimal that they denote. -/
theorem unsigned?_map_toDouble (negative : Bool) (text : List Char) :
    (unsigned? negative text).map toDouble = Double.unsigned? negative text := by
  unfold unsigned? Double.unsigned?
  rcases Double.splitPoint text with ⟨whole, fraction, rest⟩
  by_cases empty : (whole.isEmpty && fraction.isEmpty) = true
  · simp [empty]
  · simp only [if_neg empty, Option.map_map]
    rfl

/-- A text that starts with neither a digit nor a point denotes no decimal. -/
theorem unsigned?_eq_none_of_letter {c : Char} (noDigit : c.isDigit = false) (noPoint : c ≠ '.')
    (negative : Bool) (rest : List Char) : unsigned? negative (c :: rest) = none := by
  have split : Double.splitPoint (c :: rest) = ([], [], c :: rest) := by
    simp [Double.splitPoint, noDigit, noPoint]
  simp [unsigned?, split]

/-- A digit has no lower-case form but itself. -/
theorem toLower_eq_of_isDigit {c : Char} (digit : c.isDigit = true) : c.toLower = c := by
  have bound : c.val ≤ '9'.val := by
    simp only [Char.isDigit, Bool.and_eq_true, decide_eq_true_eq] at digit
    exact digit.2
  have notUpper : ¬ (c.val ≥ 'A'.val ∧ c.val ≤ 'Z'.val) := fun upper =>
    absurd (UInt32.le_trans upper.1 bound) (by decide)
  exact dif_neg notUpper

/-- No decimal is one of the words for numbers without digits. -/
theorem word?_eq_none_of_unsigned? {negative : Bool} {text : List Char} {decimal : Decimal}
    (found : unsigned? negative text = some decimal) : Double.word? negative text = none := by
  cases text with
  | nil => rfl
  | cons c rest =>
      have start : c.isDigit = true ∨ c = '.' := by
        by_contra neither
        rw [not_or, Bool.not_eq_true] at neither
        rw [unsigned?_eq_none_of_letter neither.1 neither.2] at found
        cases found
      have unchanged : c.toLower = c := by
        rcases start with digit | rfl
        · exact toLower_eq_of_isDigit digit
        · rfl
      have notN : c ≠ 'n' := by rintro rfl; rcases start with digit | point <;> contradiction
      have notI : c ≠ 'i' := by rintro rfl; rcases start with digit | point <;> contradiction
      simp [Double.word?, unchanged, notN, notI]

/-- A decimal text is read as the double nearest to its decimal. -/
theorem ofText?_toDouble {text : List Char} {decimal : Decimal}
    (found : ofText? text = some decimal) : Double.ofText? text = some decimal.toDouble := by
  rcases parts : Text.splitSign text with ⟨negative, rest⟩
  simp only [ofText?, parts] at found
  simp only [Double.ofText?, parts]
  rw [word?_eq_none_of_unsigned? found, ← unsigned?_map_toDouble, found]
  rfl

end Decimal

/-! ## Numbers over rationals -/

/-- Rationals as floating-point numbers: nothing is rounded, and nothing is too great. -/
instance : Floating ℚ where
  ofInt := Int.cast
  ofDouble? := Double.rational?
  ofText? text := (Decimal.ofText? text).map Decimal.value
  isZero value := decide (value = 0)
  zero := 0
  add := (· + ·)
  subtract := (· - ·)
  multiply := (· * ·)
  divide := (· / ·)

namespace Number

/-- The text of a decimal, blanks around it aside, is read as the number that it is. -/
theorem exists_ofText?_of_decimal {text : String} {decimal : Decimal}
    (found : Decimal.ofText? (Text.trim text.toList) = some decimal) :
    ∃ number : Number ℚ, ofText? text = some number ∧ number.floating = decimal.value := by
  cases long : Long.ofText? (Text.trim text.toList) with
  | none =>
      have read : Floating.ofText? (Text.trim text.toList) = some decimal.value :=
        congrArg (Option.map Decimal.value) found
      exact ⟨.float decimal.value, by rw [ofText?, long, read]; rfl, rfl⟩
  | some value =>
      obtain ⟨i, digits, isLong⟩ := Option.bind_eq_some_iff.mp long
      obtain ⟨other, read, same⟩ := Decimal.ofText?_of_integer? digits
      obtain rfl : other = decimal := Option.some.inj (read.symm.trans found)
      refine ⟨.integer value, by rw [ofText?, long], ?_⟩
      rw [same, ← Long.ofInt?_eq_some_iff.mp isLong]
      rfl

/-- An operation that is the same on integers and on floating-point numbers is that operation
on numbers as floating-point ones, whether or not the result is a long. -/
theorem floating_combine {φ : Type} [Floating φ] {onIntegers : Int → Int → Int}
    {onFloats : φ → φ → φ}
    (same : ∀ a b : Int,
      Floating.ofInt (onIntegers a b) = onFloats (Floating.ofInt a) (Floating.ofInt b))
    (a b : Number φ) :
    (combine onIntegers onFloats a b).floating = onFloats a.floating b.floating := by
  cases a with
  | float a => cases b <;> rfl
  | integer a =>
      cases b with
      | float b => rfl
      | integer b =>
          rw [combine]
          cases result : Long.ofInt? (onIntegers a.toInt b.toInt) with
          | none => rfl
          | some long =>
              have exact : long.toInt = onIntegers a.toInt b.toInt :=
                Long.ofInt?_eq_some_iff.mp result
              simp only [floating_integer, exact, same]

/-- A long that is neutral for an operation on integers and on floating-point numbers is
neutral for it on numbers. -/
theorem combine_neutral {φ : Type} [Floating φ] {onIntegers : Int → Int → Int}
    {onFloats : φ → φ → φ} {neutral : Long}
    (onLeftInteger : ∀ i : Int, onIntegers neutral.toInt i = i)
    (onLeftFloat : ∀ x : φ, onFloats (Floating.ofInt neutral.toInt) x = x) (number : Number φ) :
    combine onIntegers onFloats (.integer neutral) number = number := by
  cases number with
  | integer value => simp only [combine, onLeftInteger, Long.ofInt?_toInt]
  | float value => simp only [combine, floating_integer, floating_float, onLeftFloat]

end Number

/-! ## Operations -/

/-- An operation on rationals. -/
def ArithmeticOperator.onRationals : ArithmeticOperator → ℚ → ℚ → ℚ
  | .add => (· + ·)
  | .subtract => (· - ·)
  | .multiply => (· * ·)
  | .divide => (· / ·)

namespace Arithmetic

variable {α : Type} (arithmetic : Arithmetic α)

/-- An operation of an arithmetic on two values. -/
def operation : ArithmeticOperator → α → α → α
  | .add => arithmetic.add
  | .subtract => arithmetic.subtract
  | .multiply => arithmetic.multiply
  | .divide => arithmetic.divide

/-- A fold over present values that starts from a neutral one might as well start from the
first of them. -/
theorem foldl_present_of_neutral {combine : α → α → α} {neutral start : α}
    (unchanged : combine neutral start = start) (rest : List (Option α)) :
    (present (some start :: rest)).map (·.foldl combine neutral) =
      (present rest).map (·.foldl combine start) := by
  rw [present, Option.map_map]
  cases present rest with
  | none => rfl
  | some values =>
      rw [Option.map_some, Option.map_some, Function.comp_apply, List.foldl_cons, unchanged]

end Arithmetic

namespace Number

/-- An operation on numbers over rationals is that operation on the rationals they are. -/
@[simp]
theorem floating_operation (operator : ArithmeticOperator) (left right : Number ℚ) :
    (arithmetic.operation operator left right).floating =
      operator.onRationals left.floating right.floating := by
  cases operator with
  | add => exact floating_combine Int.cast_add left right
  | subtract => exact floating_combine Int.cast_sub left right
  | multiply => exact floating_combine Int.cast_mul left right
  | divide => rfl

@[simp]
theorem isZero_iff {number : Number ℚ} :
    arithmetic.isZero number = true ↔ number.floating = 0 := by
  cases number with
  | integer value => exact beq_iff_eq.trans Int.cast_eq_zero.symm
  | float value => exact decide_eq_true_iff

@[simp]
theorem add_from_zero (number : Number ℚ) :
    arithmetic.add arithmetic.zero number = number := by
  apply combine_neutral
  · exact Int.zero_add
  · intro value
    change ((0 : Int) : ℚ) + value = value
    rw [Int.cast_zero, zero_add]

@[simp]
theorem multiply_from_one (number : Number ℚ) :
    arithmetic.multiply arithmetic.one number = number := by
  apply combine_neutral
  · exact Int.one_mul
  · intro value
    change ((1 : Int) : ℚ) * value = value
    rw [Int.cast_one, one_mul]

/-- Sums, differences and products can all be computed from the first operand. -/
theorem apply_cons {operator : ArithmeticOperator} (noQuotient : operator ≠ .divide)
    (first : Option (Number ℚ)) (rest : List (Option (Number ℚ))) :
    arithmetic.apply operator (first :: rest) =
      first.bind fun start =>
        (Arithmetic.present rest).map (·.foldl (arithmetic.operation operator) start) := by
  cases first with
  | none => cases operator <;> first | rfl | contradiction
  | some start =>
      cases operator with
      | add => exact Arithmetic.foldl_present_of_neutral (add_from_zero start) rest
      | subtract =>
          change ((Arithmetic.present rest).map (start :: ·)).bind arithmetic.difference = _
          rw [Option.bind_map]
          exact Option.map_eq_bind.symm
      | multiply => exact Arithmetic.foldl_present_of_neutral (multiply_from_one start) rest
      | divide => contradiction

end Number

end Rollup
