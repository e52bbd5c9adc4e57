import Rollup.Proofs.Sql.Value

/-!
# Numbers in expressions

What operations on values give where the values are numbers, integers or not: the exact
result, whatever the engine does about integers and divisions by zero.
-/

namespace Rollup.Sql

/-! ## Values that are numbers -/

/-- A value equals a number over rationals. -/
def Value.Denotes (value : Value) (number : Number ℚ) : Prop :=
  value.number? = some number.floating

/-- A value equals the decimal of a text, blanks around it aside. -/
def Value.IsWritten (value : Value) (text : String) : Prop :=
  ∃ decimal, Decimal.ofText? (Text.trim text.toList) = some decimal ∧
    value.number? = some decimal.value

/-- The numbers are the integers and the reals. -/
theorem Value.number?_eq_some_iff {value : Value} {number : ℚ} :
    value.number? = some number ↔
      (∃ whole : Int, value = .integer whole ∧ number = whole) ∨ value = .real number := by
  cases value with
  | integer whole => simp [number?, eq_comm]
  | real other => simp [number?]
  | text text => simp [number?]
  | truth truth => simp [number?]
  | timestamp instant => simp [number?]

/-! ## Operations -/

namespace Engine

variable (engine : Engine)

theorem operateOnReals_eq {operator : ArithmeticOperator} (noQuotient : operator ≠ .divide)
    (left right : ℚ) :
    engine.operateOnReals operator left right = some (.real (operator.onRationals left right)) := by
  cases operator <;> first | rfl | contradiction

theorem operateOnIntegers_number? {operator : ArithmeticOperator} (noQuotient : operator ≠ .divide)
    (left right : Int) :
    ∃ value, engine.operateOnIntegers operator left right = some value ∧
      value.number? = some (operator.onRationals left right) := by
  cases operator with
  | add => exact ⟨_, rfl, congrArg some (Int.cast_add left right)⟩
  | subtract => exact ⟨_, rfl, congrArg some (Int.cast_sub left right)⟩
  | multiply => exact ⟨_, rfl, congrArg some (Int.cast_mul left right)⟩
  | divide => contradiction

/-- Sums, differences and products of numbers are numbers, whether integers or not. -/
theorem operate_number? {operator : ArithmeticOperator} (noQuotient : operator ≠ .divide)
    {left right : Value} {first second : ℚ} (leftNumber : left.number? = some first)
    (rightNumber : right.number? = some second) :
    ∃ value, engine.operate operator left right = some value ∧
      value.number? = some (operator.onRationals first second) := by
  have reals := engine.operateOnReals_eq noQuotient first second
  rcases Value.number?_eq_some_iff.mp leftNumber with ⟨whole, rfl, rfl⟩ | rfl
  · rcases Value.number?_eq_some_iff.mp rightNumber with ⟨other, rfl, rfl⟩ | rfl
    · exact engine.operateOnIntegers_number? noQuotient whole other
    · exact ⟨_, reals, rfl⟩
  · rcases Value.number?_eq_some_iff.mp rightNumber with ⟨other, rfl, rfl⟩ | rfl
    · exact ⟨_, reals, rfl⟩
    · exact ⟨_, reals, rfl⟩

/-- The quotient of a real number by a number that is not zero is exact. -/
theorem operate_divide_real {dividend : ℚ} {divisor : Value} {second : ℚ}
    (divisorNumber : divisor.number? = some second) (nonzero : second ≠ 0) :
    engine.operate .divide (.real dividend) divisor = some (.real (dividend / second)) := by
  have reals : engine.operateOnReals .divide dividend second = some (.real (dividend / second)) :=
    if_neg nonzero
  rcases Value.number?_eq_some_iff.mp divisorNumber with ⟨whole, rfl, rfl⟩ | rfl
  · exact reals
  · exact reals

/-- Numbers of either kind are compared by their values. -/
theorem compare_numbers (operator : Operator) {left right : Value} {first second : ℚ}
    (leftNumber : left.number? = some first) (rightNumber : right.number? = some second) :
    engine.compare operator left right = some (compareNumbers operator first second) := by
  rcases Value.number?_eq_some_iff.mp leftNumber with ⟨whole, rfl, rfl⟩ | rfl
  · rcases Value.number?_eq_some_iff.mp rightNumber with ⟨other, rfl, rfl⟩ | rfl
    · rfl
    · rfl
  · rcases Value.number?_eq_some_iff.mp rightNumber with ⟨other, rfl, rfl⟩ | rfl
    · rfl
    · rfl

/-- A cast to the type of doubles keeps a number. -/
theorem cast_floatType (dialect : Dialect) {value : Value} {number : ℚ}
    (isNumber : value.number? = some number) :
    engine.cast dialect dialect.floatType value = some (.real number) := by
  unfold cast
  rw [if_pos rfl, isNumber]

end Engine

end Rollup.Sql
