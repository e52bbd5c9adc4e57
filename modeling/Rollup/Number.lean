import Rollup.Double.Notation
import Rollup.Double.Reader
import Rollup.Long
import Rollup.Text.Blank

/-!
# Numbers

A number keeps the difference between whole and floating-point numbers: two
longs combine to a long as long as the result is one, and to a floating-point
number otherwise.

What a floating-point number is, is left open.  The numbers of queries and results
are over doubles, which round; the rules for longs do not depend on that.
-/

namespace Rollup

/-- The long that a double is cut to, toward zero.  One beyond the range of longs
becomes its nearest end, and an absent number becomes zero. -/
def Double.truncate : Double → Long
  | .nan => 0
  | .infinite negative => if negative then Long.least else Long.greatest
  | .finite negative significand exponent _ =>
      Long.clamp (Double.integerPart negative significand exponent)

/-! ## Floating-point numbers -/

/-- What numbers need of their floating-point numbers. -/
class Floating (φ : Type) where
  ofInt : Int → φ
  /-- The floating-point number of a constant, if it has one. -/
  ofDouble? : Double → Option φ
  ofText? : List Char → Option φ
  isZero : φ → Bool
  zero : φ
  add : φ → φ → φ
  subtract : φ → φ → φ
  multiply : φ → φ → φ
  divide : φ → φ → φ

@[default_instance]
instance : Floating Double where
  ofInt := Double.ofInt
  ofDouble? := some
  ofText? := Double.ofText?
  isZero := Double.isZero
  zero := Double.zero false
  add := Double.add
  subtract := Double.sub
  multiply := Double.mul
  divide := Double.div

@[simp]
theorem Floating.ofText?_eq (text : List Char) :
    (Floating.ofText? text : Option Double) = Double.ofText? text :=
  rfl

/-! ## Numbers -/

/-- A long or a floating-point number. -/
inductive Number (φ : Type := Double) where
  | integer (value : Long)
  | float (value : φ)
  deriving DecidableEq

namespace Number

section

variable {φ : Type}

/-- Whether a number is a floating-point one. -/
def isFloat : Number φ → Bool
  | .integer _ => false
  | .float _ => true

variable [Floating φ]

/-- A number as a floating-point one. -/
def floating : Number φ → φ
  | .integer value => Floating.ofInt value.toInt
  | .float value => value

@[simp]
theorem floating_integer (value : Long) :
    (integer value : Number φ).floating = Floating.ofInt value.toInt :=
  rfl

@[simp]
theorem floating_float (value : φ) : (float value).floating = value :=
  rfl

/-- Whether a number equals zero. -/
def isZero : Number φ → Bool
  | .integer value => value.toInt == 0
  | .float value => Floating.isZero value

/-- One operation on numbers, given by its exact form on integers and its form on
floating-point numbers.  Two longs whose exact result is a long give that long. -/
def combine (exact : Int → Int → Int) (rounded : φ → φ → φ) :
    Number φ → Number φ → Number φ
  | .integer a, .integer b =>
      match Long.ofInt? (exact a.toInt b.toInt) with
      | some result => .integer result
      | none => .float (rounded (floating (.integer a)) (floating (.integer b)))
  | a, b => .float (rounded a.floating b.floating)

/-- The sum of two numbers. -/
def add : Number φ → Number φ → Number φ :=
  combine (· + ·) Floating.add

/-- The difference of two numbers. -/
def subtract : Number φ → Number φ → Number φ :=
  combine (· - ·) Floating.subtract

/-- The product of two numbers. -/
def multiply : Number φ → Number φ → Number φ :=
  combine (· * ·) Floating.multiply

/-- The quotient of two numbers, always a floating-point one. -/
def divide (a b : Number φ) : Number φ :=
  .float (Floating.divide a.floating b.floating)

/-- The number that a text denotes, blanks around it aside: a long if it is the
text of one, and a floating-point number otherwise. -/
def ofText? (text : String) : Option (Number φ) :=
  let trimmed := Text.trim text.toList
  match Long.ofText? trimmed with
  | some value => some (.integer value)
  | none => (Floating.ofText? trimmed).map .float

/-- The number of a constant, if it has one. -/
def ofConstant? : Number → Option (Number φ)
  | .integer value => some (.integer value)
  | .float value => (Floating.ofDouble? value).map .float

end

/-- Over doubles every constant is the number that it is. -/
@[simp]
theorem ofConstant?_eq_some (number : Number) :
    (ofConstant? number : Option Number) = some number := by
  cases number <;> rfl

/-- The double nearest to a number. -/
def toDouble : Number → Double :=
  floating

/-- The text of a number in results. -/
def text : Number → String
  | .integer value => value.text
  | .float value => value.displayText

end Number

end Rollup
