import Rollup.Sql.Dialect

/-!
# Formulas of post-aggregations

A post-aggregation is checked against its query and is then computed in one of two
ways: by the engine, as an expression over the columns of the aggregates, or from a
row that has been read.  In both ways a quotient by zero is zero, and an absent
operand makes the result absent.

The second way is written for any arithmetic.  Post-aggregations have their values in
that of numbers, and results report those over doubles.
-/

namespace Rollup

open Sql

namespace PostAggregation

/-! ## Checks -/

/-- The error of an operation that cannot have a number of operands. -/
def arityError? (operator : ArithmeticOperator) (operands : Nat) : Option Error :=
  if operator = .divide ∧ operands ≠ 2 then some (.arity "/" "exactly 2" operands)
  else if operands = 0 then some (.arity operator.sign "at least 1" 0)
  else none

/-- The error of a sketch operation that is not over one operand or has no size
left.  Exact counts of distinct values cannot be combined, so only the operation
on a single operand can be computed. -/
def sketchError (name : String) (operator : SetOperator) (operands : Nat)
    (size : Option Nat) : Error :=
  if size = some 0 then .invalidQuery (.emptySketch name)
  else if operands = 0 then .arity "thetaSketchSetOp" "at least 1" 0
  else .unsupported (.sketchOperation operator operands name)

/-- Succeeds if the query has an aggregation of the name. -/
def checkReference (query : Query) (name : String) : Except Error Unit :=
  if (query.aggregation? name).isSome then .ok ()
  else .error (.unknownName (.postAggregationField name))

/-- Succeeds if the post-aggregation has no name or one that is not empty. -/
def checkName (post : PostAggregation) : Except Error Unit :=
  if post.name? = some "" then .error (.invalidQuery (.unnamedPostAggregation post.typeName))
  else .ok ()

/-- Fails with an error if there is one. -/
def failOn : Option Error → Except Error Unit
  | none => .ok ()
  | some error => .error error

mutual

/-- Checks the names, the numbers of operands and the references of a
post-aggregation. -/
def validate (query : Query) : PostAggregation → Except Error Unit
  | .constant name value => checkName (.constant name value)
  | .field aggregation => checkReference query aggregation
  | .arithmetic name operator fields => do
      checkName (.arithmetic name operator fields)
      failOn (arityError? operator fields.length)
      validateList query fields
  | .sketchEstimate name operand => do
      checkName (.sketchEstimate name operand)
      validate query operand
  | .sketchOperation name operator [operand] size => do
      checkName (.sketchOperation name operator [operand] size)
      if size = some 0 then throw (sketchError name operator 1 size)
      validate query operand
  | .sketchOperation name operator fields size => do
      checkName (.sketchOperation name operator fields size)
      throw (sketchError name operator fields.length size)
termination_by structural post => post

/-- Checks some post-aggregations in order. -/
def validateList (query : Query) : List PostAggregation → Except Error Unit
  | [] => .ok ()
  | post :: rest => do
      validate query post
      validateList query rest
termination_by structural posts => posts

end

/-! ## Kind of the result -/

mutual

/-- Whether results of a post-aggregation are reported as doubles. -/
def isFloat (query : Query) : PostAggregation → Bool
  | .constant _ value => value.isFloat
  | .field aggregation =>
      match query.aggregation? aggregation with
      | some aggregation => aggregation.kind.isFloat
      | none => false
  | .arithmetic _ operator fields => operator == .divide || anyFloat query fields
  | .sketchEstimate .. => true
  | .sketchOperation .. => true
termination_by structural post => post

/-- Whether results of one of some post-aggregations are reported as doubles. -/
def anyFloat (query : Query) : List PostAggregation → Bool
  | [] => false
  | post :: rest => isFloat query post || anyFloat query rest
termination_by structural posts => posts

end

/-! ## Computed by the engine -/

/-- The literal of a number. -/
def literal : Number → Expr
  | .integer value => .integer value.toInt
  | .float value => .float value

/-- The quotient of two expressions, zero for a divisor of zero.  The cast keeps
the engine from dividing integers without a remainder. -/
def safeQuotient (dialect : Dialect) (dividend divisor : Expr) : Expr :=
  .case [(.compare divisor .equal (.integer 0), .integer 0)]
    (some (.arithmetic .divide (.cast dividend dialect.floatType) divisor))

/-- The expression of an operation on operands, from the left. -/
def operationExpr (dialect : Dialect) (operator : ArithmeticOperator) :
    List Expr → Except Error Expr
  | [] => .error (.arity operator.sign "at least 1" 0)
  | first :: rest =>
      match operator, rest with
      | .divide, [] => .error (.arity "/" "exactly 2" 1)
      | .divide, divisor :: _ => .ok (safeQuotient dialect first divisor)
      | operator, rest => .ok (rest.foldl (.arithmetic operator) first)

mutual

/-- The expression of a post-aggregation over the columns of the aggregates. -/
def expression (query : Query) (dialect : Dialect) : PostAggregation → Except Error Expr
  | .constant _ value => .ok (literal value)
  | .field aggregation => do
      checkReference query aggregation
      return .column aggregation
  | .arithmetic _ operator fields => do
      failOn (arityError? operator fields.length)
      operationExpr dialect operator (← expressions query dialect fields)
  | .sketchEstimate _ operand => expression query dialect operand
  | .sketchOperation name operator [operand] size => do
      if size = some 0 then throw (sketchError name operator 1 size)
      expression query dialect operand
  | .sketchOperation name operator fields size =>
      .error (sketchError name operator fields.length size)
termination_by structural post => post

/-- The expressions of some post-aggregations. -/
def expressions (query : Query) (dialect : Dialect) :
    List PostAggregation → Except Error (List Expr)
  | [] => .ok []
  | post :: rest => do
      let first ← expression query dialect post
      return first :: (← expressions query dialect rest)
termination_by structural posts => posts

end

end PostAggregation

/-! ## Computed from a row -/

/-- An arithmetic that post-aggregations can be computed in. -/
structure Arithmetic (α : Type) where
  /-- The value of a constant, if it has one. -/
  ofNumber? : Number → Option α
  ofText? : String → Option α
  isZero : α → Bool
  /-- What sums start from. -/
  zero : α
  /-- What products start from. -/
  one : α
  /-- The quotient of anything by zero. -/
  quotientByZero : α
  add : α → α → α
  subtract : α → α → α
  multiply : α → α → α
  divide : α → α → α

/-- The arithmetic of numbers. -/
def Number.arithmetic {φ : Type} [Floating φ] : Arithmetic (Number φ) where
  ofNumber? := Number.ofConstant?
  ofText? := Number.ofText?
  isZero := Number.isZero
  zero := .integer 0
  one := .integer 1
  quotientByZero := .float Floating.zero
  add := Number.add
  subtract := Number.subtract
  multiply := Number.multiply
  divide := Number.divide

namespace Arithmetic

variable {α : Type} (arithmetic : Arithmetic α)

/-- The values of a list, if none of them is absent. -/
def present : List (Option α) → Option (List α)
  | [] => some []
  | none :: _ => none
  | some value :: rest => (present rest).map (value :: ·)

/-- The quotient of two values.  A divisor of zero gives zero even where the
dividend is absent, as the engine's expression does. -/
def quotient : List (Option α) → Option α
  | [dividend, some divisor] =>
      if arithmetic.isZero divisor then some arithmetic.quotientByZero
      else dividend.map fun dividend => arithmetic.divide dividend divisor
  | _ => none

/-- The difference of the first value and all others. -/
def difference : List α → Option α
  | [] => none
  | first :: rest => some (rest.foldl arithmetic.subtract first)

/-- An operation on values, some of which may be absent. -/
def apply (operator : ArithmeticOperator) (operands : List (Option α)) : Option α :=
  match operator with
  | .add => (present operands).map (·.foldl arithmetic.add arithmetic.zero)
  | .subtract => (present operands).bind arithmetic.difference
  | .multiply => (present operands).map (·.foldl arithmetic.multiply arithmetic.one)
  | .divide => arithmetic.quotient operands

/-- The value of a text that a row holds for an aggregation. -/
def read (name text : String) : Except Error α :=
  match arithmetic.ofText? text with
  | some value => .ok value
  | none => .error (.execution (.notNumeric text name))

mutual

/-- The value of a post-aggregation on a row, which gives the text of each
aggregate that is present. -/
def evaluate (row : String → Option String) : PostAggregation → Except Error (Option α)
  | .constant _ value => .ok (arithmetic.ofNumber? value)
  | .field aggregation =>
      match row aggregation with
      | none => .ok none
      | some text => (arithmetic.read aggregation text).map some
  | .arithmetic _ operator fields => do
      PostAggregation.failOn (PostAggregation.arityError? operator fields.length)
      return arithmetic.apply operator (← evaluateList row fields)
  | .sketchEstimate _ operand => evaluate row operand
  | .sketchOperation name operator [operand] size => do
      if size = some 0 then throw (PostAggregation.sketchError name operator 1 size)
      evaluate row operand
  | .sketchOperation name operator fields size =>
      .error (PostAggregation.sketchError name operator fields.length size)
termination_by structural post => post

/-- The values of some post-aggregations on a row. -/
def evaluateList (row : String → Option String) :
    List PostAggregation → Except Error (List (Option α))
  | [] => .ok []
  | post :: rest => do
      let first ← evaluate row post
      return first :: (← evaluateList row rest)
termination_by structural posts => posts

end

end Arithmetic

/-- The value of a post-aggregation on a row. -/
def PostAggregation.evaluate {φ : Type} [Floating φ] (row : String → Option String)
    (post : PostAggregation) : Except Error (Option (Number φ)) :=
  Number.arithmetic.evaluate row post

end Rollup
