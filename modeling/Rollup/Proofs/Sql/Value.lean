import Mathlib.Algebra.Order.Field.Rat
import Mathlib.Algebra.Order.Ring.Cast
import Rollup.Proofs.Number.Exact
import Rollup.Proofs.Sql.Pattern
import Rollup.Proofs.Sql.Truth

/-!
# Values of expressions

What an expression is worth in a row, as engines agree on it: `NULL` goes through
arithmetic, casts, comparisons and the functions on texts, connectives have three truth
values, and a `CASE` takes the first branch whose condition is true.  Numbers are exact.

Where engines differ, the value is left to the engine: how integers are divided, what a
division by zero gives, how values of different kinds compare, and every function, cast
and pattern language that is not fixed here.
-/

namespace Rollup.Sql

/-! ## Values and engines -/

/-- A value other than `NULL`. -/
inductive Value where
  | integer (value : Int)
  | real (value : ℚ)
  | text (value : String)
  | truth (value : Bool)
  | timestamp (value : Instant)

namespace Value

/-- The number that a value is. -/
def number? : Value → Option ℚ
  | .integer value => some value
  | .real value => some value
  | _ => none

end Value

/-- The truth value of what may be a condition; neither `NULL` nor a value of another
kind decides anything. -/
def Truth.ofValue : Option Value → Truth
  | some (.truth value) => some value
  | _ => none

@[simp]
theorem Truth.ofValue_map_truth (truth : Truth) : ofValue (truth.map Value.truth) = truth := by
  cases truth <;> rfl

/-- What engines do differently. -/
structure Engine where
  /-- A character in lower case. -/
  lower : Char → Char
  /-- Whether a text matches a regular expression. -/
  matchesRegex : String → String → Bool
  /-- The quotient of two integers, which many engines cut to an integer. -/
  divideIntegers : Int → Int → Option Value
  /-- The quotient of a number by zero. -/
  divideByZero : ℚ → Option Value
  /-- What a timestamp literal denotes. -/
  timestamp : Instant → Option Value
  /-- A comparison of values that are neither two numbers, nor two timestamps, nor texts
  under equality or a pattern operator. -/
  compareOther : Operator → Value → Value → Truth
  /-- A cast that changes the kind of a value, or to any type but texts and doubles. -/
  castOther : String → Value → Option Value
  /-- A call of any other function, or with arguments that are not texts. -/
  callOther : String → List (Option Value) → Option Value
  /-- A field of a timestamp. -/
  extract : String → Option Value → Option Value

/-- An engine that knows ASCII letters, regular expressions without signs and whole
quotients, and gives `NULL` for everything else. -/
def Engine.plain : Engine where
  lower := Char.toLower
  matchesRegex text pattern := decide (pattern.toList <:+: text.toList)
  divideIntegers left right := if right = 0 then none else some (.integer (left.tdiv right))
  divideByZero _ := none
  timestamp value := some (.timestamp value)
  compareOther _ _ _ := none
  castOther _ _ := none
  callOther _ _ := none
  extract _ _ := none

/-- What an expression is read in: a dialect, an engine for it, and a row of columns and
of the aggregates of a group. -/
structure Environment where
  dialect : Dialect
  engine : Engine
  column : String → Option Value
  aggregate : AggregateFunction → Option Expr → Option Value := fun _ _ => none

/-! ## Operations on values -/

/-- A comparison of two values of which one is less, equal or greater. -/
def Operator.decides (operator : Operator) (isLess isEqual isGreater : Bool) : Bool :=
  match operator with
  | .equal => isEqual
  | .less => isLess
  | .greater => isGreater
  | .atLeast => isEqual || isGreater
  | .regexp | .tilde => false

namespace Engine

variable (engine : Engine)

/-- A comparison of two numbers. -/
def compareNumbers (operator : Operator) (left right : ℚ) : Bool :=
  operator.decides (decide (left < right)) (decide (left = right)) (decide (right < left))

/-- A comparison of two texts.  How texts are ordered is left to the engine. -/
def compareTexts (operator : Operator) (left right : String) : Truth :=
  match operator with
  | .equal => some (decide (left = right))
  | .regexp | .tilde => some (engine.matchesRegex left right)
  | _ => engine.compareOther operator (.text left) (.text right)

/-- A comparison of two values. -/
def compare (operator : Operator) : Value → Value → Truth
  | .text left, .text right => engine.compareTexts operator left right
  | .timestamp left, .timestamp right =>
      some (operator.decides (left.isBefore right) (decide (left = right))
        (right.isBefore left))
  | left, right =>
      match left.number?, right.number? with
      | some first, some second => some (compareNumbers operator first second)
      | _, _ => engine.compareOther operator left right

/-- An operation on two numbers, not both integers. -/
def operateOnReals (operator : ArithmeticOperator) (left right : ℚ) : Option Value :=
  match operator with
  | .add => some (.real (left + right))
  | .subtract => some (.real (left - right))
  | .multiply => some (.real (left * right))
  | .divide => if right = 0 then engine.divideByZero left else some (.real (left / right))

/-- An operation on two integers. -/
def operateOnIntegers (operator : ArithmeticOperator) (left right : Int) : Option Value :=
  match operator with
  | .add => some (.integer (left + right))
  | .subtract => some (.integer (left - right))
  | .multiply => some (.integer (left * right))
  | .divide => engine.divideIntegers left right

/-- An operation on two values; there is none on values that are no numbers. -/
def operate (operator : ArithmeticOperator) : Value → Value → Option Value
  | .integer left, .integer right => engine.operateOnIntegers operator left right
  | left, right =>
      match left.number?, right.number? with
      | some first, some second => engine.operateOnReals operator first second
      | _, _ => none

/-- A cast.  To the type of texts it keeps a text, to that of doubles a number. -/
def cast (dialect : Dialect) (typeName : String) (value : Value) : Option Value :=
  if typeName = dialect.floatType then
    match value.number? with
    | some number => some (.real number)
    | none => engine.castOther typeName value
  else if typeName = dialect.textType then
    match value with
    | .text text => some (.text text)
    | other => engine.castOther typeName other
  else engine.castOther typeName value

/-- Whether a value is like a pattern. -/
def like (escape : Option Char) : Value → Value → Truth
  | .text text, .text pattern => like? escape text.toList pattern.toList
  | _, _ => none

/-- A call of a function on one text, `NULL` for `NULL`. -/
def callOnText (function : String) (onText : String → Value) :
    List (Option Value) → Option Value
  | [none] => none
  | [some (.text text)] => some (onText text)
  | arguments => engine.callOther function arguments

/-- A call of a function on two texts, `NULL` where one of them is. -/
def callOnTexts (function : String) (onTexts : String → String → Value) :
    List (Option Value) → Option Value
  | [none, _] => none
  | [_, none] => none
  | [some (.text first), some (.text second)] => some (onTexts first second)
  | arguments => engine.callOther function arguments

/-- A call of a function. -/
def call (function : String) (arguments : List (Option Value)) : Option Value :=
  if function = "LOWER" then
    engine.callOnText function (fun text => .text (text.map engine.lower)) arguments
  else if function = "instr" then
    engine.callOnTexts function
      (fun text needle => .integer (position needle.toList text.toList)) arguments
  else if function = "REGEXP_LIKE" ∨ function = "regexp_like" then
    engine.callOnTexts function (fun text pattern => .truth (engine.matchesRegex text pattern))
      arguments
  else engine.callOther function arguments

theorem call_lower (cell : Option String) :
    engine.call "LOWER" [cell.map .text] =
      cell.map fun text => .text (text.map engine.lower) := by
  cases cell <;> rfl

theorem call_instr (cell : Option String) (needle : String) :
    engine.call "instr" [cell.map .text, some (.text needle)] =
      cell.map fun text => .integer (position needle.toList text.toList) := by
  cases cell <;> rfl

theorem call_regex {function : String}
    (named : function = "REGEXP_LIKE" ∨ function = "regexp_like") (cell : Option String)
    (pattern : String) :
    engine.call function [cell.map .text, some (.text pattern)] =
      cell.map fun text => .truth (engine.matchesRegex text pattern) := by
  rcases named with rfl | rfl <;> cases cell <;> rfl

end Engine

/-! ## Values of expressions -/

/-- The value of a literal.  A double that is no rational has none. -/
def Literal.value (engine : Engine) : Literal → Option Value
  | .integer value => some (.integer value)
  | .float value => value.rational?.map .real
  | .text value => some (.text value)
  | .timestamp value => engine.timestamp value

namespace Expr

mutual

/-- The value of an expression, `none` being `NULL` or, for a condition, unknown. -/
def value (environment : Environment) : Expr → Option Value
  | .column name => environment.column name
  | .literal constant => constant.value environment.engine
  | .compare left operator right =>
      (value environment left).bind fun first =>
        (value environment right).bind fun second =>
          (environment.engine.compare operator first second).map .truth
  | .like expr pattern escape =>
      (value environment expr).bind fun text =>
        (value environment pattern).bind fun pattern =>
          (Engine.like escape text pattern).map .truth
  | .all exprs =>
      (Truth.all ((values environment exprs).map Truth.ofValue)).map .truth
  | .any exprs =>
      (Truth.any ((values environment exprs).map Truth.ofValue)).map .truth
  | .not expr => (Truth.ofValue (value environment expr)).not.map .truth
  | .arithmetic operator left right =>
      (value environment left).bind fun first =>
        (value environment right).bind fun second =>
          environment.engine.operate operator first second
  | .cast expr typeName =>
      (value environment expr).bind (environment.engine.cast environment.dialect typeName)
  | .call function arguments =>
      environment.engine.call function (values environment arguments)
  | .extract field expr => environment.engine.extract field (value environment expr)
  | .aggregate function argument => environment.aggregate function argument
  | .case branches none => chosen environment branches none
  | .case branches (some otherwise) => chosen environment branches (value environment otherwise)
termination_by structural expr => expr

/-- The values of some expressions. -/
def values (environment : Environment) : List Expr → List (Option Value)
  | [] => []
  | expr :: rest => value environment expr :: values environment rest
termination_by structural exprs => exprs

/-- The value of the first branch whose condition is true, or else a given value. -/
def chosen (environment : Environment) : List (Expr × Expr) → Option Value → Option Value
  | [], otherwise => otherwise
  | (condition, result) :: rest, otherwise =>
      if Truth.ofValue (value environment condition) = some true then
        value environment result
      else chosen environment rest otherwise
termination_by structural branches => branches

end

attribute [local simp] value values chosen

/-- The truth value of a condition. -/
def truth (environment : Environment) (expr : Expr) : Truth :=
  Truth.ofValue (expr.value environment)

@[simp]
theorem values_eq_map (environment : Environment) (exprs : List Expr) :
    values environment exprs = exprs.map (value environment) := by
  induction exprs with
  | nil => rfl
  | cons expr rest inductionHypothesis => rw [values, inductionHypothesis, List.map_cons]

@[simp]
theorem truth_not (environment : Environment) (expr : Expr) :
    (Expr.not expr).truth environment = (expr.truth environment).not := by
  rw [truth, value, Truth.ofValue_map_truth, truth]

@[simp]
theorem truth_all (environment : Environment) (exprs : List Expr) :
    (Expr.all exprs).truth environment = Truth.all (exprs.map (truth environment)) := by
  rw [truth, value, Truth.ofValue_map_truth, values_eq_map, List.map_map]
  rfl

@[simp]
theorem truth_any (environment : Environment) (exprs : List Expr) :
    (Expr.any exprs).truth environment = Truth.any (exprs.map (truth environment)) := by
  rw [truth, value, Truth.ofValue_map_truth, values_eq_map, List.map_map]
  rfl

end Expr

end Rollup.Sql
