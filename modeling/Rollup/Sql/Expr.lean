import Rollup.Double.Basic
import Rollup.Instant.Basic
import Rollup.Query.PostAggregation

/-!
# Expressions

The scalar and truth-valued expressions of SQL statements.
-/

namespace Rollup.Sql

/-- A literal value. -/
inductive Literal where
  | integer (value : Int)
  | float (value : Double)
  | text (value : String)
  | timestamp (value : Instant)
  deriving DecidableEq

/-- A comparison between two operands. -/
inductive Operator where
  | equal
  | less
  | greater
  | atLeast
  /-- The keyword operator for regular expressions. -/
  | regexp
  /-- The sign operator for regular expressions. -/
  | tilde
  deriving DecidableEq

/-- The sign of a comparison. -/
def Operator.sign : Operator → String
  | .equal => "="
  | .less => "<"
  | .greater => ">"
  | .atLeast => ">="
  | .regexp => "REGEXP"
  | .tilde => "~"

/-- A function over the rows of a group. -/
inductive AggregateFunction where
  | sum
  | min
  | max
  | count
  | countDistinct
  deriving DecidableEq

/-- An expression. -/
inductive Expr where
  | column (name : String)
  | literal (value : Literal)
  | compare (left : Expr) (operator : Operator) (right : Expr)
  /-- Whether a text matches a pattern, with the character that takes the meaning
  from a pattern sign. -/
  | like (expr pattern : Expr) (escape : Option Char)
  | all (exprs : List Expr)
  | any (exprs : List Expr)
  | not (expr : Expr)
  | arithmetic (operator : ArithmeticOperator) (left right : Expr)
  | cast (expr : Expr) (typeName : String)
  | call (function : String) (arguments : List Expr)
  | extract (field : String) (expr : Expr)
  /-- An aggregate over the rows of a group; without an argument it takes the rows
  themselves. -/
  | aggregate (function : AggregateFunction) (argument : Option Expr)
  /-- The result of the first branch whose condition is true. -/
  | case (branches : List (Expr × Expr)) (otherwise : Option Expr)

namespace Expr

/-- A text literal. -/
def text (value : String) : Expr :=
  .literal (.text value)

/-- An integer literal. -/
def integer (value : Int) : Expr :=
  .literal (.integer value)

/-- A floating-point literal. -/
def float (value : Double) : Expr :=
  .literal (.float value)

/-- A text in lower case. -/
def lower (expr : Expr) : Expr :=
  .call "LOWER" [expr]

end Expr

/-- An aggregate call and the name of its column. -/
structure Aggregate where
  function : AggregateFunction
  argument : Option Expr
  name : String

/-- The call of an aggregate, without its name. -/
def Aggregate.call (aggregate : Aggregate) : Expr :=
  .aggregate aggregate.function aggregate.argument

end Rollup.Sql
