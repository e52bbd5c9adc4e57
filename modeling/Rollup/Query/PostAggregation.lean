import Rollup.Number

/-!
# Post-aggregations

A post-aggregation is a formula over the aggregates of a group, computed once for
each row of the result.
-/

namespace Rollup

/-- An operation of arithmetic. -/
inductive ArithmeticOperator where
  | add
  | subtract
  | multiply
  | divide
  deriving DecidableEq

namespace ArithmeticOperator

/-- The sign of an operation in queries. -/
def sign : ArithmeticOperator → String
  | .add => "+"
  | .subtract => "-"
  | .multiply => "*"
  | .divide => "/"

/-- Every operation, in the order of their positions. -/
def every : List ArithmeticOperator :=
  [.add, .subtract, .multiply, .divide]

end ArithmeticOperator

/-- An operation on sketches of sets. -/
inductive SetOperator where
  | union
  | intersect
  | not
  deriving DecidableEq

namespace SetOperator

/-- The name of an operation in queries. -/
def name : SetOperator → String
  | .union => "UNION"
  | .intersect => "INTERSECT"
  | .not => "NOT"

/-- The name of an operation in messages. -/
def label : SetOperator → String
  | .union => "Union"
  | .intersect => "Intersect"
  | .not => "Not"

/-- Every operation, in the order of their positions. -/
def every : List SetOperator :=
  [.union, .intersect, .not]

end SetOperator

/-- A formula over the aggregates of a group. -/
inductive PostAggregation where
  | constant (name : String) (value : Number)
  /-- The aggregation of a name.  It has no output name of its own. -/
  | field (aggregation : String)
  | arithmetic (name : String) (operator : ArithmeticOperator) (fields : List PostAggregation)
  /-- The number of elements that a sketch estimates. -/
  | sketchEstimate (name : String) (field : PostAggregation)
  /-- A set operation on sketches, with the size of the resulting sketch. -/
  | sketchOperation (name : String) (operator : SetOperator) (fields : List PostAggregation)
      (size : Option Nat)

namespace PostAggregation

/-- The output name of a post-aggregation. -/
def name? : PostAggregation → Option String
  | .constant name _ => some name
  | .field _ => none
  | .arithmetic name _ _ => some name
  | .sketchEstimate name _ => some name
  | .sketchOperation name _ _ _ => some name

/-- The name of the kind of a post-aggregation in queries. -/
def typeName : PostAggregation → String
  | .constant .. => "constant"
  | .field _ => "fieldAccess"
  | .arithmetic .. => "arithmetic"
  | .sketchEstimate .. => "thetaSketchEstimate"
  | .sketchOperation .. => "thetaSketchSetOp"

end PostAggregation

end Rollup
