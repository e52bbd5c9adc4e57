import Rollup.Double.Basic

/-!
# Having trees

A having tree is a condition on the aggregates of a group.  Its leaves name
aggregations, never dimensions.
-/

namespace Rollup

/-- How an aggregate is compared with a constant. -/
inductive Comparison where
  | equal
  | less
  | greater
  deriving DecidableEq

/-- The name of a comparison in queries. -/
def Comparison.name : Comparison → String
  | .equal => "equalTo"
  | .less => "lessThan"
  | .greater => "greaterThan"

/-- The connective of a list of clauses. -/
inductive Connective where
  | and
  | or
  deriving DecidableEq

/-- The name of a connective in queries. -/
def Connective.name : Connective → String
  | .and => "and"
  | .or => "or"

/-- A condition on the aggregates of a group. -/
inductive Having where
  /-- The aggregate of a name compared with a constant. -/
  | compare (aggregation : String) (comparison : Comparison) (value : Double)
  | all (clauses : List Having)
  | any (clauses : List Having)
  | not (clause : Having)
  /-- Clauses under a connective that the query gives. -/
  | multi (connective : Connective) (clauses : List Having)

end Rollup
