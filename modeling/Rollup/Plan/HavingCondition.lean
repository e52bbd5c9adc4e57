import Rollup.Error
import Rollup.Sql.Expr

/-!
# Conditions of having trees

The condition on the aggregates of a group that a having tree stands for.  A leaf
becomes the call of the aggregate and not its name, which not every engine knows
at that place.
-/

namespace Rollup

open Sql

/-- The operator of a comparison. -/
def Comparison.operator : Comparison → Operator
  | .equal => .equal
  | .less => .less
  | .greater => .greater

namespace Having

mutual

/-- The condition of a having tree over the aggregates of a statement. -/
def condition (aggregates : List Aggregate) : Having → Except Error Expr
  | .compare name comparison value =>
      match aggregates.find? fun aggregate => aggregate.name == name with
      | some aggregate => .ok (.compare aggregate.call comparison.operator (.float value))
      | none => .error (.unknownName (.havingAggregation name))
  | .all clauses => do
      if clauses.isEmpty then throw (.arity "and" "at least 1" 0)
      return .all (← conditions aggregates clauses)
  | .any clauses => do
      if clauses.isEmpty then throw (.arity "or" "at least 1" 0)
      return .any (← conditions aggregates clauses)
  | .not clause => do return .not (← condition aggregates clause)
  | .multi connective clauses => do
      if clauses.isEmpty then throw (.arity "multi" "at least 1" 0)
      let operands ← conditions aggregates clauses
      match connective with
      | .and => return .all operands
      | .or => return .any operands
termination_by structural having => having

/-- The conditions of some having trees. -/
def conditions (aggregates : List Aggregate) : List Having → Except Error (List Expr)
  | [] => .ok []
  | clause :: rest => do
      let first ← condition aggregates clause
      return first :: (← conditions aggregates rest)
termination_by structural clauses => clauses

end

end Having

end Rollup
