import Rollup.Schema.FieldMap
import Rollup.Sql.Dialect

/-!
# Conditions of filters

The condition on the rows of a physical table that a filter stands for.  A filter
may name the dimensions that the table maps and those that the query groups by;
connectives and value lists have to have operands.
-/

namespace Rollup

open Sql

/-- What the names in a filter are read against. -/
structure FilterScope where
  dialect : Dialect
  fields : FieldMap
  query : Query

namespace FilterScope

/-- Whether a filter may name a dimension. -/
def knows (scope : FilterScope) (dimension : String) : Bool :=
  scope.fields.isMapped dimension || scope.query.groupsBy dimension

/-- The physical column of a dimension. -/
def column (scope : FilterScope) (dimension : String) : Except Error Expr :=
  if scope.knows dimension then .ok (.column (scope.fields.toPhysical dimension))
  else .error (.unknownName (.filterDimension dimension))

/-- The condition of a search in a dimension. -/
def searchCondition (scope : FilterScope) (dimension : String) (search : Search) :
    Except Error Expr := do
  let column ← scope.column dimension
  match search.mode with
  | .contains => return scope.dialect.contains column search.text
  | .insensitiveContains => return scope.dialect.containsInsensitive column search.text
  | .fragment => throw (.unsupported (.fragmentSearch dimension))

/-- The condition that a dimension has one of some values. -/
def membershipCondition (scope : FilterScope) (dimension : String) (values : List String) :
    Except Error Expr := do
  if values.isEmpty then throw (.arity "in" "at least 1" 0)
  let column ← scope.column dimension
  return .any (values.map (scope.dialect.equals column))

mutual

/-- The condition of a filter. -/
def condition (scope : FilterScope) : Filter → Except Error Expr
  | .selector dimension value => do
      return scope.dialect.equals (← scope.column dimension) value
  | .regex dimension pattern => do
      scope.dialect.matchesRegex (← scope.column dimension) pattern
  | .search dimension search => scope.searchCondition dimension search
  | .oneOf dimension values => scope.membershipCondition dimension values
  | .all filters => do
      if filters.isEmpty then throw (.arity "and" "at least 1" 0)
      return .all (← conditions scope filters)
  | .any filters => do
      if filters.isEmpty then throw (.arity "or" "at least 1" 0)
      return .any (← conditions scope filters)
  | .not filter => do return .not (← condition scope filter)
termination_by structural filter => filter

/-- The conditions of some filters. -/
def conditions (scope : FilterScope) : List Filter → Except Error (List Expr)
  | [] => .ok []
  | filter :: rest => do
      let first ← condition scope filter
      return first :: (← conditions scope rest)
termination_by structural filters => filters

end

end FilterScope

end Rollup
