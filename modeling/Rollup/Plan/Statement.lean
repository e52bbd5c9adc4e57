import Rollup.Plan.FilterCondition
import Rollup.Plan.Formula
import Rollup.Plan.HavingCondition
import Rollup.Sql.Select
import Rollup.Time.Bucketing

/-!
# Statements of queries

The statement that computes a query: time columns first, then dimensions, then
aggregates, grouped by the first two and sorted by the explicit sort and then by
everything grouped on.  Post-aggregations either stand in a statement around it or
are left to whoever reads the rows.
-/

namespace Rollup

open Sql

/-- Where post-aggregations are computed. -/
inductive PostAggregationMode where
  /-- By the engine, in a statement around that of the aggregates. -/
  | sql
  /-- From the rows that have been read. -/
  | direct
  deriving DecidableEq, Inhabited

namespace PostAggregationMode

/-- The name of a mode. -/
def name : PostAggregationMode → String
  | .sql => "sql"
  | .direct => "direct"

/-- Every mode, in the order of their positions. -/
def every : List PostAggregationMode :=
  [.sql, .direct]

end PostAggregationMode

namespace Query

/-! ## Checks -/

/-- Checks what the kind of a query asks of it. -/
def checkType (query : Query) : Except Error Unit :=
  match query.type with
  | .groupBy => .ok ()
  | .timeseries =>
      if query.dimensions.isEmpty then .ok ()
      else .error (.invalidQuery .timeseriesWithDimensions)
  | .topN =>
      match query.dimension with
      | none => .error (.invalidQuery .topNWithoutDimension)
      | some dimension =>
          if query.metric.isNone then .error (.invalidQuery .topNWithoutMetric)
          else if query.threshold.getD 0 = 0 then .error (.invalidQuery .topNWithoutThreshold)
          else if query.dimensions.any (· != dimension) then .error (.unsupported .topNDimensions)
          else if query.granularity ≠ .all then
            .error (.unsupported (.topNGranularity query.granularity))
          else .ok ()

/-- Checks that a query selects something. -/
def checkOutput (query : Query) : Except Error Unit :=
  if query.groupingDimensions.isEmpty && query.aggregations.isEmpty then
    .error (.invalidQuery .noOutput)
  else .ok ()

/-- The names that the grouping columns take in a row: dimensions under their
logical and physical names, and time columns. -/
def groupingNames (query : Query) (fields : FieldMap) : List String :=
  query.groupingDimensions.flatMap (fun dimension => [dimension, fields.toPhysical dimension]) ++
    query.granularity.timeColumnNames

/-- Checks that no grouping column has a name. -/
def checkGrouping (grouping : List String) (name : String) : Except Error Unit :=
  if grouping.contains name then .error (.invalidQuery (.nameOfGroupingColumn name)) else .ok ()

/-- Checks the names of aggregations in order: each has one, which neither another
aggregation nor a grouping column has. -/
def checkAggregationNames (grouping : List String) :
    List String → List Aggregation → Except Error Unit
  | _, [] => .ok ()
  | taken, aggregation :: rest => do
      if aggregation.name = "" then throw (.invalidQuery (.unnamedAggregation aggregation.kind))
      if taken.contains aggregation.name then
        throw (.invalidQuery (.duplicateName aggregation.name))
      checkGrouping grouping aggregation.name
      checkAggregationNames grouping (aggregation.name :: taken) rest

/-- Checks the names of top-level post-aggregations in order, in the same way.  An
empty name is not a repetition; it is found later. -/
def checkPostAggregationNames (grouping : List String) :
    List String → List PostAggregation → Except Error Unit
  | _, [] => .ok ()
  | taken, post :: rest =>
      match post.name? with
      | none => .error (.invalidQuery .topLevelField)
      | some name => do
          if name ≠ "" ∧ taken.contains name then throw (.invalidQuery (.duplicateName name))
          checkGrouping grouping name
          checkPostAggregationNames grouping (name :: taken) rest

/-- Checks the shape of a query and its output names. -/
def check (query : Query) (fields : FieldMap) : Except Error Unit := do
  query.checkType
  query.checkOutput
  let grouping := query.groupingNames fields
  checkAggregationNames grouping [] query.aggregations
  checkPostAggregationNames grouping (query.aggregations.map Aggregation.name)
    query.postAggregations

/-! ## Parts of the statement -/

/-- The aggregate of an aggregation.  All but a count need a field. -/
def aggregate (fields : FieldMap) (aggregation : Aggregation) : Except Error Aggregate :=
  let onField (function : AggregateFunction) : Except Error Aggregate :=
    match aggregation.field with
    | some field => .ok ⟨function, some (.column (fields.toPhysical field)), aggregation.name⟩
    | none => .error (.invalidQuery (.missingField aggregation.kind aggregation.name))
  match aggregation.kind with
  | .count => .ok ⟨.count, none, aggregation.name⟩
  | .longSum | .doubleSum => onField .sum
  | .longMin | .doubleMin => onField .min
  | .longMax | .doubleMax => onField .max
  | .thetaSketch => onField .countDistinct

/-- The aggregates of some aggregations. -/
def aggregates (fields : FieldMap) : List Aggregation → Except Error (List Aggregate)
  | [] => .ok []
  | aggregation :: rest => do
      let first ← aggregate fields aggregation
      return first :: (← aggregates fields rest)

/-- A list without the names that are in `seen` or have come before. -/
def distinctFrom (seen : List String) : List String → List String
  | [] => []
  | name :: rest =>
      if seen.contains name then distinctFrom seen rest
      else name :: distinctFrom (name :: seen) rest

/-- The physical columns of the dimensions grouped by, each once. -/
def dimensionColumns (query : Query) (fields : FieldMap) : List String :=
  distinctFrom [] (query.groupingDimensions.map fields.toPhysical)

/-- The expressions of time that are grouped by, with the names of their columns. -/
def timeKeys (query : Query) (dialect : Dialect) (timestamp : Expr) : List (Expr × String) :=
  if query.granularity.groupsByTimestamp then
    [(timestamp, Granularity.timestampColumnName)]
  else
    query.granularity.timeParts.map fun part =>
      (dialect.timePart timestamp part, part.columnName)

/-- The time columns of the statement.  A timestamp that is grouped by is projected
as text. -/
def timeProjections (query : Query) (dialect : Dialect) (timestamp : Expr) : List Projection :=
  (query.timeKeys dialect timestamp).map fun (expr, name) =>
    .expr (if query.granularity.groupsByTimestamp then dialect.timestampText expr else expr)
      (some name)

/-- The columns of the aggregates. -/
def aggregateProjections (dialect : Dialect) (aggregations : List Aggregation)
    (aggregates : List Aggregate) : List Projection :=
  (aggregations.zip aggregates).map fun (aggregation, aggregate) =>
    .expr (dialect.projectAggregate aggregate.call aggregation.kind.isFloat) (some aggregate.name)

/-- The condition that a timestamp lies in an interval. -/
def intervalCondition (dialect : Dialect) (timestamp : Expr) (interval : Interval) : Expr :=
  .all [.compare timestamp .atLeast (dialect.timestampLiteral interval.start),
    .compare timestamp .less (dialect.timestampLiteral interval.stop)]

/-- The condition that a timestamp lies in one of some intervals, if there are
any. -/
def intervalsCondition (dialect : Dialect) (timestamp : Expr) : List Interval → Option Expr
  | [] => none
  | [interval] => some (intervalCondition dialect timestamp interval)
  | intervals => some (.any (intervals.map (intervalCondition dialect timestamp)))

/-- The conjunction of two conditions of which either may be missing. -/
def conjunction : Option Expr → Option Expr → Option Expr
  | some first, some second => some (.all [first, second])
  | first, second => first <|> second

/-- The condition of an optional tree. -/
def optional {α : Type} (condition : α → Except Error Expr) :
    Option α → Except Error (Option Expr)
  | none => .ok none
  | some tree => (condition tree).map some

/-! ## Sorting -/

/-- The column that an explicit sort refers to: an aggregation, a post-aggregation
where the engine computes it, or the physical column of a dimension. -/
def sortedColumn (query : Query) (fields : FieldMap) (mode : PostAggregationMode)
    (name : String) : Except Error String :=
  if (query.aggregation? name).isSome then .ok name
  else if (query.postAggregation? name).isSome then
    match mode with
    | .sql => .ok name
    | .direct => .error (.unsupported (.sortByPostAggregation name))
  else if query.groupsBy name then .ok (fields.toPhysical name)
  else if fields.isMapped name then .error (.invalidQuery (.ungroupedSort name))
  else .error (.unknownName (.sortColumn name))

/-- The columns of an explicit sort, with their directions. -/
def explicitSort (query : Query) (fields : FieldMap) (mode : PostAggregationMode) :
    List SortColumn → Except Error (List (String × SortDirection))
  | [] => .ok []
  | sort :: rest => do
      let column ← query.sortedColumn fields mode sort.column
      return (column, sort.direction) :: (← explicitSort query fields mode rest)

/-- Sorts whose columns are not in `seen` and have not come before. -/
def distinctSorts (seen : List String) :
    List (String × SortDirection) → List (String × SortDirection)
  | [] => []
  | (column, direction) :: rest =>
      if seen.contains column then distinctSorts seen rest
      else (column, direction) :: distinctSorts (column :: seen) rest

/-- The sort of the statement: the explicit one, then every grouping column that is
not sorted by yet, ascending.  Time columns go by their names, so that the sort
also fits around the statement. -/
def sortKeys (query : Query) (fields : FieldMap) (mode : PostAggregationMode) :
    Except Error (List SortKey) := do
  let explicit ← query.explicitSort fields mode query.sortColumns
  let grouping := query.dimensionColumns fields ++ query.granularity.timeColumnNames
  let sorts := distinctSorts [] (explicit ++ grouping.map fun column => (column, .ascending))
  return sorts.map fun (column, direction) => { expr := .column column, direction }

/-! ## The statement -/

/-- The name of the aggregate statement inside the one around it. -/
def aggregateName : String := "agg"

/-- The columns of post-aggregations that the engine computes. -/
def postProjections (query : Query) (dialect : Dialect) :
    List PostAggregation → Except Error (List Projection)
  | [] => .ok []
  | post :: rest => do
      let expr ← post.expression query dialect
      return .expr expr (some (post.name?.getD "")) :: (← postProjections query dialect rest)

/-- The statement around an aggregate statement that adds post-aggregations.  Sort
and limit move to it. -/
def wrap (query : Query) (dialect : Dialect) (inner : Select) : Except Error Select := do
  let projections ← query.postProjections dialect query.postAggregations
  return {
    projections := .allOf aggregateName :: projections
    source := .subquery { inner with order := [], limit := none } aggregateName
    order := inner.order
    limit := inner.limit }

/-- The statement of the aggregates of a query. -/
def aggregateStatement (query : Query) (table : Table) (fields : FieldMap) (dialect : Dialect)
    (mode : PostAggregationMode) : Except Error Select := do
  query.check fields
  PostAggregation.validateList query query.postAggregations
  let timestamp := dialect.timestampColumn (.column table.timestampColumn)
  let dimensions := (query.dimensionColumns fields).map Expr.column
  let aggregates ← aggregates fields query.aggregations
  let filter ← optional (FilterScope.condition ⟨dialect, fields, query⟩) query.filter
  let having ← optional (Having.condition aggregates) query.having
  let order ← query.sortKeys fields mode
  return {
    projections :=
      query.timeProjections dialect timestamp ++
        dimensions.map (fun column => .expr column none) ++
        aggregateProjections dialect query.aggregations aggregates
    source := .table table.relationParts
    filter := conjunction filter (intervalsCondition dialect timestamp query.intervals)
    grouping := dimensions ++ (query.timeKeys dialect timestamp).map Prod.fst
    having
    order
    limit := query.rowLimit }

/-- The statement of a query. -/
def statement (query : Query) (table : Table) (fields : FieldMap) (dialect : Dialect)
    (mode : PostAggregationMode) : Except Error Select := do
  let inner ← query.aggregateStatement table fields dialect mode
  if mode = .sql ∧ query.postAggregations ≠ [] then query.wrap dialect inner else return inner

end Query

end Rollup
