import Rollup.Query.Aggregation
import Rollup.Query.Filter
import Rollup.Query.Granularity
import Rollup.Query.Having
import Rollup.Query.Interval
import Rollup.Query.PostAggregation

/-!
# Queries

An aggregation query groups the rows of a table by dimensions and buckets of time
and computes aggregates of each group.  Names in it are logical: they are those of
the interface, not those of the physical table.
-/

namespace Rollup

/-- The kind of a query, which decides the shape of its response. -/
inductive QueryType where
  | groupBy
  | timeseries
  | topN
  deriving DecidableEq, Inhabited

namespace QueryType

/-- The name of a kind of query. -/
def name : QueryType → String
  | .groupBy => "groupBy"
  | .timeseries => "timeseries"
  | .topN => "topN"

/-- Every kind of query, in the order of their positions. -/
def every : List QueryType :=
  [.groupBy, .timeseries, .topN]

end QueryType

/-- The direction of a sort. -/
inductive SortDirection where
  | ascending
  | descending
  deriving DecidableEq, Inhabited

namespace SortDirection

/-- The name of a direction in queries. -/
def name : SortDirection → String
  | .ascending => "ascending"
  | .descending => "descending"

/-- Every direction, in the order of their positions. -/
def every : List SortDirection :=
  [.ascending, .descending]

end SortDirection

/-- A sort by the output column of a name. -/
structure SortColumn where
  column : String
  direction : SortDirection
  deriving DecidableEq

/-- The sort of a result and the number of rows kept. -/
structure LimitSpec where
  limit : Option Nat
  columns : List SortColumn
  deriving DecidableEq

/-- An aggregation query.  The dimension, the metric and the threshold are those of
a query for the greatest groups. -/
structure Query where
  type : QueryType := .groupBy
  dataSource : String
  dimensions : List String := []
  granularity : Granularity := .all
  intervals : List Interval := []
  filter : Option Filter := none
  aggregations : List Aggregation := []
  postAggregations : List PostAggregation := []
  having : Option Having := none
  limitSpec : Option LimitSpec := none
  dimension : Option String := none
  metric : Option String := none
  threshold : Option Nat := none

namespace Query

/-- The dimensions grouped by, in order: those listed and, in a query for the
greatest groups, its own dimension if it is not among them. -/
def groupingDimensions (query : Query) : List String :=
  match query.type, query.dimension with
  | .topN, some dimension =>
      if query.dimensions.contains dimension then query.dimensions
      else query.dimensions ++ [dimension]
  | _, _ => query.dimensions

/-- The explicit sort.  A query for the greatest groups ranks by its metric. -/
def sortColumns (query : Query) : List SortColumn :=
  match query.type, query.metric with
  | .topN, some metric => [⟨metric, .descending⟩]
  | _, _ => (query.limitSpec.map LimitSpec.columns).getD []

/-- The number of rows kept. -/
def rowLimit (query : Query) : Option Nat :=
  match query.type with
  | .topN => query.threshold
  | _ => query.limitSpec.bind LimitSpec.limit

/-- The first aggregation of a name. -/
def aggregation? (query : Query) (name : String) : Option Aggregation :=
  query.aggregations.find? fun aggregation => aggregation.name == name

/-- The first post-aggregation of a name. -/
def postAggregation? (query : Query) (name : String) : Option PostAggregation :=
  query.postAggregations.find? fun post => post.name? == some name

/-- Whether a query groups by a dimension. -/
def groupsBy (query : Query) (name : String) : Bool :=
  query.groupingDimensions.contains name

end Query

end Rollup
