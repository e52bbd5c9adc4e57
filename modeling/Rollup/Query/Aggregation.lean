/-!
# Aggregations

A named aggregation of a query: what it computes, over which field, and under
which name its result is reported.
-/

namespace Rollup

/-- What an aggregation computes. -/
inductive AggregationKind where
  | count
  | longSum
  | doubleSum
  | longMin
  | longMax
  | doubleMin
  | doubleMax
  /-- The number of distinct values. -/
  | thetaSketch
  deriving DecidableEq

namespace AggregationKind

/-- The name of a kind in queries. -/
def name : AggregationKind → String
  | .count => "count"
  | .longSum => "longSum"
  | .doubleSum => "doubleSum"
  | .longMin => "longMin"
  | .longMax => "longMax"
  | .doubleMin => "doubleMin"
  | .doubleMax => "doubleMax"
  | .thetaSketch => "thetaSketch"

/-- Every kind, in the order of their positions. -/
def every : List AggregationKind :=
  [.count, .longSum, .doubleSum, .longMin, .longMax, .doubleMin, .doubleMax, .thetaSketch]

/-- Whether results of a kind are reported as doubles. -/
def isFloat : AggregationKind → Bool
  | .doubleSum => true
  | .doubleMin => true
  | .doubleMax => true
  | .thetaSketch => true
  | _ => false

end AggregationKind

/-- A named aggregation over a field; a count has none. -/
structure Aggregation where
  kind : AggregationKind
  name : String
  field : Option String
  deriving DecidableEq

namespace Aggregation

/-- An aggregation over a field. -/
def ofField (kind : AggregationKind) (name field : String) : Aggregation :=
  ⟨kind, name, some field⟩

/-- A count of rows. -/
def count (name : String) : Aggregation :=
  ⟨.count, name, none⟩

end Aggregation

end Rollup
