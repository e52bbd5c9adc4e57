/-!
# Granularity

The size of the buckets into which a query groups time, and the parts of a
timestamp that tell the buckets of each size apart.
-/

namespace Rollup

/-- The size of a bucket of time. -/
inductive Granularity where
  /-- One bucket for the whole query. -/
  | all
  /-- No bucketing: each distinct timestamp is a bucket of its own. -/
  | none
  | minute
  | hour
  | day
  | week
  | month
  | quarter
  | year
  deriving DecidableEq, Inhabited

/-- A part of a timestamp. -/
inductive TimePart where
  | year
  | quarter
  | month
  | dayOfYear
  | hour
  | minute
  /-- The ISO-8601 week-numbering year. -/
  | isoYear
  /-- The ISO-8601 week, from 1. -/
  | isoWeek
  deriving DecidableEq

namespace TimePart

/-- The column name under which a statement projects a part. -/
def columnName : TimePart → String
  | .year => "__year"
  | .quarter => "__quarter"
  | .month => "__month"
  | .dayOfYear => "__dayofyear"
  | .hour => "__hour"
  | .minute => "__minute"
  | .isoYear => "__isoyear"
  | .isoWeek => "__isoweek"

/-- Every part. -/
def every : List TimePart :=
  [.year, .quarter, .month, .dayOfYear, .hour, .minute, .isoYear, .isoWeek]

end TimePart

namespace Granularity

/-- The name of a granularity in queries. -/
def name : Granularity → String
  | .all => "all"
  | .none => "none"
  | .minute => "minute"
  | .hour => "hour"
  | .day => "day"
  | .week => "week"
  | .month => "month"
  | .quarter => "quarter"
  | .year => "year"

/-- Every granularity, in the order of their positions. -/
def every : List Granularity :=
  [.all, .none, .minute, .hour, .day, .week, .month, .quarter, .year]

/-- The parts that tell the buckets of a granularity apart, the coarsest
first. -/
def timeParts : Granularity → List TimePart
  | .all => []
  | .none => []
  | .minute => [.year, .dayOfYear, .hour, .minute]
  | .hour => [.year, .dayOfYear, .hour]
  | .day => [.year, .dayOfYear]
  | .week => [.isoYear, .isoWeek]
  | .month => [.year, .month]
  | .quarter => [.year, .quarter]
  | .year => [.year]

/-- Whether the rows are grouped by the timestamp itself. -/
def groupsByTimestamp (granularity : Granularity) : Bool :=
  granularity == .none

/-- The column name under which a statement projects the timestamp itself. -/
def timestampColumnName : String := "__time"

/-- The names of the time columns that come first in every row. -/
def timeColumnNames (granularity : Granularity) : List String :=
  if granularity.groupsByTimestamp then [timestampColumnName]
  else granularity.timeParts.map TimePart.columnName

end Granularity

end Rollup
