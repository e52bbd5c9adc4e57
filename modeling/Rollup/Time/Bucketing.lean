import Rollup.Error

/-!
# Bucketing

The way a query cuts time into buckets, and the start of a bucket rebuilt from the
parts of a timestamp that a row carries.
-/

namespace Rollup

open Calendar

/-- The buckets of a query: their size, and the instant that the one bucket of
granularity `all` is reported under. -/
structure Bucketing where
  granularity : Granularity
  origin : Instant
  deriving DecidableEq

namespace Bucketing

/-- The buckets of a granularity over some intervals.  The origin is their
earliest start, or the epoch when there are none. -/
def ofIntervals (granularity : Granularity) (intervals : List Interval) : Bucketing where
  granularity := granularity
  origin :=
    match intervals with
    | [] => Instant.epoch
    | first :: rest =>
        rest.foldl (fun earliest interval => earliest.earlier interval.start) first.start

/-- The buckets of a query. -/
def ofQuery (query : Query) : Bucketing :=
  ofIntervals query.granularity query.intervals

/-- The number of time columns that come first in every row. -/
def timeColumnCount (bucketing : Bucketing) : Nat :=
  bucketing.granularity.timeColumnNames.length

/-- A natural number of thirty-two bits. -/
def narrow (value : Int) : Except Error Nat :=
  if 0 ≤ value ∧ value < 4294967296 then .ok value.toNat
  else .error (.execution (.timePartRange value))

/-- A year of thirty-two bits. -/
def narrowYear (fault : ExecutionFault) (value : Int) : Except Error Int :=
  if -2147483648 ≤ value ∧ value < 2147483648 then .ok value else .error (.execution fault)

/-- The date of the first day of a bucket, from the value of each part; `none` when
no bucket has these parts. -/
def firstDate? (granularity : Granularity) (part : TimePart → Int) :
    Except Error (Option Date) := do
  let year ← narrowYear .yearRange (part .year)
  match granularity with
  | .minute | .hour | .day => return Date.ofYearDay? year (← narrow (part .dayOfYear))
  | .week =>
      let isoYear ← narrowYear .isoYearRange (part .isoYear)
      return Date.ofIsoWeek? isoYear (← narrow (part .isoWeek))
  | .month => return Date.ofYearMonthDay? year (← narrow (part .month)) 1
  | .quarter =>
      let quarter ← narrow (part .quarter)
      if 1 ≤ quarter && quarter ≤ 4 then
        return Date.ofYearMonthDay? year ((quarter - 1) * 3 + 1) 1
      else .error (.execution (.quarterRange quarter))
  | .year => return Date.ofYearMonthDay? year 1 1
  | .all | .none => return none

/-- The hour and the minute at which a bucket starts, from the value of each
part. -/
def firstMinute (granularity : Granularity) (part : TimePart → Int) : Except Error (Nat × Nat) :=
  match granularity with
  | .minute => do return (← narrow (part .hour), ← narrow (part .minute))
  | .hour => do return (← narrow (part .hour), 0)
  | _ => .ok (0, 0)

/-- The value listed for a part, zero for a part that is not among them. -/
def valueOf (parts : List TimePart) (values : List Int) (part : TimePart) : Int :=
  ((parts.zip values).lookup part).getD 0

/-- The start of the bucket whose parts have the given values, in the order of the
granularity's parts.  A granularity without parts has its origin for any values. -/
def start (bucketing : Bucketing) (values : List Int) : Except Error Instant := do
  let granularity := bucketing.granularity
  let parts := granularity.timeParts
  if parts.isEmpty then return bucketing.origin
  if values.length ≠ parts.length then
    throw (.execution (.timePartCount parts.length granularity values.length))
  let part := valueOf parts values
  match ← firstDate? granularity part with
  | none => throw (.execution (.noSuchDate values))
  | some date =>
      let (hour, minute) ← firstMinute granularity part
      if hour < 24 && minute < 60 then return Instant.atMinute date hour minute
      else throw (.execution (.noSuchTime hour minute))

end Bucketing

end Rollup
