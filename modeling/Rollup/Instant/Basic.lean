import Rollup.Calendar.Date

/-!
# Instants

An instant is a count of seconds since the start of 1970 in universal time and a
fraction of a second in nanoseconds.  A leap second is kept inside the last second
of its minute, with a fraction of one second or more.
-/

namespace Rollup

open Calendar

/-- Whether a fraction in nanoseconds may stand in a second: less than a second,
or less than two in the last second of a minute. -/
def Instant.IsFraction (second : Int) (nanosecond : Nat) : Prop :=
  nanosecond < 1000000000 ∨ (second % 60 = 59 ∧ nanosecond < 2000000000)

instance (second : Int) (nanosecond : Nat) : Decidable (Instant.IsFraction second nanosecond) :=
  inferInstanceAs (Decidable (_ ∨ _))

/-- A point in time. -/
structure Instant where
  second : Int
  nanosecond : Nat
  fraction : Instant.IsFraction second nanosecond
  deriving DecidableEq

namespace Instant

/-- The number of the day that starts the count of seconds, the first of January
of 1970. -/
def epochDay : Int := 719162

/-- The instant that starts a second. -/
def ofSecond (second : Int) : Instant :=
  ⟨second, 0, .inl (by decide)⟩

/-- The start of 1970. -/
def epoch : Instant :=
  ofSecond 0

instance : Inhabited Instant := ⟨epoch⟩

/-- Whether one instant is earlier than another. -/
def isBefore (first second : Instant) : Bool :=
  decide (first.second < second.second) ||
    (first.second == second.second && decide (first.nanosecond < second.nanosecond))

/-- The earlier of two instants, the first when they are the same. -/
def earlier (first second : Instant) : Instant :=
  if second.isBefore first then second else first

/-! ## Date and time of day -/

/-- The date of an instant. -/
def date (instant : Instant) : Date :=
  ⟨instant.second / 86400 + epochDay⟩

/-- The seconds from midnight to an instant. -/
def secondOfDay (instant : Instant) : Nat :=
  (instant.second % 86400).toNat

/-- The hour of an instant. -/
def hour (instant : Instant) : Nat :=
  instant.secondOfDay / 3600

/-- The minute of an instant in its hour. -/
def minute (instant : Instant) : Nat :=
  instant.secondOfDay / 60 % 60

/-- The second of an instant in its minute, 60 in a leap second. -/
def secondOfMinute (instant : Instant) : Nat :=
  instant.secondOfDay % 60 + instant.nanosecond / 1000000000

/-- The fraction of an instant in its second or leap second, in nanoseconds. -/
def subsecond (instant : Instant) : Nat :=
  instant.nanosecond % 1000000000

/-- The seconds from the epoch to a time of a date. -/
def secondAt (date : Date) (hour minute second : Nat) : Int :=
  (date.day - epochDay) * 86400 + hour * 3600 + minute * 60 + second

/-- The start of a minute of a date. -/
def atMinute (date : Date) (hour minute : Nat) : Instant :=
  ofSecond (secondAt date hour minute 0)

/-- The midnight that starts a date. -/
def atMidnight (date : Date) : Instant :=
  atMinute date 0 0

/-- The instant of a clock reading, an offset from universal time in minutes being
taken off.  Second 60 of any minute is a leap second.  There is none when the
clock has no such reading or the calendar no such day. -/
def ofClock? (date : Date) (hour minute second nanosecond : Nat) (offsetMinutes : Int) :
    Option Instant :=
  if hour < 24 && minute < 60 && second ≤ 60 then
    let leap := if second = 60 then 1 else 0
    let start := secondAt date hour minute (second - leap) - 60 * offsetMinutes
    let fraction := nanosecond + leap * 1000000000
    if valid : IsFraction start fraction then
      let instant : Instant := ⟨start, fraction, valid⟩
      if spansYear instant.date.year then some instant else none
    else none
  else none

end Instant

end Rollup
