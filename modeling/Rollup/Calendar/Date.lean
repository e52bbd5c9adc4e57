import Rollup.Calendar.Year

/-!
# Dates

A date is the number of a day.  Its year, month and ISO-8601 week are read off
that number, and dates are built back from each of these forms.  The calendar
spans the years from -262143 to 262142; a date outside them cannot be built.
-/

namespace Rollup.Calendar

/-- A day, by the number of days since the first of January of year 1. -/
structure Date where
  day : Int
  deriving DecidableEq

/-- Whether the calendar has a year. -/
def spansYear (year : Int) : Bool :=
  -262143 ≤ year && year ≤ 262142

/-- The lengths of the months of a year, in order. -/
def monthLengths (leap : Bool) : List Nat :=
  [31, if leap then 29 else 28, 31, 30, 31, 30, 31, 31, 30, 31, 30, 31]

/-- The number of days of a year before one of its months. -/
def daysBeforeMonth (leap : Bool) (month : Nat) : Nat :=
  ((monthLengths leap).take (month - 1)).foldl Nat.add 0

/-- The month and the day in it of the day that lies `days` after the start of
the first of the months given, which has the number `month`. -/
def monthAndDay : List Nat → Nat → Nat → Nat × Nat
  | [], month, days => (month, days + 1)
  | length :: rest, month, days =>
      if days < length then (month, days + 1) else monthAndDay rest (month + 1) (days - length)

/-- The first Monday of a week-numbering year: the Monday of the week that holds
the fourth of January. -/
def firstMonday (isoYear : Int) : Int :=
  let fourth := firstDay isoYear + 3
  fourth - fourth % 7

namespace Date

/-! ## Parts of a date -/

/-- The year of a date. -/
def year (date : Date) : Int :=
  yearOfDay date.day

/-- The place of a date in its year, from 1. -/
def dayOfYear (date : Date) : Nat :=
  (date.day - firstDay date.year).toNat + 1

/-- The month of a date and the day in that month, both from 1. -/
def monthDay (date : Date) : Nat × Nat :=
  monthAndDay (monthLengths (isLeap date.year)) 1 (date.dayOfYear - 1)

/-- The month of a date, from 1. -/
def month (date : Date) : Nat :=
  date.monthDay.1

/-- The day of a date in its month, from 1. -/
def dayOfMonth (date : Date) : Nat :=
  date.monthDay.2

/-- The quarter of a date, from 1. -/
def quarter (date : Date) : Nat :=
  (date.month - 1) / 3 + 1

/-- The week-numbering year of a date: the year of the Thursday of its week. -/
def isoYear (date : Date) : Int :=
  yearOfDay (date.day - date.day % 7 + 3)

/-- The week of a date in its week-numbering year, from 1. -/
def isoWeek (date : Date) : Nat :=
  ((date.day - firstMonday date.isoYear) / 7).toNat + 1

/-! ## Dates from their parts -/

/-- The date of a day number, if its year is in the calendar. -/
def ofDay? (day : Int) : Option Date :=
  if spansYear (yearOfDay day) then some ⟨day⟩ else none

/-- The date at a place of a year. -/
def ofYearDay? (year : Int) (dayOfYear : Nat) : Option Date :=
  if 1 ≤ dayOfYear && dayOfYear ≤ yearLength year then
    ofDay? (firstDay year + (dayOfYear - 1))
  else none

/-- The date of a year, a month and a day in the month. -/
def ofYearMonthDay? (year : Int) (month dayOfMonth : Nat) : Option Date :=
  let lengths := monthLengths (isLeap year)
  match lengths[month - 1]? with
  | some length =>
      if 1 ≤ month && 1 ≤ dayOfMonth && dayOfMonth ≤ length then
        ofDay? (firstDay year + daysBeforeMonth (isLeap year) month + (dayOfMonth - 1))
      else none
  | none => none

/-- The Monday of a week of a week-numbering year. -/
def ofIsoWeek? (isoYear : Int) (week : Nat) : Option Date :=
  let day := firstMonday isoYear + 7 * ((week : Int) - 1)
  if 1 ≤ week && decide (day < firstMonday (isoYear + 1)) then ofDay? day else none

end Date

end Rollup.Calendar
