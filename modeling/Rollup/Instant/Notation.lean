import Rollup.Instant.Basic
import Rollup.Text.Digits

/-!
# Written instants

The texts of an instant in universal time: with milliseconds, as responses report
it; in whole seconds, as statements compare with it; and with as much of its
fraction as it needs, as intervals show it.
-/

namespace Rollup

open Calendar

/-- A year in four digits, or with a sign when it lies outside 0 to 9999. -/
def Calendar.yearText (year : Int) : List Char :=
  if 0 ≤ year ∧ year ≤ 9999 then Text.paddedDigits 4 year.toNat
  else (if year < 0 then '-' else '+') :: Text.paddedDigits 4 year.natAbs

/-- Year, month and day, joined by hyphens. -/
def Calendar.Date.text (date : Date) : List Char :=
  yearText date.year ++ '-' :: Text.paddedDigits 2 date.month ++
    '-' :: Text.paddedDigits 2 date.dayOfMonth

namespace Instant

/-- Hour, minute and second, joined by colons. -/
def clockText (instant : Instant) : List Char :=
  Text.paddedDigits 2 instant.hour ++ ':' :: Text.paddedDigits 2 instant.minute ++
    ':' :: Text.paddedDigits 2 instant.secondOfMinute

/-- The fraction of a second in the fewest digits among none, three, six and nine
that lose nothing. -/
def fractionText (subsecond : Nat) : List Char :=
  if subsecond = 0 then []
  else if subsecond % 1000000 = 0 then '.' :: Text.paddedDigits 3 (subsecond / 1000000)
  else if subsecond % 1000 = 0 then '.' :: Text.paddedDigits 6 (subsecond / 1000)
  else '.' :: Text.paddedDigits 9 subsecond

/-- An instant cut to the millisecond: `2024-01-01T00:00:00.000Z`. -/
def millisecondText (instant : Instant) : String :=
  String.ofList (instant.date.text ++ 'T' :: instant.clockText ++
    '.' :: Text.paddedDigits 3 (instant.subsecond / 1000000) ++ ['Z'])

/-- An instant cut to the second: `2024-01-01 00:00:00`. -/
def secondText (instant : Instant) : String :=
  String.ofList (instant.date.text ++ ' ' :: instant.clockText)

/-- An instant in full: `2024-01-01T00:00:00.500+00:00`. -/
def fullText (instant : Instant) : String :=
  String.ofList (instant.date.text ++ 'T' :: instant.clockText ++
    fractionText instant.subsecond ++ ['+', '0', '0', ':', '0', '0'])

end Instant

end Rollup
