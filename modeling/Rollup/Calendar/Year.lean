/-!
# Years

Years of the Gregorian calendar, extended in both directions without a gap: year
0 comes before year 1, and before it are negative years.  Days are numbered from
the first of January of year 1, which is day 0 and a Monday.

Main statement: every day lies in the year computed for it
(`firstDay_year_le`, `lt_firstDay_year_succ`).
-/

namespace Rollup.Calendar

/-- Whether a year has 366 days. -/
def isLeap (year : Int) : Bool :=
  year % 4 == 0 && (year % 100 != 0 || year % 400 == 0)

/-- The number of days of a year. -/
def yearLength (year : Int) : Nat :=
  if isLeap year then 366 else 365

/-- The number of the first day of a year. -/
def firstDay (year : Int) : Int :=
  let before := year - 1
  365 * before + before / 4 - before / 100 + before / 400

/-- The year that a day lies in.  Four hundred years have 146097 days; of their
four centuries the last is a day longer, and so is every fourth year of a
century but, mostly, the last. -/
def yearOfDay (day : Int) : Int :=
  let rest := day % 146097
  let century := min 3 (rest / 36524)
  let rest := rest - 36524 * century
  let cycle := rest / 1461
  let rest := rest - 1461 * cycle
  let year := min 3 (rest / 365)
  400 * (day / 146097) + 100 * century + 4 * cycle + year + 1

theorem firstDay_succ (year : Int) :
    firstDay (year + 1) = firstDay year + yearLength year := by
  simp only [firstDay, yearLength, isLeap, Bool.and_eq_true, Bool.or_eq_true, beq_iff_eq,
    bne_iff_ne]
  split <;> omega

/-- The days before a year counted by its place in the cycle of four hundred
years: the century, the group of four years in it, and the year of that group. -/
theorem firstDay_parts {century cycle year : Int} (era : Int)
    (centuryBound : 0 ≤ century ∧ century ≤ 3) (cycleBound : 0 ≤ cycle ∧ cycle ≤ 24)
    (yearBound : 0 ≤ year ∧ year ≤ 3) :
    firstDay (400 * era + 100 * century + 4 * cycle + year + 1) =
      146097 * era + 36524 * century + 1461 * cycle + 365 * year := by
  have quarters : (400 * era + 100 * century + 4 * cycle + year) / 4 =
      100 * era + 25 * century + cycle := by omega
  have hundreds : (400 * era + 100 * century + 4 * cycle + year) / 100 =
      4 * era + century := by omega
  have fourHundreds : (400 * era + 100 * century + 4 * cycle + year) / 400 = era := by omega
  simp only [firstDay, Int.add_sub_cancel, quarters, hundreds, fourHundreds]
  omega

/-- The leap years by their place in the cycle of four hundred years. -/
theorem yearLength_parts {century cycle year : Int} (era : Int)
    (centuryBound : 0 ≤ century ∧ century ≤ 3) (cycleBound : 0 ≤ cycle ∧ cycle ≤ 24)
    (yearBound : 0 ≤ year ∧ year ≤ 3) :
    yearLength (400 * era + 100 * century + 4 * cycle + year + 1) =
      if year = 3 ∧ (cycle ≠ 24 ∨ century = 3) then 366 else 365 := by
  have quarters : (400 * era + 100 * century + 4 * cycle + year + 1) % 4 = 0 ↔ year = 3 := by
    omega
  have hundreds : (400 * era + 100 * century + 4 * cycle + year + 1) % 100 = 0 ↔
      cycle = 24 ∧ year = 3 := by omega
  have fourHundreds : (400 * era + 100 * century + 4 * cycle + year + 1) % 400 = 0 ↔
      century = 3 ∧ cycle = 24 ∧ year = 3 := by omega
  simp only [yearLength, isLeap, Bool.and_eq_true, Bool.or_eq_true, beq_iff_eq, bne_iff_ne,
    Ne, quarters, hundreds, fourHundreds]
  by_cases last : year = 3 <;> by_cases fourth : cycle = 24 <;> simp [last, fourth]

theorem firstDay_year_le (day : Int) : firstDay (yearOfDay day) ≤ day := by
  unfold yearOfDay
  rw [firstDay_parts] <;> omega

theorem lt_firstDay_year_succ (day : Int) : day < firstDay (yearOfDay day + 1) := by
  rw [firstDay_succ]
  unfold yearOfDay
  rw [firstDay_parts, yearLength_parts] <;> try omega
  split <;> omega

end Rollup.Calendar
