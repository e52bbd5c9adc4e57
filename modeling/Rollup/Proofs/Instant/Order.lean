import Rollup.Proofs.Instant.DateTime
import Rollup.Proofs.Plan.Interval
import Rollup.Proofs.Text.Order
import Rollup.Proofs.Time.Order

/-!
# The order of written instants

An instant in whole seconds is written as six numbers, from the year to the second, each in a width
of its own and each a count inside the one before it.  So instants are in the order of their texts,
as long as their years take four digits, and a leap second stands behind the last second of its
minute in both.
-/

namespace Rollup

open Calendar Text

namespace Calendar.Date

theorem dayOfMonth_pos (date : Date) : 1 ≤ date.dayOfMonth := by
  obtain ⟨_, _, _, _, _, _, named, _⟩ := date.exists_monthDay
  omega

variable {date later : Date}

/-- In a month, dates are in the order of their days. -/
theorem dayOfMonth_lt_iff (year : date.year = later.year) (month : date.month = later.month) :
    date.dayOfMonth < later.dayOfMonth ↔ date.day < later.day := by
  have number := date.day_eq
  have laterNumber := later.day_eq
  have positive := date.dayOfMonth_pos
  have laterPositive := later.dayOfMonth_pos
  rw [year, month] at number
  omega

/-- Dates are in the order of their years, months and days. -/
theorem day_lt_iff :
    date.day < later.day ↔
      date.year < later.year ∨ date.year = later.year ∧
        (date.month < later.month ∨ date.month = later.month ∧
          date.dayOfMonth < later.dayOfMonth) := by
  constructor
  · intro ordered
    refine (year_le ordered.le).lt_or_eq.imp_right fun year => ⟨year, ?_⟩
    refine (month_le_of_year_eq ordered.le year).lt_or_eq.imp_right fun month => ⟨month, ?_⟩
    exact (dayOfMonth_lt_iff year month).mpr ordered
  · rintro (year | ⟨year, month | ⟨month, day⟩⟩)
    · by_contra back
      exact absurd (year_le (Int.not_lt.mp back)) (Int.not_le.mpr year)
    · by_contra back
      exact absurd (month_le_of_year_eq (Int.not_lt.mp back) year.symm) (Nat.not_le.mpr month)
    · exact (dayOfMonth_lt_iff year month).mp day

theorem day_eq_iff :
    date.day = later.day ↔ date.year = later.year ∧ date.month = later.month ∧
      date.dayOfMonth = later.dayOfMonth := by
  constructor
  · intro same
    obtain rfl : date = later := congrArg Date.mk same
    exact ⟨rfl, rfl, rfl⟩
  · rintro ⟨year, month, day⟩
    have number := date.day_eq
    rwa [year, month, day, ← later.day_eq] at number

end Calendar.Date

namespace Instant

variable {first second : Instant}

/-- Seconds are in the order of their days and their places in the day. -/
theorem second_lt_iff :
    first.second < second.second ↔ first.date.day < second.date.day ∨
      first.date.day = second.date.day ∧ first.secondOfDay < second.secondOfDay := by
  simp only [date, secondOfDay]
  omega

theorem second_eq_iff :
    first.second = second.second ↔
      first.date.day = second.date.day ∧ first.secondOfDay = second.secondOfDay := by
  simp only [date, secondOfDay]
  omega

/-- Minutes of a day are in the order of their hours and their places in the hour. -/
theorem minuteOfDay_lt_iff :
    first.secondOfDay / 60 < second.secondOfDay / 60 ↔
      first.hour < second.hour ∨ first.hour = second.hour ∧ first.minute < second.minute := by
  rw [hour, hour, minute, minute]
  omega

theorem minuteOfDay_eq_iff :
    first.secondOfDay / 60 = second.secondOfDay / 60 ↔
      first.hour = second.hour ∧ first.minute = second.minute := by
  rw [hour, hour, minute, minute]
  omega

/-- The seconds of a day are in the order of their minutes and their places in the minute, a leap
second behind the last. -/
theorem secondOfDay_lt_iff :
    first.secondOfDay < second.secondOfDay ∨ first.secondOfDay = second.secondOfDay ∧
        first.nanosecond / 1000000000 < second.nanosecond / 1000000000 ↔
      first.secondOfDay / 60 < second.secondOfDay / 60 ∨
        first.secondOfDay / 60 = second.secondOfDay / 60 ∧
          first.secondOfMinute < second.secondOfMinute := by
  rcases first.secondOfMinute_eq with ⟨plain, place⟩ | ⟨leap, bounded, last, place⟩ <;>
    rcases second.secondOfMinute_eq with
      ⟨otherPlain, otherPlace⟩ | ⟨otherLeap, otherBounded, otherLast, otherPlace⟩ <;>
    rw [place, otherPlace] <;>
    omega

@[simp]
theorem second_wholeSecond (instant : Instant) : instant.wholeSecond.second = instant.second := by
  rw [wholeSecond]

@[simp]
theorem nanosecond_wholeSecond (instant : Instant) :
    instant.wholeSecond.nanosecond = instant.nanosecond / 1000000000 * 1000000000 :=
  Nat.zero_add _

/-- Whole seconds are in the order of their dates and their times of day. -/
theorem isBefore_wholeSecond_iff :
    first.wholeSecond.isBefore second.wholeSecond = true ↔
      first.date.day < second.date.day ∨ first.date.day = second.date.day ∧
        (first.hour < second.hour ∨ first.hour = second.hour ∧
          (first.minute < second.minute ∨ first.minute = second.minute ∧
            first.secondOfMinute < second.secondOfMinute)) := by
  have leap : first.nanosecond / 1000000000 * 1000000000 <
      second.nanosecond / 1000000000 * 1000000000 ↔
        first.nanosecond / 1000000000 < second.nanosecond / 1000000000 := by omega
  calc
    _ ↔ first.second < second.second ∨ first.second = second.second ∧
          first.nanosecond / 1000000000 < second.nanosecond / 1000000000 := by
        rw [isBefore_eq_true_iff, second_wholeSecond, second_wholeSecond, nanosecond_wholeSecond,
          nanosecond_wholeSecond, leap]
    _ ↔ first.date.day < second.date.day ∨ first.date.day = second.date.day ∧
          (first.secondOfDay < second.secondOfDay ∨ first.secondOfDay = second.secondOfDay ∧
            first.nanosecond / 1000000000 < second.nanosecond / 1000000000) := by
        rw [second_lt_iff, second_eq_iff, or_assoc, and_assoc, ← and_or_left]
    _ ↔ _ := by
        rw [secondOfDay_lt_iff, minuteOfDay_lt_iff, minuteOfDay_eq_iff, or_assoc, and_assoc,
          ← and_or_left]

theorem toList_secondText (written : 0 ≤ first.date.year ∧ first.date.year ≤ 9999) :
    first.secondText.toList = paddedDigits 4 first.date.year.toNat ++
      ('-' :: (paddedDigits 2 first.date.month ++
        ('-' :: (paddedDigits 2 first.date.dayOfMonth ++
          (' ' :: (paddedDigits 2 first.hour ++ (':' :: (paddedDigits 2 first.minute ++
            (':' :: (paddedDigits 2 first.secondOfMinute ++ [])))))))))) := by
  rw [secondText, String.toList_ofList, Date.text, yearText, if_pos written]
  simp only [clockText, List.append_assoc, List.cons_append, List.append_nil]

theorem isAscii_secondText (written : 0 ≤ first.date.year ∧ first.date.year ≤ 9999) :
    IsAscii first.secondText.toList := by
  rw [toList_secondText written]
  simp only [IsAscii, List.forall_mem_append, List.forall_mem_cons]
  have number (width n : Nat) : ∀ c ∈ paddedDigits width n, c.toNat < 128 :=
    isAscii_paddedDigits width n
  exact ⟨number _ _, by decide, number _ _, by decide, number _ _, by decide, number _ _,
    by decide, number _ _, by decide, number _ _, nofun⟩

/-- Texts in whole seconds are in the order of the seconds. -/
theorem secondText_lt_iff (written : 0 ≤ first.date.year ∧ first.date.year ≤ 9999)
    (otherWritten : 0 ≤ second.date.year ∧ second.date.year ≤ 9999) :
    bytes first.secondText < bytes second.secondText ↔
      first.wholeSecond.isBefore second.wholeSecond = true := by
  have year : first.date.year.toNat < second.date.year.toNat ↔
      first.date.year < second.date.year := by omega
  have sameYear : first.date.year.toNat = second.date.year.toNat ↔
      first.date.year = second.date.year := by omega
  have two {n : Nat} (fits : n < 100) : n < 10 ^ 2 := fits
  have month := two (Nat.lt_trans first.date.month_lt (by decide))
  have otherMonth := two (Nat.lt_trans second.date.month_lt (by decide))
  have day := two (Nat.lt_trans first.date.dayOfMonth_lt (by decide))
  have otherDay := two (Nat.lt_trans second.date.dayOfMonth_lt (by decide))
  have hour := two (Nat.lt_trans first.hour_lt (by decide))
  have otherHour := two (Nat.lt_trans second.hour_lt (by decide))
  have minute := two (Nat.lt_trans first.minute_lt (by decide))
  have otherMinute := two (Nat.lt_trans second.minute_lt (by decide))
  have place := two (Nat.lt_of_le_of_lt first.secondOfMinute_le (by decide))
  have otherPlace := two (Nat.lt_of_le_of_lt second.secondOfMinute_le (by decide))
  rw [← String.ofList_toList (s := first.secondText), ← String.ofList_toList (s := second.secondText),
    bytes_lt_bytes_iff (isAscii_secondText written) (isAscii_secondText otherWritten),
    toList_secondText written, toList_secondText otherWritten,
    paddedDigits_append_lt_iff (by decide) (by omega) (by omega), List.cons_lt_cons_self,
    paddedDigits_append_lt_iff (by decide) month otherMonth, List.cons_lt_cons_self,
    paddedDigits_append_lt_iff (by decide) day otherDay, List.cons_lt_cons_self,
    paddedDigits_append_lt_iff (by decide) hour otherHour, List.cons_lt_cons_self,
    paddedDigits_append_lt_iff (by decide) minute otherMinute, List.cons_lt_cons_self,
    paddedDigits_append_lt_iff (by decide) place otherPlace, year, sameYear,
    isBefore_wholeSecond_iff, @Date.day_lt_iff first.date second.date,
    @Date.day_eq_iff first.date second.date]
  simp only [List.not_lt_nil, and_false, or_false, or_assoc, and_assoc, and_or_left]

end Instant

end Rollup
