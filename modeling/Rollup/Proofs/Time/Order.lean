import Rollup.Proofs.Time.Bucketing

/-!
# The order of buckets

The parts of a granularity are listed from the coarsest to the finest, and each is a count inside
the one before it.  So they never go back as time goes on, in lexicographic order, not even across
the end of a year or of a week-numbering year; and the start of a bucket with greater parts is
later.
-/

namespace Rollup

/-- Lists are not out of order if their heads are in order and, where these are the same, the rest
is not. -/
theorem not_cons_lt_cons {first later : Int} {rest others : List Int} (ordered : first ≤ later)
    (behind : later = first → ¬ others < rest) : ¬ later :: others < first :: rest := by
  rw [List.cons_lt_cons_iff, not_or, not_and]
  exact ⟨Int.not_lt.mpr ordered, behind⟩

namespace Calendar

theorem yearOfDay_le {day later : Int} (ordered : day ≤ later) :
    yearOfDay day ≤ yearOfDay later := by
  by_contra back
  have starts := firstDay_year_le day
  have ends := lt_firstDay_year_succ later
  have between := firstDay_le (show yearOfDay later + 1 ≤ yearOfDay day by omega)
  omega

theorem le_monthAndDay (lengths : List Nat) (first days : Nat) :
    first ≤ (monthAndDay lengths first days).1 := by
  induction lengths generalizing first days with
  | nil => exact Nat.le_refl first
  | cons length rest inductionHypothesis =>
      rw [monthAndDay]
      split
      · exact Nat.le_refl first
      · exact Nat.le_of_succ_le (inductionHypothesis (first + 1) (days - length))

theorem monthAndDay_le (lengths : List Nat) (first : Nat) {days later : Nat}
    (ordered : days ≤ later) :
    (monthAndDay lengths first days).1 ≤ (monthAndDay lengths first later).1 := by
  induction lengths generalizing first days later with
  | nil => exact Nat.le_refl first
  | cons length rest inductionHypothesis =>
      by_cases here : days < length
      · rw [monthAndDay, if_pos here]
        exact le_monthAndDay (length :: rest) first later
      · rw [monthAndDay, monthAndDay, if_neg here, if_neg (by omega)]
        exact inductionHypothesis (first + 1) (Nat.sub_le_sub_right ordered length)

namespace Date

variable {date later : Date} (ordered : date.day ≤ later.day)
include ordered

theorem year_le : date.year ≤ later.year :=
  yearOfDay_le ordered

theorem dayOfYear_le_of_year_eq (same : date.year = later.year) :
    date.dayOfYear ≤ later.dayOfYear := by
  rw [dayOfYear, dayOfYear, same]
  omega

theorem month_le_of_year_eq (same : date.year = later.year) : date.month ≤ later.month := by
  rw [month, month, monthDay, monthDay, same]
  exact monthAndDay_le _ 1 (Nat.sub_le_sub_right (dayOfYear_le_of_year_eq ordered same) 1)

theorem quarter_le_of_year_eq (same : date.year = later.year) :
    date.quarter ≤ later.quarter := by
  have months := month_le_of_year_eq ordered same
  rw [quarter, quarter]
  omega

theorem isoYear_le : date.isoYear ≤ later.isoYear :=
  yearOfDay_le (by omega)

theorem isoWeek_le_of_isoYear_eq (same : date.isoYear = later.isoYear) :
    date.isoWeek ≤ later.isoWeek := by
  rw [isoWeek, isoWeek, same]
  omega

end Date

end Calendar

namespace Instant

open Calendar

variable {instant later : Instant} (ordered : instant.second ≤ later.second)
include ordered

theorem day_le : instant.date.day ≤ later.date.day := by
  simp only [date]
  omega

theorem hour_le_of_date_eq (same : instant.date = later.date) : instant.hour ≤ later.hour := by
  simp only [date, Date.mk.injEq] at same
  rw [hour, hour, secondOfDay, secondOfDay]
  omega

theorem minute_le_of_hour_eq (same : instant.date = later.date)
    (sameHour : instant.hour = later.hour) : instant.minute ≤ later.minute := by
  simp only [date, Date.mk.injEq] at same
  rw [hour, hour, secondOfDay, secondOfDay] at sameHour
  rw [minute, minute, secondOfDay, secondOfDay]
  omega

/-- The parts of an instant are no less than those of an earlier one, each being compared where
all the coarser ones are the same. -/
theorem not_parts_lt (granularity : Granularity) :
    ¬ later.parts granularity < instant.parts granularity := by
  have day := day_le ordered
  have year := Date.year_le day
  have place (same : later.date.year = instant.date.year) :
      (instant.date.dayOfYear : Int) ≤ later.date.dayOfYear :=
    Int.ofNat_le.mpr (Date.dayOfYear_le_of_year_eq day same.symm)
  have sameDate (same : later.date.year = instant.date.year)
      (samePlace : (later.date.dayOfYear : Int) = instant.date.dayOfYear) :
      instant.date = later.date :=
    Date.eq_of_dayOfYear_eq same.symm (Int.natCast_inj.mp samePlace).symm
  cases granularity with
  | all | none => exact List.not_lt_nil []
  | minute =>
      refine not_cons_lt_cons year fun same => not_cons_lt_cons (place same) fun samePlace => ?_
      have date := sameDate same samePlace
      refine not_cons_lt_cons (Int.ofNat_le.mpr (hour_le_of_date_eq ordered date))
        fun sameHour => not_cons_lt_cons (Int.ofNat_le.mpr ?_) fun _ => List.not_lt_nil []
      exact minute_le_of_hour_eq ordered date (Int.natCast_inj.mp sameHour).symm
  | hour =>
      refine not_cons_lt_cons year fun same => not_cons_lt_cons (place same) fun samePlace => ?_
      have date := sameDate same samePlace
      exact not_cons_lt_cons (Int.ofNat_le.mpr (hour_le_of_date_eq ordered date))
        fun _ => List.not_lt_nil []
  | day =>
      exact not_cons_lt_cons year fun same =>
        not_cons_lt_cons (place same) fun _ => List.not_lt_nil []
  | week =>
      refine not_cons_lt_cons (Date.isoYear_le day) fun same => ?_
      exact not_cons_lt_cons (Int.ofNat_le.mpr (Date.isoWeek_le_of_isoYear_eq day same.symm))
        fun _ => List.not_lt_nil []
  | month =>
      refine not_cons_lt_cons year fun same => ?_
      exact not_cons_lt_cons (Int.ofNat_le.mpr (Date.month_le_of_year_eq day same.symm))
        fun _ => List.not_lt_nil []
  | quarter =>
      refine not_cons_lt_cons year fun same => ?_
      exact not_cons_lt_cons (Int.ofNat_le.mpr (Date.quarter_le_of_year_eq day same.symm))
        fun _ => List.not_lt_nil []
  | year => exact not_cons_lt_cons year fun _ => List.not_lt_nil []

end Instant

/-- A bucket with greater parts starts later. -/
theorem Bucketing.isBefore_of_lt {bucketing : Bucketing}
    (timed : bucketing.granularity.timeParts ≠ []) {values others : List Int}
    {start later : Instant} (started : bucketing.start values = .ok start)
    (startedLater : bucketing.start others = .ok later) (ordered : values < others) :
    start.isBefore later = true := by
  obtain ⟨rfl, _⟩ := (start_eq_ok_iff timed).mp started
  obtain ⟨rfl, _⟩ := (start_eq_ok_iff timed).mp startedLater
  have forth : start.second < later.second := by
    by_contra back
    exact Instant.not_parts_lt (Int.not_lt.mp back) bucketing.granularity ordered
  rw [Instant.isBefore, decide_eq_true forth, Bool.true_or]

end Rollup
