import Mathlib.Algebra.Ring.Nat
import Rollup.Calendar.Date

/-!
# Dates and their parts

A date lies in a month of its year, on a day of that month, and is the date of those three
parts.  Of every form that a date can be built from, the dates that are built are exactly
those of the calendar that have the given parts.
-/

namespace Rollup.Calendar

/-! ## Years -/

theorem firstDay_le {year later : Int} (ordered : year ≤ later) :
    firstDay year ≤ firstDay later := by
  simp only [firstDay]
  omega

/-- A day lies in the one year that has started and not ended. -/
theorem yearOfDay_eq_iff {day year : Int} :
    yearOfDay day = year ↔ firstDay year ≤ day ∧ day < firstDay (year + 1) := by
  constructor
  · rintro rfl
    exact ⟨firstDay_year_le day, lt_firstDay_year_succ day⟩
  · rintro ⟨started, ended⟩
    have ownStarted := firstDay_year_le day
    have ownEnded := lt_firstDay_year_succ day
    by_contra different
    rcases Int.lt_or_gt_of_ne different with before | after
    · have := firstDay_le (show yearOfDay day + 1 ≤ year from before)
      omega
    · have := firstDay_le (show year + 1 ≤ yearOfDay day from after)
      omega

theorem spansYear_bounds {year : Int} (spanned : spansYear year = true) :
    -262143 ≤ year ∧ year ≤ 262142 := by
  simpa only [spansYear, Bool.and_eq_true, decide_eq_true_eq] using spanned

theorem yearLength_bounds (year : Int) : 365 ≤ yearLength year ∧ yearLength year ≤ 366 := by
  rw [yearLength]
  split <;> omega

/-! ## Months -/

/-- A day before the end of some months lies in one of them, after the days of those
before it. -/
theorem exists_month (lengths : List Nat) (first days : Nat) (inside : days < lengths.sum) :
    ∃ (position length day : Nat), lengths[position]? = some length ∧ day < length ∧
      monthAndDay lengths first days = (first + position, day + 1) ∧
      days = (lengths.take position).sum + day := by
  induction lengths generalizing first days with
  | nil => exact absurd inside (Nat.not_lt_zero _)
  | cons length rest inductionHypothesis =>
      rw [List.sum_cons] at inside
      rw [monthAndDay]
      split
      next here => exact ⟨0, length, days, rfl, here, rfl, (Nat.zero_add days).symm⟩
      next later =>
        obtain ⟨position, found, day, listed, bounded, parts, before⟩ :=
          inductionHypothesis (first + 1) (days - length) (by omega)
        refine ⟨position + 1, found, day, listed, bounded, ?_, ?_⟩
        · rw [parts, Nat.add_assoc, Nat.add_comm 1 position]
        · rw [List.take_succ_cons, List.sum_cons]
          omega

/-- The days of a month come after those of the months before it. -/
theorem monthAndDay_of_listed {lengths : List Nat} {position length day : Nat} (first : Nat)
    (listed : lengths[position]? = some length) (inside : day < length) :
    monthAndDay lengths first ((lengths.take position).sum + day) = (first + position, day + 1) := by
  induction lengths generalizing first position with
  | nil => cases listed
  | cons own rest inductionHypothesis =>
      cases position with
      | zero =>
          cases listed
          rw [List.take_zero, List.sum_nil, Nat.zero_add, monthAndDay, if_pos inside]
          rfl
      | succ position =>
          rw [List.take_succ_cons, List.sum_cons, monthAndDay, if_neg (by omega), Nat.add_assoc,
            Nat.add_sub_cancel_left, inductionHypothesis (first + 1) listed, Nat.add_assoc,
            Nat.add_comm 1 position]

/-- The days up to the end of a month are no more than those of the year. -/
theorem sum_take_add_le {lengths : List Nat} {position length : Nat}
    (listed : lengths[position]? = some length) :
    (lengths.take position).sum + length ≤ lengths.sum := by
  induction lengths generalizing position with
  | nil => cases listed
  | cons own rest inductionHypothesis =>
      cases position with
      | zero =>
          cases listed
          simp
      | succ position =>
          have later := inductionHypothesis listed
          rw [List.take_succ_cons, List.sum_cons, List.sum_cons]
          omega

theorem sum_monthLengths (leap : Bool) :
    (monthLengths leap).sum = if leap then 366 else 365 := by
  cases leap <;> rfl

theorem daysBeforeMonth_eq (leap : Bool) (month : Nat) :
    daysBeforeMonth leap month = ((monthLengths leap).take (month - 1)).sum :=
  List.sum_eq_foldl.symm

theorem daysBeforeMonth_succ (leap : Bool) (position : Nat) :
    daysBeforeMonth leap (position + 1) = ((monthLengths leap).take position).sum :=
  daysBeforeMonth_eq leap (position + 1)

/-- The months before a month have no more days than those before a later one. -/
theorem daysBeforeMonth_le (leap : Bool) {month later : Nat} (ordered : month ≤ later) :
    daysBeforeMonth leap month ≤ daysBeforeMonth leap later := by
  obtain ⟨between, same⟩ : ∃ between, later - 1 = month - 1 + between :=
    Nat.exists_eq_add_of_le (by omega)
  rw [daysBeforeMonth_eq, daysBeforeMonth_eq, same, List.take_add, List.sum_append]
  exact Nat.le_add_right _ _

namespace Date

/-! ## Parts of a date -/

/-- The days of a year before a date, of which there are less than the year has. -/
theorem dayOfYear_bounds (date : Date) :
    date.day = firstDay date.year + (date.dayOfYear - 1 : Nat) ∧
      date.dayOfYear - 1 < yearLength date.year := by
  have starts : firstDay date.year ≤ date.day := firstDay_year_le date.day
  have stops : date.day < firstDay (date.year + 1) := lt_firstDay_year_succ date.day
  rw [firstDay_succ] at stops
  rw [dayOfYear]
  omega

theorem dayOfYear_le (date : Date) : date.dayOfYear ≤ 366 := by
  have inside := date.dayOfYear_bounds.2
  have short := yearLength_bounds date.year
  omega

/-- The month and the day of a date by their places. -/
theorem exists_monthDay (date : Date) :
    ∃ (position length day : Nat), (monthLengths (isLeap date.year))[position]? = some length ∧
      day < length ∧ date.month = position + 1 ∧ date.dayOfMonth = day + 1 ∧
      date.dayOfYear - 1 = ((monthLengths (isLeap date.year)).take position).sum + day := by
  obtain ⟨position, length, day, listed, bounded, parts, before⟩ :=
    exists_month (monthLengths (isLeap date.year)) 1 (date.dayOfYear - 1)
      (by rw [sum_monthLengths]; exact date.dayOfYear_bounds.2)
  refine ⟨position, length, day, listed, bounded, ?_, ?_, before⟩
  · rw [month, monthDay, parts, Nat.add_comm]
  · rw [dayOfMonth, monthDay, parts]

theorem month_lt (date : Date) : date.month < 13 := by
  obtain ⟨position, _, _, listed, _, named, _, _⟩ := date.exists_monthDay
  have inside : position < 12 := (List.getElem?_eq_some_iff.mp listed).1
  omega

theorem dayOfMonth_lt (date : Date) : date.dayOfMonth < 32 := by
  obtain ⟨_, length, _, listed, bounded, _, named, _⟩ := date.exists_monthDay
  have short : ∀ length ∈ monthLengths (isLeap date.year), length ≤ 31 := by
    cases isLeap date.year <;> decide
  have := short length (List.mem_of_getElem? listed)
  omega

/-- A year has one date at each place. -/
theorem eq_of_dayOfYear_eq {date other : Date} (year : date.year = other.year)
    (place : date.dayOfYear = other.dayOfYear) : date = other := by
  have number := date.dayOfYear_bounds.1
  rw [year, place, ← other.dayOfYear_bounds.1] at number
  exact congrArg Date.mk number

/-- A day so many days after the start of a year is in that year, at that place. -/
theorem year_eq_and_dayOfYear_eq {date : Date} {year : Int} {days : Nat}
    (placed : date.day = firstDay year + days) (inside : days < yearLength year) :
    date.year = year ∧ date.dayOfYear = days + 1 := by
  have own : date.year = year := by
    rw [Date.year, yearOfDay_eq_iff, firstDay_succ, placed]
    omega
  refine ⟨own, ?_⟩
  rw [dayOfYear, own, placed]
  omega

/-- A day so many days after the months before a month of a year, and no more than that
month has, is in that month. -/
theorem year_eq_and_monthDay_eq {date : Date} {year : Int} {position length day : Nat}
    (listed : (monthLengths (isLeap year))[position]? = some length) (inside : day < length)
    (placed : date.day =
      firstDay year + (((monthLengths (isLeap year)).take position).sum + day : Nat)) :
    date.year = year ∧ date.month = position + 1 ∧ date.dayOfMonth = day + 1 := by
  have within := sum_take_add_le listed
  rw [sum_monthLengths, ← yearLength] at within
  obtain ⟨own, place⟩ := year_eq_and_dayOfYear_eq placed (by omega)
  have found := monthAndDay_of_listed 1 listed inside
  rw [month, dayOfMonth, monthDay, own, place, Nat.add_sub_cancel, found, Nat.add_comm]
  exact ⟨rfl, rfl, rfl⟩

/-- The days before a date are those of the years and months before it and of its own
month. -/
theorem day_eq (date : Date) :
    date.day = firstDay date.year + daysBeforeMonth (isLeap date.year) date.month +
      (date.dayOfMonth - 1 : Nat) := by
  obtain ⟨position, length, day, _, _, monthIs, dayIs, before⟩ := date.exists_monthDay
  rw [date.dayOfYear_bounds.1, before, monthIs, dayIs, daysBeforeMonth_succ]
  omega

/-- The first day of a month. -/
def firstOfMonth (year : Int) (month : Nat) : Date :=
  ⟨firstDay year + daysBeforeMonth (isLeap year) month⟩

/-- The first day of a month has the number 1 in it. -/
theorem firstOfMonth_parts (year : Int) {month : Nat} (positive : 1 ≤ month)
    (bounded : month ≤ 12) :
    (firstOfMonth year month).year = year ∧ (firstOfMonth year month).month = month ∧
      (firstOfMonth year month).dayOfMonth = 1 := by
  obtain ⟨position, rfl⟩ := Nat.exists_eq_add_of_le' positive
  obtain ⟨length, listed, long⟩ : ∃ length,
      (monthLengths (isLeap year))[position]? = some length ∧ 0 < length := by
    have inside : position < (monthLengths (isLeap year)).length := bounded
    refine ⟨_, List.getElem?_eq_getElem inside, ?_⟩
    have long : ∀ length ∈ monthLengths (isLeap year), 0 < length := by
      cases isLeap year <;> decide
    exact long _ (List.getElem_mem inside)
  refine year_eq_and_monthDay_eq listed long ?_
  rw [firstOfMonth, daysBeforeMonth_succ, Nat.add_zero]

/-- A date is the first of a month exactly when it has the number 1 in that month. -/
theorem firstOfMonth_eq_iff {date : Date} {month : Nat} (positive : 1 ≤ month)
    (bounded : month ≤ 12) :
    firstOfMonth date.year month = date ↔ date.month = month ∧ date.dayOfMonth = 1 := by
  constructor
  · intro same
    have parts := firstOfMonth_parts date.year positive bounded
    rw [same] at parts
    exact parts.2
  · rintro ⟨rfl, first⟩
    have number := date.day_eq
    rw [first, Nat.sub_self, Int.natCast_zero, Int.add_zero] at number
    rw [firstOfMonth, ← number]

theorem month_pos (date : Date) : 1 ≤ date.month := by
  obtain ⟨position, _, _, _, _, named, _, _⟩ := date.exists_monthDay
  omega

theorem quarter_bounds (date : Date) : 1 ≤ date.quarter ∧ date.quarter ≤ 4 := by
  have bounded := date.month_lt
  rw [quarter]
  omega

/-- The first month of a quarter is one of that quarter. -/
theorem quarter_firstOfMonth (year : Int) {quarter : Nat} (positive : 1 ≤ quarter)
    (bounded : quarter ≤ 4) :
    (firstOfMonth year ((quarter - 1) * 3 + 1)).quarter = quarter := by
  have parts := firstOfMonth_parts year (show 1 ≤ (quarter - 1) * 3 + 1 by omega) (by omega)
  rw [Date.quarter, parts.2.1]
  omega

/-- The first of a month that has begun does not come after a date. -/
theorem day_firstOfMonth_le {date : Date} {month : Nat} (begun : month ≤ date.month) :
    (firstOfMonth date.year month).day ≤ date.day := by
  have before := daysBeforeMonth_le (isLeap date.year) begun
  have number := date.day_eq
  simp only [firstOfMonth]
  omega

/-! ## Dates from their parts -/

theorem ofDay?_eq_some_iff {day : Int} {date : Date} :
    ofDay? day = some date ↔ date.day = day ∧ spansYear date.year = true := by
  unfold ofDay?
  constructor
  · intro built
    split at built
    · next spanned =>
        cases built
        exact ⟨rfl, spanned⟩
    · cases built
  · rintro ⟨rfl, spanned⟩
    exact if_pos spanned

/-- A year and a place in it give the date of the calendar that has them. -/
theorem ofYearDay?_eq_some_iff {year : Int} {place : Nat} {date : Date} :
    ofYearDay? year place = some date ↔
      (date.year = year ∧ date.dayOfYear = place) ∧ spansYear date.year = true := by
  unfold ofYearDay?
  constructor
  · intro built
    split at built
    · next inside =>
        simp only [Bool.and_eq_true, decide_eq_true_eq] at inside
        obtain ⟨placed, spanned⟩ := ofDay?_eq_some_iff.mp built
        have counted : date.day = firstDay year + (place - 1 : Nat) := by omega
        obtain ⟨own, number⟩ := year_eq_and_dayOfYear_eq counted (by omega)
        exact ⟨⟨own, by omega⟩, spanned⟩
    · cases built
  · rintro ⟨⟨rfl, rfl⟩, spanned⟩
    obtain ⟨placed, inside⟩ := date.dayOfYear_bounds
    have positive : 1 ≤ date.dayOfYear := Nat.le_add_left 1 _
    rw [if_pos (by simp only [Bool.and_eq_true, decide_eq_true_eq]; omega)]
    exact ofDay?_eq_some_iff.mpr ⟨by omega, spanned⟩

/-- A year, a month and a day in it give the date of the calendar that has them. -/
theorem ofYearMonthDay?_eq_some_iff {year : Int} {month day : Nat} {date : Date} :
    ofYearMonthDay? year month day = some date ↔
      (date.year = year ∧ date.month = month ∧ date.dayOfMonth = day) ∧
        spansYear date.year = true := by
  constructor
  · intro built
    simp only [ofYearMonthDay?] at built
    split at built
    · next length listed =>
        split at built
        · next inside =>
            simp only [Bool.and_eq_true, decide_eq_true_eq] at inside
            obtain ⟨placed, spanned⟩ := ofDay?_eq_some_iff.mp built
            have before := daysBeforeMonth_succ (isLeap year) (month - 1)
            rw [Nat.sub_add_cancel inside.1.1] at before
            have counted : date.day = firstDay year +
                (((monthLengths (isLeap year)).take (month - 1)).sum + (day - 1) : Nat) := by
              rw [placed, before]
              omega
            obtain ⟨own, monthIs, dayIs⟩ :=
              year_eq_and_monthDay_eq listed (by omega) counted
            exact ⟨⟨own, by omega, by omega⟩, spanned⟩
        · cases built
    · cases built
  · rintro ⟨⟨rfl, rfl, rfl⟩, spanned⟩
    obtain ⟨position, length, day, listed, bounded, monthIs, dayIs, _⟩ := date.exists_monthDay
    have valid : (decide (1 ≤ position + 1) && decide (1 ≤ day + 1) &&
        decide (day + 1 ≤ length)) = true := by
      simp only [Bool.and_eq_true, decide_eq_true_eq]
      omega
    have number := date.day_eq
    rw [monthIs, dayIs, Nat.add_sub_cancel] at number
    rw [monthIs, dayIs]
    simp only [ofYearMonthDay?, Nat.add_sub_cancel, listed]
    rw [if_pos valid]
    exact ofDay?_eq_some_iff.mpr ⟨by omega, spanned⟩

/-- A date of the calendar is built from its parts. -/
theorem ofYearMonthDay?_parts {date : Date} (spanned : spansYear date.year = true) :
    ofYearMonthDay? date.year date.month date.dayOfMonth = some date :=
  ofYearMonthDay?_eq_some_iff.mpr ⟨⟨rfl, rfl, rfl⟩, spanned⟩

/-! ## Weeks -/

/-- A Monday comes before the first week of a year exactly when its Thursday comes before
that year. -/
theorem firstMonday_le_iff {monday year : Int} (isMonday : monday % 7 = 0) :
    firstMonday year ≤ monday ↔ firstDay year ≤ monday + 3 := by
  simp only [firstMonday]
  omega

theorem firstMonday_emod (year : Int) : firstMonday year % 7 = 0 := by
  simp only [firstMonday]
  omega

/-- The week-numbering year of a date is the one that its week lies in. -/
theorem isoYear_eq_iff {date : Date} {year : Int} :
    date.isoYear = year ↔ firstMonday year ≤ date.day - date.day % 7 ∧
      date.day - date.day % 7 < firstMonday (year + 1) := by
  have isMonday : (date.day - date.day % 7) % 7 = 0 := by omega
  have next : firstMonday (year + 1) ≤ date.day - date.day % 7 ↔
      firstDay (year + 1) ≤ date.day - date.day % 7 + 3 := firstMonday_le_iff isMonday
  rw [isoYear, yearOfDay_eq_iff, firstMonday_le_iff isMonday]
  omega

/-- The week-numbering year of a date is its year or one of the two next to it. -/
theorem isoYear_bounds (date : Date) :
    date.year - 1 ≤ date.isoYear ∧ date.isoYear ≤ date.year + 1 := by
  have inside : firstDay date.year ≤ date.day ∧ date.day < firstDay (date.year + 1) :=
    yearOfDay_eq_iff.mp rfl
  have own : firstDay date.isoYear ≤ date.day - date.day % 7 + 3 ∧
      date.day - date.day % 7 + 3 < firstDay (date.isoYear + 1) := yearOfDay_eq_iff.mp rfl
  constructor
  · by_contra early
    have ordered := firstDay_le (show date.isoYear + 1 ≤ date.year - 1 by omega)
    have next := firstDay_succ (date.year - 1)
    have long := yearLength_bounds (date.year - 1)
    rw [Int.sub_add_cancel] at next
    omega
  · by_contra late
    have ordered := firstDay_le (show date.year + 1 + 1 ≤ date.isoYear by omega)
    have next := firstDay_succ (date.year + 1)
    have long := yearLength_bounds (date.year + 1)
    omega

/-- The Monday of the week of a date. -/
def monday (date : Date) : Date :=
  ⟨date.day - date.day % 7⟩

/-- The Monday of a date comes so many weeks after the first Monday of its week-numbering
year. -/
theorem monday_eq (date : Date) :
    date.monday.day = firstMonday date.isoYear + 7 * ((date.isoWeek : Int) - 1) := by
  have started := (isoYear_eq_iff.mp (rfl : date.isoYear = date.isoYear)).1
  have aligned := firstMonday_emod date.isoYear
  simp only [monday, isoWeek]
  omega

/-- A week-numbering year has one Monday in each week. -/
theorem monday_eq_of_isoWeek_eq {date other : Date} (year : date.isoYear = other.isoYear)
    (week : date.isoWeek = other.isoWeek) : date.monday = other.monday := by
  have number := date.monday_eq
  rw [year, week, ← other.monday_eq] at number
  exact congrArg Date.mk number

theorem isoWeek_le (date : Date) : date.isoWeek ≤ 53 := by
  have ended := (isoYear_eq_iff.mp (rfl : date.isoYear = date.isoYear)).2
  have number := date.monday_eq
  have next := firstDay_succ date.isoYear
  have short := yearLength_bounds date.isoYear
  simp only [monday, firstMonday] at number ended
  omega

/-- A week has one number, and so has its Monday. -/
theorem monday_iso (date : Date) :
    date.monday.isoYear = date.isoYear ∧ date.monday.isoWeek = date.isoWeek := by
  have own := isoYear_eq_iff.mp (rfl : date.isoYear = date.isoYear)
  have isMonday : date.monday.day % 7 = 0 := by
    simp only [monday]
    omega
  have same : date.monday.isoYear = date.isoYear := by
    rw [isoYear_eq_iff, isMonday, Int.sub_zero]
    exact own
  have number := date.monday_eq
  have again := date.monday.monday_eq
  rw [same, monday, isMonday, Int.sub_zero, number] at again
  omega

theorem monday_eq_self_iff {date : Date} : date.monday = date ↔ date.day % 7 = 0 := by
  cases date
  simp only [monday, Date.mk.injEq]
  omega

/-- A week-numbering year and a week of it give the Monday of the calendar that has them. -/
theorem ofIsoWeek?_eq_some_iff {year : Int} {week : Nat} {date : Date} :
    ofIsoWeek? year week = some date ↔
      (date.isoYear = year ∧ date.isoWeek = week ∧ date.monday = date) ∧
        spansYear date.year = true := by
  have aligned := firstMonday_emod year
  constructor
  · intro built
    simp only [ofIsoWeek?] at built
    split at built
    · next inside =>
        simp only [Bool.and_eq_true, decide_eq_true_eq] at inside
        obtain ⟨placed, spanned⟩ := ofDay?_eq_some_iff.mp built
        have isMonday : date.monday = date := monday_eq_self_iff.mpr (by omega)
        have own : date.isoYear = year := by
          rw [isoYear_eq_iff]
          omega
        have number := date.monday_eq
        rw [own, isMonday] at number
        exact ⟨⟨own, by omega, isMonday⟩, spanned⟩
    · cases built
  · rintro ⟨⟨rfl, rfl, isMonday⟩, spanned⟩
    have number := date.monday_eq
    rw [isMonday] at number
    have ended := (isoYear_eq_iff.mp (rfl : date.isoYear = date.isoYear)).2
    have positive : 1 ≤ date.isoWeek := Nat.le_add_left 1 _
    simp only [ofIsoWeek?]
    rw [if_pos (by simp only [Bool.and_eq_true, decide_eq_true_eq]; omega)]
    exact ofDay?_eq_some_iff.mpr ⟨by omega, spanned⟩

end Date

end Rollup.Calendar
