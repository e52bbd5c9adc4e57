import Rollup.Proofs.Calendar.Date
import Rollup.Proofs.Instant.Written
import Rollup.Proofs.Steps
import Rollup.Time.Bucketing

/-!
# Starts of buckets

The start of a bucket is an instant cut to the bucket's size.  The parts of a timestamp
tell exactly the buckets apart, and from them the start of the bucket is rebuilt; a list
of values that are the parts of no bucket start is refused.
-/

namespace Rollup

open Calendar

/-- Whether a part is read off the time of day. -/
def TimePart.isOfClock : TimePart → Bool
  | .hour | .minute => true
  | _ => false

/-- The value of a part of an instant. -/
def Instant.part (instant : Instant) : TimePart → Int
  | .year => instant.date.year
  | .quarter => instant.date.quarter
  | .month => instant.date.month
  | .dayOfYear => instant.date.dayOfYear
  | .hour => instant.hour
  | .minute => instant.minute
  | .isoYear => instant.date.isoYear
  | .isoWeek => instant.date.isoWeek

/-- The values that tell the bucket of an instant from the others of a granularity. -/
def Instant.parts (granularity : Granularity) (instant : Instant) : List Int :=
  granularity.timeParts.map instant.part

namespace Granularity

/-- The first day of the bucket that a date lies in. -/
def firstDate (granularity : Granularity) (date : Date) : Date :=
  match granularity with
  | .week => date.monday
  | .month => Date.firstOfMonth date.year date.month
  | .quarter => Date.firstOfMonth date.year ((date.quarter - 1) * 3 + 1)
  | .year => Date.firstOfMonth date.year 1
  | _ => date

/-- The hour and the minute at which the bucket of an instant starts on its first day. -/
def firstClock (granularity : Granularity) (instant : Instant) : Nat × Nat :=
  match granularity with
  | .minute => (instant.hour, instant.minute)
  | .hour => (instant.hour, 0)
  | _ => (0, 0)

/-- An instant cut to the minute, hour, day, week from Monday, month, quarter or year that
it lies in. -/
def bucketStart (granularity : Granularity) (instant : Instant) : Instant :=
  .atMinute (granularity.firstDate instant.date) (granularity.firstClock instant).1
    (granularity.firstClock instant).2

end Granularity

/-! ## Cutting instants -/

namespace Granularity

variable {granularity : Granularity} {instant other : Instant}

theorem nodup_timeParts (granularity : Granularity) : granularity.timeParts.Nodup := by
  cases granularity <;> decide

/-- The first day of a bucket is not after any of its days. -/
theorem day_firstDate_le (granularity : Granularity) (date : Date) :
    (granularity.firstDate date).day ≤ date.day := by
  have named := date.month_pos
  cases granularity with
  | week => exact Int.sub_le_self _ (Int.emod_nonneg _ (by decide))
  | month => exact Date.day_firstOfMonth_le (Nat.le_refl _)
  | quarter => exact Date.day_firstOfMonth_le (by rw [Date.quarter]; omega)
  | year => exact Date.day_firstOfMonth_le named
  | all | none | minute | hour | day => exact Int.le_refl _

/-- A bucket does not start later in the day than the instants of its first day. -/
theorem firstClock_le (granularity : Granularity) (instant : Instant) :
    (granularity.firstClock instant).1 ≤ instant.hour ∧
      (granularity.firstClock instant).2 ≤ instant.minute := by
  cases granularity with
  | minute => exact ⟨Nat.le_refl _, Nat.le_refl _⟩
  | hour => exact ⟨Nat.le_refl _, Nat.zero_le _⟩
  | all | none | day | week | month | quarter | year => exact ⟨Nat.zero_le _, Nat.zero_le _⟩

/-- The bucket of an instant starts on its first day, at its first minute. -/
theorem bucketStart_parts (granularity : Granularity) (instant : Instant) :
    (granularity.bucketStart instant).date = granularity.firstDate instant.date ∧
      (granularity.bucketStart instant).hour = (granularity.firstClock instant).1 ∧
      (granularity.bucketStart instant).minute = (granularity.firstClock instant).2 :=
  Instant.atMinute_parts _
    (Nat.lt_of_le_of_lt (granularity.firstClock_le instant).1 instant.hour_lt)
    (Nat.lt_of_le_of_lt (granularity.firstClock_le instant).2 instant.minute_lt)

/-- The start of a bucket is in that bucket. -/
theorem parts_bucketStart (granularity : Granularity) (instant : Instant) :
    (granularity.bucketStart instant).parts granularity = instant.parts granularity := by
  obtain ⟨date, hour, minute⟩ := granularity.bucketStart_parts instant
  obtain ⟨firstQuarter, lastQuarter⟩ := instant.date.quarter_bounds
  cases granularity with
  | all | none => rfl
  | minute | hour | day =>
      simp only [Instant.parts, timeParts, List.map_cons, List.map_nil, Instant.part, date, hour,
        minute, firstDate, firstClock]
  | week =>
      simp only [Instant.parts, timeParts, List.map_cons, List.map_nil, Instant.part, date,
        firstDate, instant.date.monday_iso]
  | month =>
      have first := Date.firstOfMonth_parts instant.date.year instant.date.month_pos
        (Nat.le_of_lt_succ instant.date.month_lt)
      simp only [Instant.parts, timeParts, List.map_cons, List.map_nil, Instant.part, date,
        firstDate, first]
  | quarter =>
      have first := Date.firstOfMonth_parts instant.date.year
        (show 1 ≤ (instant.date.quarter - 1) * 3 + 1 by omega) (by omega)
      have kept := Date.quarter_firstOfMonth instant.date.year firstQuarter lastQuarter
      simp only [Instant.parts, timeParts, List.map_cons, List.map_nil, Instant.part, date,
        firstDate, first, kept]
  | year =>
      have first := Date.firstOfMonth_parts instant.date.year (Nat.le_refl 1) (by decide)
      simp only [Instant.parts, timeParts, List.map_cons, List.map_nil, Instant.part, date,
        firstDate, first]

/-- Instants with the same parts are in one bucket. -/
theorem bucketStart_eq_of_parts_eq (timed : granularity.timeParts ≠ [])
    (same : instant.parts granularity = other.parts granularity) :
    granularity.bucketStart instant = granularity.bucketStart other := by
  suffices granularity.firstDate instant.date = granularity.firstDate other.date ∧
      granularity.firstClock instant = granularity.firstClock other by
    rw [bucketStart, bucketStart, this.1, this.2]
  cases granularity with
  | all | none => exact absurd rfl timed
  | minute | hour | day =>
      simp only [Instant.parts, timeParts, List.map_cons, List.map_nil, Instant.part,
        List.cons.injEq, Int.natCast_inj] at same
      simp only [firstDate, firstClock, same, Date.eq_of_dayOfYear_eq same.1 same.2.1, and_self]
  | week =>
      simp only [Instant.parts, timeParts, List.map_cons, List.map_nil, Instant.part,
        List.cons.injEq, Int.natCast_inj] at same
      exact ⟨Date.monday_eq_of_isoWeek_eq same.1 same.2.1, rfl⟩
  | month | quarter | year =>
      simp only [Instant.parts, timeParts, List.map_cons, List.map_nil, Instant.part,
        List.cons.injEq, Int.natCast_inj] at same
      simp only [firstDate, firstClock, same, and_self]

/-- The start of a bucket is cut already. -/
theorem bucketStart_bucketStart (timed : granularity.timeParts ≠ []) (instant : Instant) :
    granularity.bucketStart (granularity.bucketStart instant) = granularity.bucketStart instant :=
  bucketStart_eq_of_parts_eq timed (granularity.parts_bucketStart instant)

/-- The start of a bucket is not after any instant of it. -/
theorem bucketStart_le (granularity : Granularity) (instant : Instant) :
    (granularity.bucketStart instant).second ≤ instant.second := by
  have days := granularity.day_firstDate_le instant.date
  have clock := granularity.firstClock_le instant
  rw [← instant.secondAt_parts]
  simp only [bucketStart, Instant.atMinute, Instant.ofSecond, Instant.secondAt]
  omega

end Granularity

/-! ## Rebuilding the start of a bucket -/

namespace Bucketing

variable {bucketing : Bucketing} {granularity : Granularity} {part : TimePart → Int}
  {instant : Instant}

theorem narrow_eq_ok_iff {value : Int} {number : Nat} :
    narrow value = .ok number ↔ value = number ∧ number < 4294967296 := by
  unfold narrow
  split
  · rw [Except.ok.injEq]
    omega
  · refine ⟨fun ended => (by cases ended), fun ⟨same, bounded⟩ => ?_⟩
    omega

theorem narrowYear_eq_ok_iff {fault : ExecutionFault} {value year : Int} :
    narrowYear fault value = .ok year ↔
      value = year ∧ -2147483648 ≤ year ∧ year < 2147483648 := by
  unfold narrowYear
  split
  · rw [Except.ok.injEq]
    omega
  · refine ⟨fun ended => (by cases ended), fun ⟨same, bounded⟩ => ?_⟩
    omega

/-- The first day that is built from the values of some parts has these parts, and a bucket
starts on it. -/
theorem parts_of_firstDate? (timed : granularity.timeParts ≠ [])
    (built : firstDate? granularity part = .ok (some instant.date)) :
    (∀ named ∈ granularity.timeParts, named.isOfClock = false →
        part named = instant.part named) ∧
      granularity.firstDate instant.date = instant.date ∧
      spansYear instant.date.year = true := by
  cases granularity with
  | all | none => exact absurd rfl timed
  | minute | hour | day =>
      simp only [firstDate?, bind_eq_ok_iff, narrowYear_eq_ok_iff, narrow_eq_ok_iff,
        pure_eq_ok_iff, Date.ofYearDay?_eq_some_iff] at built
      obtain ⟨_, ⟨year, -⟩, _, ⟨number, -⟩, ⟨rfl, rfl⟩, spanned⟩ := built
      refine ⟨?_, rfl, spanned⟩
      simp [Granularity.timeParts, TimePart.isOfClock, Instant.part, year, number]
  | week =>
      simp only [firstDate?, bind_eq_ok_iff, narrowYear_eq_ok_iff, narrow_eq_ok_iff,
        pure_eq_ok_iff, Date.ofIsoWeek?_eq_some_iff] at built
      obtain ⟨_, -, _, ⟨year, -⟩, _, ⟨number, -⟩, ⟨rfl, rfl, isMonday⟩, spanned⟩ := built
      refine ⟨?_, isMonday, spanned⟩
      simp [Granularity.timeParts, TimePart.isOfClock, Instant.part, year, number]
  | month =>
      simp only [firstDate?, bind_eq_ok_iff, narrowYear_eq_ok_iff, narrow_eq_ok_iff,
        pure_eq_ok_iff, Date.ofYearMonthDay?_eq_some_iff] at built
      obtain ⟨_, ⟨year, -⟩, _, ⟨number, -⟩, ⟨rfl, rfl, isFirst⟩, spanned⟩ := built
      refine ⟨?_, ?_, spanned⟩
      · simp [Granularity.timeParts, TimePart.isOfClock, Instant.part, year, number]
      · have month := instant.date.month_lt
        exact (Date.firstOfMonth_eq_iff instant.date.month_pos (by omega)).mpr ⟨rfl, isFirst⟩
  | quarter =>
      simp only [firstDate?, bind_eq_ok_iff, narrowYear_eq_ok_iff, narrow_eq_ok_iff] at built
      obtain ⟨_, ⟨year, -⟩, quarter, ⟨number, -⟩, built⟩ := built
      split at built
      next inside =>
        simp only [Bool.and_eq_true, decide_eq_true_eq] at inside
        rw [pure_eq_ok_iff, Date.ofYearMonthDay?_eq_some_iff] at built
        obtain ⟨⟨rfl, isFirst⟩, spanned⟩ := built
        have own : instant.date.quarter = quarter := by
          rw [Date.quarter, isFirst.1]
          omega
        refine ⟨?_, ?_, spanned⟩
        · simp [Granularity.timeParts, TimePart.isOfClock, Instant.part, year, number, own]
        · rw [← own] at isFirst inside
          exact (Date.firstOfMonth_eq_iff (by omega) (by omega)).mpr isFirst
      next => cases built
  | year =>
      simp only [firstDate?, bind_eq_ok_iff, narrowYear_eq_ok_iff, pure_eq_ok_iff,
        Date.ofYearMonthDay?_eq_some_iff] at built
      obtain ⟨_, ⟨year, -⟩, ⟨rfl, isFirst⟩, spanned⟩ := built
      refine ⟨?_, (Date.firstOfMonth_eq_iff (by decide) (by decide)).mpr isFirst, spanned⟩
      simp [Granularity.timeParts, TimePart.isOfClock, Instant.part, year]

/-- A day of the calendar on which a bucket starts is built from the values of its parts. -/
theorem firstDate?_of_parts (timed : granularity.timeParts ≠ [])
    (absent : TimePart.year ∉ granularity.timeParts → part .year = 0)
    (parts : ∀ named ∈ granularity.timeParts, named.isOfClock = false →
      part named = instant.part named)
    (isFirst : granularity.firstDate instant.date = instant.date)
    (spanned : spansYear instant.date.year = true) :
    firstDate? granularity part = .ok (some instant.date) := by
  have years := spansYear_bounds spanned
  cases granularity with
  | all | none => exact absurd rfl timed
  | minute | hour | day =>
      have places := instant.date.dayOfYear_le
      simp only [firstDate?, bind_eq_ok_iff, narrowYear_eq_ok_iff, narrow_eq_ok_iff,
        pure_eq_ok_iff, Date.ofYearDay?_eq_some_iff]
      exact ⟨instant.date.year, ⟨parts .year (by decide) rfl, by omega⟩, _,
        ⟨parts .dayOfYear (by decide) rfl, by omega⟩, ⟨rfl, rfl⟩, spanned⟩
  | week =>
      have isoYears := instant.date.isoYear_bounds
      have weeks := instant.date.isoWeek_le
      simp only [firstDate?, bind_eq_ok_iff, narrowYear_eq_ok_iff, narrow_eq_ok_iff,
        pure_eq_ok_iff, Date.ofIsoWeek?_eq_some_iff]
      exact ⟨0, ⟨absent (by decide), by decide⟩, instant.date.isoYear,
        ⟨parts .isoYear (by decide) rfl, by omega⟩, _,
        ⟨parts .isoWeek (by decide) rfl, by omega⟩, ⟨rfl, rfl, isFirst⟩, spanned⟩
  | month =>
      have months := instant.date.month_lt
      have first := (Date.firstOfMonth_eq_iff instant.date.month_pos (by omega)).mp isFirst
      simp only [firstDate?, bind_eq_ok_iff, narrowYear_eq_ok_iff, narrow_eq_ok_iff,
        pure_eq_ok_iff, Date.ofYearMonthDay?_eq_some_iff]
      exact ⟨instant.date.year, ⟨parts .year (by decide) rfl, by omega⟩, _,
        ⟨parts .month (by decide) rfl, by omega⟩, ⟨rfl, rfl, first.2⟩, spanned⟩
  | quarter =>
      have quarters := instant.date.quarter_bounds
      have first := (Date.firstOfMonth_eq_iff (by omega) (by omega)).mp isFirst
      simp only [firstDate?, bind_eq_ok_iff, narrowYear_eq_ok_iff, narrow_eq_ok_iff]
      refine ⟨instant.date.year, ⟨parts .year (by decide) rfl, by omega⟩, _,
        ⟨parts .quarter (by decide) rfl, by omega⟩, ?_⟩
      rw [if_pos (by simpa only [Bool.and_eq_true, decide_eq_true_eq] using quarters),
        pure_eq_ok_iff, Date.ofYearMonthDay?_eq_some_iff]
      exact ⟨⟨rfl, first⟩, spanned⟩
  | year =>
      have first := (Date.firstOfMonth_eq_iff (by decide) (by decide)).mp isFirst
      simp only [firstDate?, bind_eq_ok_iff, narrowYear_eq_ok_iff, pure_eq_ok_iff,
        Date.ofYearMonthDay?_eq_some_iff]
      exact ⟨instant.date.year, ⟨parts .year (by decide) rfl, by omega⟩, ⟨rfl, first⟩, spanned⟩

/-- The hour and the minute of an instant are built from the values of its parts exactly when
a bucket starts at them. -/
theorem firstMinute_eq_ok_iff :
    firstMinute granularity part = .ok (instant.hour, instant.minute) ↔
      (∀ named ∈ granularity.timeParts, named.isOfClock = true →
        part named = instant.part named) ∧
      granularity.firstClock instant = (instant.hour, instant.minute) := by
  have hours := instant.hour_lt
  have minutes := instant.minute_lt
  cases granularity with
  | minute =>
      simp only [firstMinute, bind_eq_ok_iff, narrow_eq_ok_iff, pure_eq_ok_iff, Prod.mk.injEq]
      constructor
      · rintro ⟨_, ⟨hour, -⟩, _, ⟨minute, -⟩, rfl, rfl⟩
        simp [Granularity.timeParts, TimePart.isOfClock, Instant.part, hour, minute, Granularity.firstClock]
      · rintro ⟨parts, -⟩
        exact ⟨_, ⟨parts .hour (by decide) rfl, by omega⟩, _,
          ⟨parts .minute (by decide) rfl, by omega⟩, rfl, rfl⟩
  | hour =>
      simp only [firstMinute, bind_eq_ok_iff, narrow_eq_ok_iff, pure_eq_ok_iff, Prod.mk.injEq]
      constructor
      · rintro ⟨_, ⟨hour, -⟩, rfl, sharp⟩
        simp [Granularity.timeParts, TimePart.isOfClock, Instant.part, hour, Granularity.firstClock, sharp]
      · rintro ⟨parts, sharp⟩
        exact ⟨_, ⟨parts .hour (by decide) rfl, by omega⟩, rfl, (Prod.mk.inj sharp).2⟩
  | all | none | day | week | month | quarter | year =>
      simp [firstMinute, Granularity.timeParts, TimePart.isOfClock, Granularity.firstClock]

/-- The value listed for a part is found again. -/
theorem valueOf_map {parts : List TimePart} {named : TimePart} (listed : named ∈ parts) :
    valueOf parts (parts.map part) named = part named := by
  induction parts with
  | nil => cases listed
  | cons first rest inductionHypothesis =>
      rw [valueOf, List.map_cons, List.zip_cons_cons, List.lookup_cons]
      by_cases here : named = first
      · rw [here, BEq.rfl]
        rfl
      · rw [beq_false_of_ne here]
        exact inductionHypothesis ((List.mem_cons.mp listed).resolve_left here)

/-- A list with a value for each part lists the values found for them. -/
theorem map_valueOf {parts : List TimePart} (distinct : parts.Nodup) {values : List Int}
    (sameLength : values.length = parts.length) :
    parts.map (valueOf parts values) = values := by
  induction parts generalizing values with
  | nil => exact (List.length_eq_zero_iff.mp sameLength).symm
  | cons first rest inductionHypothesis =>
      obtain ⟨value, others, rfl⟩ := List.exists_cons_of_length_eq_add_one sameLength
      rw [List.nodup_cons] at distinct
      have here : valueOf (first :: rest) (value :: others) first = value := by
        rw [valueOf, List.zip_cons_cons, List.lookup_cons, BEq.rfl]
        rfl
      have later : ∀ named ∈ rest,
          valueOf (first :: rest) (value :: others) named = valueOf rest others named := by
        intro named listed
        have different : named ≠ first := fun same => distinct.1 (same ▸ listed)
        rw [valueOf, List.zip_cons_cons, List.lookup_cons, beq_false_of_ne different]
        rfl
      rw [List.map_cons, here, List.map_congr_left later,
        inductionHypothesis distinct.2 (Nat.succ.inj sameLength)]

theorem valueOf_of_not_mem {parts : List TimePart} {named : TimePart} (absent : named ∉ parts)
    (values : List Int) : valueOf parts values named = 0 := by
  have missing : (parts.zip values).lookup named = none := by
    rw [List.lookup_eq_none_iff]
    rintro ⟨first, value⟩ listed
    exact bne_iff_ne.mpr fun (same : named = first) => absent (same ▸ (List.of_mem_zip listed).1)
  rw [valueOf, missing]
  rfl

/-- What is built from a list of values, when the granularity has parts. -/
theorem start_eq_ok_iff_built (timed : bucketing.granularity.timeParts ≠ []) {values : List Int}
    {start : Instant} :
    bucketing.start values = .ok start ↔
      values.length = bucketing.granularity.timeParts.length ∧
      ∃ date hour minute,
        firstDate? bucketing.granularity (valueOf bucketing.granularity.timeParts values) =
          .ok (some date) ∧
        firstMinute bucketing.granularity (valueOf bucketing.granularity.timeParts values) =
          .ok (hour, minute) ∧
        (hour < 24 ∧ minute < 60) ∧ start = .atMinute date hour minute := by
  have hasParts : bucketing.granularity.timeParts.isEmpty = false :=
    List.isEmpty_eq_false_iff.mpr timed
  simp only [Bucketing.start, hasParts, Bool.false_eq_true, if_false, check_eq_ok_iff, not_not,
    bind_eq_ok_iff]
  refine and_congr_right fun _ => ?_
  constructor
  · rintro ⟨found, built, ended⟩
    cases found with
    | none => cases ended
    | some date =>
        obtain ⟨⟨hour, minute⟩, clock, ended⟩ := bind_eq_ok_iff.mp ended
        simp only at ended
        split at ended
        next inside =>
          cases ended
          exact ⟨date, hour, minute, built, clock, by simpa using inside, rfl⟩
        next => cases ended
  · rintro ⟨date, hour, minute, built, clock, inside, rfl⟩
    refine ⟨_, built, bind_eq_ok_iff.mpr ⟨_, clock, ?_⟩⟩
    exact if_pos (by simpa using inside)

/-- The start of a bucket is built from exactly the values of its parts. -/
theorem start_eq_ok_iff (timed : bucketing.granularity.timeParts ≠ []) {values : List Int}
    {start : Instant} :
    bucketing.start values = .ok start ↔
      values = start.parts bucketing.granularity ∧
      bucketing.granularity.bucketStart start = start ∧
      spansYear start.date.year = true := by
  rw [start_eq_ok_iff_built timed]
  constructor
  · rintro ⟨sameLength, date, hour, minute, built, clock, ⟨hourFits, minuteFits⟩, startIs⟩
    obtain ⟨dateIs, hourIs, minuteIs⟩ := Instant.atMinute_parts date hourFits minuteFits
    rw [← startIs] at dateIs hourIs minuteIs
    rw [← dateIs] at built
    rw [← hourIs, ← minuteIs] at clock
    obtain ⟨dateParts, isFirst, spanned⟩ := parts_of_firstDate? timed built
    obtain ⟨clockParts, isSharp⟩ := firstMinute_eq_ok_iff.mp clock
    refine ⟨?_, ?_, spanned⟩
    · rw [← map_valueOf bucketing.granularity.nodup_timeParts sameLength, Instant.parts]
      refine List.map_congr_left fun named listed => ?_
      cases ofClock : named.isOfClock with
      | true => exact clockParts named listed ofClock
      | false => exact dateParts named listed ofClock
    · rw [Granularity.bucketStart, isFirst, isSharp, dateIs, hourIs, minuteIs, startIs]
  · rintro ⟨rfl, isStart, spanned⟩
    obtain ⟨isFirst, isHour, isMinute⟩ := bucketing.granularity.bucketStart_parts start
    rw [isStart] at isFirst isHour isMinute
    have found : ∀ named ∈ bucketing.granularity.timeParts,
        valueOf bucketing.granularity.timeParts (start.parts bucketing.granularity) named =
          start.part named := fun _ listed => valueOf_map listed
    refine ⟨List.length_map _, start.date, start.hour, start.minute,
      firstDate?_of_parts timed (valueOf_of_not_mem · _) (fun named listed _ => found named listed)
        isFirst.symm spanned,
      firstMinute_eq_ok_iff.mpr ⟨fun named listed _ => found named listed, ?_⟩,
      ⟨start.hour_lt, start.minute_lt⟩, ?_⟩
    · rw [isHour, isMinute]
    · rw [isHour, isMinute, isFirst]
      exact isStart.symm

/-! ## Refusals -/

theorem failsOnlyWith_narrow (value : Int) :
    FailsOnlyWith (fun error => error.kind = .executionFailure) (narrow value) := by
  unfold narrow
  split
  · exact .ok _
  · exact .error rfl

theorem failsOnlyWith_narrowYear (fault : ExecutionFault) (value : Int) :
    FailsOnlyWith (fun error => error.kind = .executionFailure) (narrowYear fault value) := by
  unfold narrowYear
  split
  · exact .ok _
  · exact .error rfl

theorem failsOnlyWith_firstDate? (granularity : Granularity) (part : TimePart → Int) :
    FailsOnlyWith (fun error => error.kind = .executionFailure)
      (firstDate? granularity part) := by
  refine (failsOnlyWith_narrowYear _ _).bind fun year _ => ?_
  cases granularity with
  | minute | hour | day | month => exact (failsOnlyWith_narrow _).bind fun _ _ => .ok _
  | week =>
      refine (failsOnlyWith_narrowYear _ _).bind fun _ _ => ?_
      exact (failsOnlyWith_narrow _).bind fun _ _ => .ok _
  | quarter =>
      refine (failsOnlyWith_narrow _).bind fun quarter _ => ?_
      split
      · exact .ok _
      · exact .error rfl
  | year | all | none => exact .ok _

theorem failsOnlyWith_firstMinute (granularity : Granularity) (part : TimePart → Int) :
    FailsOnlyWith (fun error => error.kind = .executionFailure)
      (firstMinute granularity part) := by
  cases granularity with
  | minute =>
      refine (failsOnlyWith_narrow _).bind fun _ _ => ?_
      exact (failsOnlyWith_narrow _).bind fun _ _ => .ok _
  | hour => exact (failsOnlyWith_narrow _).bind fun _ _ => .ok _
  | all | none | day | week | month | quarter | year => exact .ok _

/-- Values from which no start of a bucket is built are a failure of execution. -/
theorem failsOnlyWith_start (bucketing : Bucketing) (values : List Int) :
    FailsOnlyWith (fun error => error.kind = .executionFailure) (bucketing.start values) := by
  unfold Bucketing.start
  dsimp only
  split
  · exact .ok _
  · refine .check rfl fun _ => (failsOnlyWith_firstDate? _ _).bind fun found _ => ?_
    cases found with
    | none => exact .error rfl
    | some date =>
        refine (failsOnlyWith_firstMinute _ _).bind fun clock _ => ?_
        split
        · exact .ok _
        · exact .error rfl

/-! ## Starts of buckets and their parts -/

/-- Starts of buckets and their parts determine each other.  The parts of an instant give the
start of its bucket, which is the earliest instant with these parts; and whatever a list of
values gives is the start of a bucket that has exactly these parts, every other list being
refused. -/
theorem start_inverts_parts (bucketing : Bucketing)
    (timed : bucketing.granularity.timeParts ≠ []) :
    (∀ instant : Instant,
      spansYear (bucketing.granularity.bucketStart instant).date.year = true →
        bucketing.start (instant.parts bucketing.granularity) =
            .ok (bucketing.granularity.bucketStart instant) ∧
          ∀ other : Instant,
            other.parts bucketing.granularity = instant.parts bucketing.granularity →
              (bucketing.granularity.bucketStart instant).second ≤ other.second) ∧
    (∀ (values : List Int) (start : Instant), bucketing.start values = .ok start →
      values = start.parts bucketing.granularity ∧
        bucketing.granularity.bucketStart start = start) ∧
    ∀ values : List Int,
      (∀ instant : Instant, values = instant.parts bucketing.granularity →
        spansYear (bucketing.granularity.bucketStart instant).date.year = false) →
      ∃ error, bucketing.start values = .error error ∧ error.kind = .executionFailure := by
  refine ⟨fun instant spanned => ⟨?built, fun other same => ?earliest⟩,
    fun values start ended => ?parts, fun values foreign => ?refused⟩
  case built =>
    exact (start_eq_ok_iff timed).mpr ⟨(Granularity.parts_bucketStart _ instant).symm,
      Granularity.bucketStart_bucketStart timed instant, spanned⟩
  case earliest =>
    rw [← Granularity.bucketStart_eq_of_parts_eq timed same]
    exact Granularity.bucketStart_le _ other
  case parts =>
    obtain ⟨parts, isStart, _⟩ := (start_eq_ok_iff timed).mp ended
    exact ⟨parts, isStart⟩
  case refused =>
    cases ended : bucketing.start values with
    | error error => exact ⟨error, rfl, failsOnlyWith_start bucketing values error ended⟩
    | ok start =>
        obtain ⟨parts, isStart, spanned⟩ := (start_eq_ok_iff timed).mp ended
        have outside := foreign start parts
        rw [isStart, spanned] at outside
        cases outside

/-- A Sunday of the new year is in the last week of the old one, which has 53. -/
theorem start_inverts_parts_of_week_53 :
    (Instant.ofSecond 1609677296).parts .week = [2020, 53] ∧
      Bucketing.start ⟨.week, .epoch⟩ [2020, 53] = .ok (.ofSecond 1609113600) :=
  ⟨by decide, ((start_inverts_parts ⟨.week, .epoch⟩ (by decide)).1 (.ofSecond 1609677296)
    (by decide)).1⟩

end Bucketing

end Rollup
