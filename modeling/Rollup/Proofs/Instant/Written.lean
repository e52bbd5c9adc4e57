import Mathlib.Algebra.Order.Group.Unbundled.Int
import Rollup.Instant.Notation
import Rollup.Instant.Reader
import Rollup.Proofs.Calendar.Date
import Rollup.Proofs.Text.Digits

/-!
# Reading written instants

The parts of a written instant, its date, its time of day and its fraction, are each read
back from their texts, whatever text follows them.  What a clock reads leads back to the second
that it is set to, and no reader gives an instant outside the calendar.
-/

namespace Rollup

open Calendar Text

namespace Instant

variable {instant : Instant}

/-! ## The clock -/

theorem secondOfDay_lt (instant : Instant) : instant.secondOfDay < 86400 := by
  rw [secondOfDay]
  omega

theorem hour_lt (instant : Instant) : instant.hour < 24 :=
  Nat.div_lt_of_lt_mul instant.secondOfDay_lt

theorem minute_lt (instant : Instant) : instant.minute < 60 :=
  Nat.mod_lt _ (by decide)

/-- An instant at the start of a minute has the date, hour and minute that it is made of. -/
theorem atMinute_parts (date : Date) {hour minute : Nat} (hourFits : hour < 24)
    (minuteFits : minute < 60) :
    (atMinute date hour minute).date = date ∧ (atMinute date hour minute).hour = hour ∧
      (atMinute date hour minute).minute = minute := by
  cases date
  refine ⟨?_, ?_, ?_⟩
  · simp only [Instant.date, atMinute, ofSecond, secondAt]
    congr
    omega
  · simp only [Instant.hour, secondOfDay, atMinute, ofSecond, secondAt]
    omega
  · simp only [Instant.minute, secondOfDay, atMinute, ofSecond, secondAt]
    omega

theorem subsecond_lt (instant : Instant) : instant.subsecond < 1000000000 :=
  Nat.mod_lt _ (by decide)

/-- The place of an instant in its minute: a leap second stands in the last. -/
theorem secondOfMinute_eq (instant : Instant) :
    instant.nanosecond < 1000000000 ∧ instant.secondOfMinute = instant.secondOfDay % 60 ∨
      1000000000 ≤ instant.nanosecond ∧ instant.nanosecond < 2000000000 ∧
        instant.secondOfDay % 60 = 59 ∧ instant.secondOfMinute = 60 := by
  have valid := instant.fraction
  simp only [IsFraction] at valid
  rw [secondOfMinute, secondOfDay]
  omega

theorem secondOfMinute_le (instant : Instant) : instant.secondOfMinute ≤ 60 := by
  rcases instant.secondOfMinute_eq with ⟨_, plain⟩ | ⟨_, _, _, leap⟩ <;> omega

/-- Date and time of day lead back to the second. -/
theorem secondAt_parts (instant : Instant) :
    secondAt instant.date instant.hour instant.minute (instant.secondOfDay % 60) =
      instant.second := by
  simp only [secondAt, date, hour, minute, secondOfDay]
  omega

/-- The date is that of the second, whatever the fraction. -/
theorem date_eq_of_second_eq {first second : Instant} (same : first.second = second.second) :
    first.date = second.date := by
  rw [date, date, same]

/-- An instant with its fraction replaced: a leap second stays one. -/
theorem isFraction_replaced (instant : Instant) {nanosecond : Nat}
    (small : nanosecond < 1000000000) :
    IsFraction instant.second
      (nanosecond + instant.nanosecond / 1000000000 * 1000000000) := by
  have valid := instant.fraction
  simp only [IsFraction] at valid ⊢
  omega

/-- A clock reading gives the second that the clock is set to, with the fraction of the reading. -/
theorem ofClock?_offset {minutes : Int} {nanosecond : Nat}
    (valid : IsFraction (instant.second - 60 * minutes)
      (nanosecond + instant.nanosecond / 1000000000 * 1000000000))
    (spanned : spansYear (Instant.mk _ _ valid).date.year = true) :
    ofClock? instant.date instant.hour instant.minute instant.secondOfMinute nanosecond minutes =
      some ⟨_, _, valid⟩ := by
  have reading : (decide (instant.hour < 24) && decide (instant.minute < 60) &&
      decide (instant.secondOfMinute ≤ 60)) = true := by
    simp [instant.hour_lt, instant.minute_lt, instant.secondOfMinute_le]
  have leap : (if instant.secondOfMinute = 60 then 1 else 0) =
      instant.nanosecond / 1000000000 := by
    rcases instant.secondOfMinute_eq with ⟨_, plain⟩ | ⟨_, _, _, leap⟩ <;> split <;> omega
  have second : instant.secondOfMinute - instant.nanosecond / 1000000000 =
      instant.secondOfDay % 60 := by
    rw [secondOfMinute, Nat.add_sub_cancel]
  rw [ofClock?, if_pos reading]
  simp only [leap, second, secondAt_parts]
  rw [dif_pos valid]
  exact if_pos spanned

/-- The clock reading of an instant gives its second, with the fraction of the reading. -/
theorem ofClock?_parts (spanned : spansYear instant.date.year = true) {nanosecond : Nat}
    (small : nanosecond < 1000000000) :
    ofClock? instant.date instant.hour instant.minute instant.secondOfMinute nanosecond 0 =
      some ⟨instant.second, nanosecond + instant.nanosecond / 1000000000 * 1000000000,
        instant.isFraction_replaced small⟩ := by
  have second : instant.second - 60 * 0 = instant.second := Int.sub_zero _
  have valid : IsFraction (instant.second - 60 * 0)
      (nanosecond + instant.nanosecond / 1000000000 * 1000000000) := by
    rw [second]
    exact instant.isFraction_replaced small
  have kept : (Instant.mk _ _ valid).date = instant.date := date_eq_of_second_eq second
  rw [ofClock?_offset valid (kept ▸ spanned)]
  simp only [second]

/-! ## Reading the parts -/

@[simp]
theorem skip?_cons (expected : Char) (rest : List Char) :
    skip? expected (expected :: rest) = some rest :=
  if_pos rfl

/-- Two digits are read, whatever follows them. -/
theorem takeNumber_two {part : Nat} {rest : List Char} (fits : part < 100) :
    takeNumber 2 2 (paddedDigits 2 part ++ rest) = some (part, rest) :=
  takeNumber_full (length_paddedDigits (by decide) fits)

/-- Two digits are read as a part of a date or of a time. -/
theorem takePart?_paddedDigits {part : Nat} {rest : List Char} (fits : part < 100)
    (ends : rest.takeWhile Char.isDigit = []) :
    takePart? (paddedDigits 2 part ++ rest) = some (part, rest) := by
  have width : (paddedDigits 2 part).length = 2 := length_paddedDigits (by decide) fits
  rw [takePart?, trimStart_paddedDigits]
  exact takeNumber_paddedDigits (by omega) (by omega) ends

/-- Up to four digits without a sign are read as a year. -/
theorem takeYear?_paddedDigits {width year : Nat} {rest : List Char}
    (fits : (paddedDigits width year).length ≤ 4)
    (ends : rest.takeWhile Char.isDigit = []) :
    takeYear? (paddedDigits width year ++ rest) = some ((year : Int), rest) := by
  have read : takeNumber 1 4 (paddedDigits width year ++ rest) = some (year, rest) :=
    takeNumber_paddedDigits (List.length_pos_iff.mpr (paddedDigits_ne_nil width year)) fits ends
  rw [takeYear?, trimStart_paddedDigits]
  split
  next starts => exact absurd (isDigit_of_starts starts) (by decide)
  next starts => exact absurd (isDigit_of_starts starts) (by decide)
  next => rw [read, Option.map_some]

/-- A year is read back, with or without its sign. -/
theorem takeYear?_yearText (year : Int) {rest : List Char}
    (ends : rest.takeWhile Char.isDigit = []) :
    takeYear? (yearText year ++ rest) = some (year, rest) := by
  rw [yearText]
  split
  next plain =>
    have width : (paddedDigits 4 year.toNat).length = 4 :=
      length_paddedDigits (by decide) (by omega)
    rw [takeYear?_paddedDigits (by omega) ends, Int.toNat_of_nonneg plain.1]
  next =>
    have read : takeNumber 1 (paddedDigits 4 year.natAbs ++ rest).length
        (paddedDigits 4 year.natAbs ++ rest) = some (year.natAbs, rest) := by
      refine takeNumber_paddedDigits ?_ ?_ ends
      · exact Nat.le_trans (by decide) (le_length_paddedDigits 4 year.natAbs)
      · rw [List.length_append]
        omega
    split
    next negative =>
      have signed : trimStart ('-' :: paddedDigits 4 year.natAbs ++ rest) =
          '-' :: (paddedDigits 4 year.natAbs ++ rest) := rfl
      rw [takeYear?, signed]
      simp only [read, Option.map_some]
      congr
      omega
    next positive =>
      have signed : trimStart ('+' :: paddedDigits 4 year.natAbs ++ rest) =
          '+' :: (paddedDigits 4 year.natAbs ++ rest) := rfl
      rw [takeYear?, signed]
      simp only [read, Option.map_some]
      congr
      omega

/-- A date is read back from its text. -/
theorem takeDate?_text {date : Date} (spanned : spansYear date.year = true) {rest : List Char}
    (ends : rest.takeWhile Char.isDigit = []) :
    takeDate? (date.text ++ rest) = some (date, rest) := by
  have month : date.month < 100 := Nat.lt_trans date.month_lt (by decide)
  have day : date.dayOfMonth < 100 := Nat.lt_trans date.dayOfMonth_lt (by decide)
  have layout : date.text ++ rest = yearText date.year ++ ('-' :: (paddedDigits 2 date.month ++
      ('-' :: (paddedDigits 2 date.dayOfMonth ++ rest)))) := by
    simp only [Date.text, List.append_assoc, List.cons_append]
  rw [layout, takeDate?, takeYear?_yearText date.year rfl]
  simp only [Option.bind_eq_bind, Option.bind_some, skip?_cons]
  rw [takePart?_paddedDigits month rfl]
  simp only [Option.bind_some, skip?_cons]
  rw [takePart?_paddedDigits day ends]
  simp only [Option.bind_some]
  rw [Date.ofYearMonthDay?_parts spanned]
  rfl

/-- A time of day is read back from its text, with the fraction that follows it. -/
theorem takeClock?_clockText (instant : Instant) {rest after : List Char} {nanosecond : Nat}
    (ends : rest.takeWhile Char.isDigit = [])
    (fraction : takeFraction? rest = some (nanosecond, after)) :
    takeClock? (instant.clockText ++ rest) =
      some ((instant.hour, instant.minute, instant.secondOfMinute, nanosecond), after) := by
  have hour : instant.hour < 100 := Nat.lt_trans instant.hour_lt (by decide)
  have minute : instant.minute < 100 := Nat.lt_trans instant.minute_lt (by decide)
  have second : instant.secondOfMinute < 100 :=
    Nat.lt_of_le_of_lt instant.secondOfMinute_le (by decide)
  have layout : instant.clockText ++ rest = paddedDigits 2 instant.hour ++
      (':' :: (paddedDigits 2 instant.minute ++
        (':' :: (paddedDigits 2 instant.secondOfMinute ++ rest)))) := by
    simp only [clockText, List.append_assoc, List.cons_append]
  rw [layout, takeClock?, takePart?_paddedDigits hour rfl]
  simp only [Option.bind_eq_bind, Option.bind_some, skip?_cons]
  rw [takePart?_paddedDigits minute rfl]
  simp only [Option.bind_some, skip?_cons]
  rw [takePart?_paddedDigits second ends]
  simp only [Option.bind_some]
  rw [fraction]
  rfl

/-- A fraction in nine digits or fewer counts nanoseconds. -/
theorem takeFraction?_paddedDigits {width n : Nat} {rest : List Char} (positive : 0 < width)
    (short : width ≤ 9) (fits : n < 10 ^ width) (ends : rest.takeWhile Char.isDigit = []) :
    takeFraction? ('.' :: paddedDigits width n ++ rest) =
      some (n * 10 ^ (9 - width), rest) := by
  have length : (paddedDigits width n).length = width := length_paddedDigits positive fits
  have found : (paddedDigits width n).isEmpty = false :=
    List.isEmpty_eq_false_iff.mpr (paddedDigits_ne_nil width n)
  have kept : (paddedDigits width n).take 9 = paddedDigits width n :=
    List.take_of_length_le (by omega)
  rw [List.cons_append]
  simp only [takeFraction?, takeWhile_paddedDigits ends, found, kept, digitsValue_paddedDigits,
    List.drop_left]
  rw [length]
  rfl

/-- The calendar has every year that takes four digits. -/
theorem spansYear_of_written (written : 0 ≤ instant.date.year ∧ instant.date.year ≤ 9999) :
    spansYear instant.date.year = true := by
  simp only [spansYear, Bool.and_eq_true, decide_eq_true_eq]
  omega

/-! ## What the readers give -/

/-- Whether an instant, if there is one, lies in a year of the calendar. -/
def IsSpanned (read : Option Instant) : Prop :=
  ∀ instant ∈ read, spansYear instant.date.year = true

theorem isSpanned_none : IsSpanned none := by
  intro _ listed
  cases listed

theorem isSpanned_bind {α : Type} {step : Option α} {next : α → Option Instant}
    (each : ∀ value, step = some value → IsSpanned (next value)) :
    IsSpanned (step >>= next) := by
  cases step with
  | none => exact isSpanned_none
  | some value => exact each value rfl

theorem isSpanned_orElse {first second : Option Instant} (left : IsSpanned first)
    (right : IsSpanned second) : IsSpanned (first <|> second) := by
  cases first with
  | none => exact right
  | some _ => exact left

theorem isSpanned_ofClock? (date : Date) (hour minute second nanosecond : Nat)
    (offsetMinutes : Int) :
    IsSpanned (ofClock? date hour minute second nanosecond offsetMinutes) := by
  unfold ofClock?
  split
  · dsimp only
    generalize (if second = 60 then 1 else 0) = leap
    split
    · split
      · intro instant read
        cases read
        assumption
      · exact isSpanned_none
    · exact isSpanned_none
  · exact isSpanned_none

/-- The interchange form denotes instants of the calendar only. -/
theorem isSpanned_ofInterchange? (text : List Char) : IsSpanned (ofInterchange? text) := by
  have ended {date : Date} {hour minute second nanosecond : Nat} {offset : Int}
      (text : List Char) :
      IsSpanned (if text.isEmpty then ofClock? date hour minute second nanosecond offset
        else none) := by
    split
    · exact isSpanned_ofClock? _ _ _ _ _ _
    · exact isSpanned_none
  unfold ofInterchange?
  refine isSpanned_bind fun _ _ => isSpanned_bind fun _ _ => isSpanned_bind fun _ _ =>
    isSpanned_bind fun _ _ => isSpanned_bind fun _ _ => ?_
  dsimp only
  split
  all_goals
    repeat refine isSpanned_bind fun _ _ => ?_
    exact ended _

@[simp]
theorem date_atMidnight (date : Date) : (atMidnight date).date = date :=
  (atMinute_parts date (by decide) (by decide)).1

theorem isSpanned_ofDate? (text : List Char) : IsSpanned (ofDate? text) := by
  refine isSpanned_bind fun ⟨date, rest⟩ taken => ?_
  have spanned : spansYear date.year = true := by
    simp only [takeDate?, Option.bind_eq_bind, Option.bind_eq_some_iff] at taken
    obtain ⟨_, _, _, _, _, _, _, _, _, _, _, built, same⟩ := taken
    cases same
    exact (Date.ofYearMonthDay?_eq_some_iff.mp built).2
  dsimp only
  split
  · intro instant read
    cases read
    rwa [date_atMidnight]
  · exact isSpanned_none

theorem isSpanned_ofIntervalEnd? (text : List Char) : IsSpanned (ofIntervalEnd? text) :=
  isSpanned_orElse (isSpanned_ofInterchange? text) (isSpanned_ofDate? text)

end Instant

end Rollup
