import Rollup.Proofs.Instant.Written

/-!
# Dates with times of day

A date and a time of day are written with a fraction of so many digits, joined by a space or by
a `T`, in universal time or by a clock that is some minutes ahead of it.  The readers are tried
one after the other, and every one of them has either no reading of such a text or the same: the
instant, cut to the digits of the fraction.  The text in whole seconds, which statements compare
with, is such a text.
-/

namespace Rollup

open Calendar Text

namespace Instant

variable {instant : Instant} {digits : Nat} {joint : Char}

/-! ## Fractions of so many digits -/

/-- A fraction in so many digits, without its point if there are none. -/
def fractionDigits (digits : Nat) (instant : Instant) : List Char :=
  if digits = 0 then []
  else '.' :: paddedDigits digits (instant.subsecond / 10 ^ (9 - digits))

theorem isFraction_of_le {nanosecond : Nat} (fewer : nanosecond ≤ instant.nanosecond) :
    IsFraction instant.second nanosecond := by
  have valid := instant.fraction
  simp only [IsFraction] at valid ⊢
  omega

/-- The latest instant so far that a fraction of so many digits can show. -/
def cut (digits : Nat) (instant : Instant) : Instant :=
  ⟨instant.second, instant.nanosecond / 10 ^ (9 - digits) * 10 ^ (9 - digits),
    isFraction_of_le (Nat.div_mul_le_self _ _)⟩

theorem pow_mul_pow (bounded : digits ≤ 9) : 10 ^ digits * 10 ^ (9 - digits) = 1000000000 := by
  rw [← Nat.pow_add, Nat.add_sub_cancel' bounded]

/-- Cutting the fraction of a leap second leaves it a leap second. -/
theorem nanosecond_cut (instant : Instant) (bounded : digits ≤ 9) :
    instant.subsecond / 10 ^ (9 - digits) * 10 ^ (9 - digits) +
        instant.nanosecond / 1000000000 * 1000000000 =
      instant.nanosecond / 10 ^ (9 - digits) * 10 ^ (9 - digits) := by
  have positive : 0 < 10 ^ (9 - digits) := Nat.pow_pos (by decide)
  have whole : instant.nanosecond =
      instant.subsecond + instant.nanosecond / 1000000000 * 10 ^ digits * 10 ^ (9 - digits) := by
    rw [Nat.mul_assoc, pow_mul_pow bounded, subsecond, Nat.mul_comm]
    exact (Nat.mod_add_div _ _).symm
  calc
    _ = (instant.subsecond / 10 ^ (9 - digits) +
          instant.nanosecond / 1000000000 * 10 ^ digits) * 10 ^ (9 - digits) := by
        rw [Nat.add_mul, Nat.mul_assoc _ (10 ^ digits), pow_mul_pow bounded]
    _ = (instant.subsecond + instant.nanosecond / 1000000000 * 10 ^ digits *
          10 ^ (9 - digits)) / 10 ^ (9 - digits) * 10 ^ (9 - digits) := by
        rw [Nat.add_mul_div_right _ _ positive]
    _ = _ := by rw [← whole]

/-- A text that can follow a fraction, or the seconds if there is none: it adds no digit to
them, and no blank to the end of the text. -/
structure FollowsFraction (rest : List Char) : Prop where
  undigited : rest.takeWhile Char.isDigit = []
  unpointed : rest.head? ≠ some '.'
  unblanked : ∀ c ∈ rest.getLast?, isBlank c = false

theorem followsFraction_nil : FollowsFraction [] where
  undigited := rfl
  unpointed := nofun
  unblanked := nofun

theorem takeFraction?_fractionDigits (bounded : digits ≤ 9) {rest : List Char}
    (follows : FollowsFraction rest) :
    takeFraction? (instant.fractionDigits digits ++ rest) =
      some (instant.subsecond / 10 ^ (9 - digits) * 10 ^ (9 - digits), rest) := by
  rw [fractionDigits]
  split
  next none =>
    have nothing : instant.subsecond / 10 ^ (9 - digits) = 0 := by
      rw [none]
      exact Nat.div_eq_of_lt instant.subsecond_lt
    rw [nothing, Nat.zero_mul, List.nil_append]
    unfold takeFraction?
    split
    · exact absurd rfl follows.unpointed
    · rfl
  next some =>
    have fits : instant.subsecond / 10 ^ (9 - digits) < 10 ^ digits := by
      apply Nat.div_lt_of_lt_mul
      rw [Nat.mul_comm, pow_mul_pow bounded]
      exact instant.subsecond_lt
    exact takeFraction?_paddedDigits (Nat.pos_of_ne_zero some) bounded fits
      follows.undigited

/-! ## The interchange form -/

/-- A date and a time of day that the interchange form joins, up to what its offset is. -/
theorem ofInterchange?_written (written : 0 ≤ instant.date.year ∧ instant.date.year ≤ 9999)
    (joins : joint = 'T' ∨ joint = ' ') {rest after : List Char} {nanosecond : Nat}
    (fraction : takeFraction? rest = some (nanosecond, after)) :
    ofInterchange? (instant.date.text ++ joint :: (instant.clockText ++ rest)) =
      (takeOffset? after).bind fun (offset, behind) =>
        if behind.isEmpty then
          ofClock? instant.date instant.hour instant.minute instant.secondOfMinute nanosecond offset
        else none := by
  have month : instant.date.month < 100 := Nat.lt_trans instant.date.month_lt (by decide)
  have day : instant.date.dayOfMonth < 100 := Nat.lt_trans instant.date.dayOfMonth_lt (by decide)
  have hour : instant.hour < 100 := Nat.lt_trans instant.hour_lt (by decide)
  have minute : instant.minute < 100 := Nat.lt_trans instant.minute_lt (by decide)
  have second : instant.secondOfMinute < 100 :=
    Nat.lt_of_le_of_lt instant.secondOfMinute_le (by decide)
  have width : (paddedDigits 4 instant.date.year.toNat).length = 4 :=
    length_paddedDigits (by decide) (by omega)
  have date : Date.ofYearMonthDay? (instant.date.year.toNat : Int) instant.date.month
      instant.date.dayOfMonth = some instant.date := by
    rw [Int.toNat_of_nonneg written.1]
    exact Date.ofYearMonthDay?_parts (spansYear_of_written written)
  have layout : instant.date.text ++ joint :: (instant.clockText ++ rest) =
      paddedDigits 4 instant.date.year.toNat ++
        ('-' :: (paddedDigits 2 instant.date.month ++
          ('-' :: (paddedDigits 2 instant.date.dayOfMonth ++
            (joint :: (paddedDigits 2 instant.hour ++ (':' :: (paddedDigits 2 instant.minute ++
              (':' :: (paddedDigits 2 instant.secondOfMinute ++ rest)))))))))) := by
    rw [Date.text, yearText, if_pos written]
    simp only [clockText, List.append_assoc, List.cons_append]
  rw [layout, ofInterchange?, takeNumber_full width]
  dsimp only [Option.bind_eq_bind, Option.bind_some]
  rw [skip?_cons, Option.bind_some, takeNumber_two month]
  dsimp only [Option.bind_some]
  rw [skip?_cons, Option.bind_some, takeNumber_two day]
  rcases joins with rfl | rfl
  all_goals
    simp only [Option.bind_some]
    rw [takeNumber_two hour]
    dsimp only [Option.bind_some]
    rw [skip?_cons, Option.bind_some, takeNumber_two minute]
    dsimp only [Option.bind_some]
    rw [skip?_cons, Option.bind_some, takeNumber_two second]
    dsimp only [Option.bind_some]
    rw [fraction, Option.bind_some]
    simp only [date, Option.bind_some]

/-! ## Clocks of other time zones -/

/-- A leap second is one on a clock that is whole minutes ahead. -/
theorem isFraction_shifted (minutes : Int) (instant : Instant) :
    IsFraction (instant.second + 60 * minutes) instant.nanosecond := by
  have valid := instant.fraction
  simp only [IsFraction] at valid ⊢
  omega

/-- The instant at which a clock in universal time reads what one does that is so many minutes
ahead. -/
def shifted (minutes : Int) (instant : Instant) : Instant :=
  ⟨instant.second + 60 * minutes, instant.nanosecond, isFraction_shifted minutes instant⟩

theorem ofClock?_shifted (spanned : spansYear instant.date.year = true) (minutes : Int)
    (bounded : digits ≤ 9) :
    let zoned := instant.shifted minutes
    ofClock? zoned.date zoned.hour zoned.minute zoned.secondOfMinute
        (instant.subsecond / 10 ^ (9 - digits) * 10 ^ (9 - digits)) minutes =
      some (instant.cut digits) := by
  intro zoned
  have second : zoned.second - 60 * minutes = instant.second := Int.add_sub_cancel _ _
  have nanosecond := nanosecond_cut instant bounded
  have valid : IsFraction (zoned.second - 60 * minutes)
      (instant.subsecond / 10 ^ (9 - digits) * 10 ^ (9 - digits) +
        zoned.nanosecond / 1000000000 * 1000000000) := by
    rw [second]
    exact nanosecond ▸ (instant.cut digits).fraction
  have same : Instant.mk _ _ valid = instant.cut digits := by
    simp only [cut, Instant.mk.injEq]
    exact ⟨second, nanosecond⟩
  rw [ofClock?_offset valid]
  · rw [same]
  · rw [same]
    exact spanned

/-! ## Dates with times of day -/

/-- A date and a time of day with a fraction of so many digits, joined by a character. -/
def dateTimeText (joint : Char) (digits : Nat) (instant : Instant) : List Char :=
  instant.date.text ++ joint :: (instant.clockText ++ instant.fractionDigits digits)

theorem dateTimeText_append (rest : List Char) :
    instant.dateTimeText joint digits ++ rest =
      instant.date.text ++ joint ::
        (instant.clockText ++ (instant.fractionDigits digits ++ rest)) := by
  simp only [dateTimeText, List.append_assoc, List.cons_append]

/-- No digit follows the seconds. -/
theorem fractionDigits_apart {rest : List Char} (follows : FollowsFraction rest) :
    (instant.fractionDigits digits ++ rest).takeWhile Char.isDigit = [] := by
  rw [fractionDigits]
  split
  · exact follows.undigited
  · rfl

theorem not_isBlank_of_starts {rest : List Char} :
    ∀ c ∈ (instant.dateTimeText joint digits ++ rest).head?, isBlank c = false := by
  intro c starts
  rw [dateTimeText_append, Date.text, yearText] at starts
  split at starts
  · obtain ⟨first, others, written⟩ := List.exists_cons_of_ne_nil
      (paddedDigits_ne_nil 4 instant.date.year.toNat)
    rw [written] at starts
    cases starts
    exact not_isBlank_of_isDigit (isDigit_of_mem_paddedDigits (written ▸ List.mem_cons_self))
  · cases starts
    split <;> rfl

/-- A number ends the text. -/
theorem exists_number_at_end (joint : Char) (digits : Nat) (instant : Instant) :
    ∃ front width number,
      instant.dateTimeText joint digits = front ++ paddedDigits width number := by
  rw [dateTimeText, fractionDigits]
  split
  · refine ⟨instant.date.text ++ (joint :: paddedDigits 2 instant.hour ++
      (':' :: paddedDigits 2 instant.minute ++ [':'])), 2, instant.secondOfMinute, ?_⟩
    simp only [clockText, List.append_assoc, List.cons_append, List.nil_append, List.append_nil]
  · refine ⟨instant.date.text ++ joint :: (instant.clockText ++ ['.']), digits,
      instant.subsecond / 10 ^ (9 - digits), ?_⟩
    simp only [List.append_assoc, List.cons_append, List.nil_append]

/-- There are no blanks around a date and a time of day, and none behind what follows them. -/
theorem trim_dateTimeText {rest : List Char} (follows : FollowsFraction rest) :
    trim (instant.dateTimeText joint digits ++ rest) =
      instant.dateTimeText joint digits ++ rest := by
  apply trim_eq_self not_isBlank_of_starts
  intro c last
  cases rest with
  | nil =>
      obtain ⟨front, width, number, layout⟩ := exists_number_at_end joint digits instant
      rw [List.append_nil, layout] at last
      exact not_isBlank_of_isDigit (isDigit_of_stops last)
  | cons first rest =>
      rw [List.getLast?_append, Option.or_of_isSome (List.getLast?_isSome.mpr
        (List.cons_ne_nil first rest))] at last
      exact follows.unblanked c last

/-- The interchange form has no other reading of a date and a time of day than that of its
offset. -/
theorem ofInterchange?_dateTimeText
    (written : 0 ≤ instant.date.year ∧ instant.date.year ≤ 9999) (bounded : digits ≤ 9)
    (joins : joint = 'T' ∨ joint = ' ') {rest : List Char} (follows : FollowsFraction rest) :
    ofInterchange? (instant.dateTimeText joint digits ++ rest) =
      (takeOffset? rest).bind fun (offset, behind) =>
        if behind.isEmpty then
          ofClock? instant.date instant.hour instant.minute instant.secondOfMinute
            (instant.subsecond / 10 ^ (9 - digits) * 10 ^ (9 - digits)) offset
        else none := by
  rw [dateTimeText_append]
  exact ofInterchange?_written written joins (takeFraction?_fractionDigits bounded follows)

/-- A date before the interchange form, or after it, has no reading in it. -/
theorem ofInterchange?_unwritten (outside : ¬ (0 ≤ instant.date.year ∧ instant.date.year ≤ 9999))
    (rest : List Char) : ofInterchange? (instant.date.text ++ rest) = none := by
  have layout : instant.date.text ++ rest = yearText instant.date.year ++
      ('-' :: (paddedDigits 2 instant.date.month ++
        ('-' :: (paddedDigits 2 instant.date.dayOfMonth ++ rest)))) := by
    simp only [Date.text, List.append_assoc, List.cons_append]
  rw [layout, yearText, if_neg outside, ofInterchange?,
    takeNumber_eq_none (by decide) (by split <;> rfl)]
  rfl

/-- A time of day is read with its fraction. -/
theorem takeClock?_fractionDigits (bounded : digits ≤ 9) {rest : List Char}
    (follows : FollowsFraction rest) :
    takeClock? (instant.clockText ++ (instant.fractionDigits digits ++ rest)) =
      some ((instant.hour, instant.minute, instant.secondOfMinute,
        instant.subsecond / 10 ^ (9 - digits) * 10 ^ (9 - digits)), rest) :=
  takeClock?_clockText instant (fractionDigits_apart follows)
    (takeFraction?_fractionDigits bounded follows)

/-- No blanks stand in front of a time of day. -/
@[simp]
theorem trimStart_clockText (rest : List Char) :
    trimStart (instant.clockText ++ rest) = instant.clockText ++ rest := by
  rw [clockText, List.append_assoc, List.append_assoc]
  exact trimStart_paddedDigits _ _ _

/-- A date, a space and a time of day are read up to the offset. -/
theorem ofDateTimeOffset?_dateTimeText (spanned : spansYear instant.date.year = true)
    (bounded : digits ≤ 9) {rest : List Char} (follows : FollowsFraction rest) :
    ofDateTimeOffset? (instant.dateTimeText ' ' digits ++ rest) =
      (takeLooseOffset? (trimStart rest)).bind fun (offset, behind) =>
        if behind.isEmpty then
          ofClock? instant.date instant.hour instant.minute instant.secondOfMinute
            (instant.subsecond / 10 ^ (9 - digits) * 10 ^ (9 - digits)) offset
        else none := by
  have blank (text : List Char) : trimStart (' ' :: text) = trimStart text := rfl
  rw [dateTimeText_append, ofDateTimeOffset?, takeDate?_text spanned rfl]
  dsimp only [Option.bind_eq_bind, Option.bind_some]
  rw [blank, trimStart_clockText, takeClock?_fractionDigits bounded follows]
  rfl

/-- The loose form with an offset has no reading of a time of day that is not behind blanks. -/
theorem ofDateTimeOffset?_joined (spanned : spansYear instant.date.year = true)
    (rest : List Char) :
    ofDateTimeOffset? (instant.date.text ++ 'T' :: rest) = none := by
  rw [ofDateTimeOffset?, takeDate?_text spanned rfl]
  rfl

/-- A date and a time of day are read with what joins them. -/
theorem ofDateTime?_dateTimeText (joint : Char) (between : List Char → Option (List Char))
    (spanned : spansYear instant.date.year = true) (bounded : digits ≤ 9)
    (apart : ∀ text : List Char, (joint :: text).takeWhile Char.isDigit = [])
    (joined : ∀ rest, between (joint :: (instant.clockText ++ rest)) =
      some (instant.clockText ++ rest)) :
    ofDateTime? between (instant.dateTimeText joint digits ++ []) =
      ofClock? instant.date instant.hour instant.minute instant.secondOfMinute
        (instant.subsecond / 10 ^ (9 - digits) * 10 ^ (9 - digits)) 0 := by
  rw [dateTimeText_append, ofDateTime?, takeDate?_text spanned (apart _)]
  dsimp only [Option.bind_eq_bind, Option.bind_some]
  rw [joined, Option.bind_some, takeClock?_fractionDigits bounded followsFraction_nil]
  rfl

/-- A time of day behind a `T` has no reading as one behind blanks. -/
theorem ofDateTime?_joined (spanned : spansYear instant.date.year = true) (rest : List Char) :
    ofDateTime? (fun text => some (trimStart text)) (instant.date.text ++ 'T' :: rest) = none := by
  rw [ofDateTime?, takeDate?_text spanned rfl]
  rfl

/-! ## Texts read back -/

@[simp]
theorem shifted_zero : instant.shifted 0 = instant := by
  simp [shifted]

/-- A date and a time of day in universal time are read up to the digits of the fraction. -/
theorem ofText?_dateTimeText (spanned : spansYear instant.date.year = true)
    (bounded : digits ≤ 9) (joins : joint = 'T' ∨ joint = ' ') :
    ofText? (String.ofList (instant.dateTimeText joint digits)) = some (instant.cut digits) := by
  have notInterchange : ofInterchange? (instant.dateTimeText joint digits ++ []) = none := by
    by_cases written : 0 ≤ instant.date.year ∧ instant.date.year ≤ 9999
    · exact ofInterchange?_dateTimeText written bounded joins followsFraction_nil
    · rw [dateTimeText_append]
      exact ofInterchange?_unwritten written _
  have clock : ofClock? instant.date instant.hour instant.minute instant.secondOfMinute
      (instant.subsecond / 10 ^ (9 - digits) * 10 ^ (9 - digits)) 0 =
        some (instant.cut digits) := by
    have universal := ofClock?_shifted spanned 0 bounded
    rwa [shifted_zero] at universal
  rw [← List.append_nil (instant.dateTimeText joint digits)]
  simp only [ofText?, String.toList_ofList, trim_dateTimeText followsFraction_nil, notInterchange,
    Option.orElse_eq_orElse, Option.orElse_none]
  rcases joins with rfl | rfl
  · rw [ofDateTime?_dateTimeText 'T' (skip? 'T') spanned bounded (fun _ => rfl)
      (fun _ => skip?_cons _ _), clock, dateTimeText_append, ofDateTimeOffset?_joined spanned,
      ofDateTime?_joined spanned]
    rfl
  · have noOffset : ofDateTimeOffset? (instant.dateTimeText ' ' digits ++ []) = none :=
      ofDateTimeOffset?_dateTimeText spanned bounded followsFraction_nil
    rw [noOffset, ofDateTime?_dateTimeText ' ' (fun text => some (trimStart text)) spanned bounded
      (fun _ => rfl) (fun rest => congrArg some (trimStart_clockText rest)), clock]
    rfl

/-! ## The text in whole seconds -/

/-- The second that an instant lies in: a leap second is one of its own. -/
def wholeSecond (instant : Instant) : Instant :=
  ⟨instant.second, 0 + instant.nanosecond / 1000000000 * 1000000000,
    instant.isFraction_replaced (by decide)⟩

/-- The text in whole seconds is read back as the second that the instant lies in. -/
theorem ofText?_secondText (spanned : spansYear instant.date.year = true) :
    ofText? instant.secondText = some instant.wholeSecond := by
  have text : instant.secondText = String.ofList (instant.dateTimeText ' ' 0) := by
    simp only [secondText, dateTimeText, fractionDigits, if_true, List.append_nil]
  have second : instant.cut 0 = instant.wholeSecond := by
    simp [cut, wholeSecond]
  rw [text, ← second]
  exact ofText?_dateTimeText spanned (Nat.zero_le 9) (.inr rfl)

end Instant

end Rollup
