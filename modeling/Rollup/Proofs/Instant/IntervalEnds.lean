import Mathlib.Data.List.DropRight
import Mathlib.Data.List.TakeWhile
import Rollup.Proofs.Query.Interval
import Rollup.Result.Reconciler

/-!
# Ends of intervals as timestamps

An end of an interval is read by two grammars, a timestamp from a row by five, and blanks around
a timestamp are cut first.  What the two grammars read, the five read alike: a date alone has
nothing behind it that could be a time of day, and blanks in front of it are left out by either
reader.  So the origin of the buckets, the earliest start of an interval, is the instant of a row
whose timestamp is the text of this start.
-/

namespace Rollup

open Calendar Text

namespace Text

variable {text rest middle : List Char} {least most fewest n : Nat}

/-! ## Blanks in front and at the end -/

@[simp]
theorem trimStart_trimStart (text : List Char) : trimStart (trimStart text) = trimStart text :=
  List.dropWhile_idempotent isBlank text

theorem trimStart_suffix (text : List Char) : trimStart text <:+ text :=
  List.dropWhile_suffix isBlank

/-- Whether a text goes on with `rest` right behind a character that is no blank. -/
def FollowsPlain (rest text : List Char) : Prop :=
  ∃ c, isBlank c = false ∧ c :: rest <:+ text

theorem FollowsPlain.suffix (follows : FollowsPlain rest text) : rest <:+ text := by
  obtain ⟨c, _, behind⟩ := follows
  exact (List.suffix_cons c rest).trans behind

theorem FollowsPlain.of_suffix (follows : FollowsPlain rest middle) (behind : middle <:+ text) :
    FollowsPlain rest text := by
  obtain ⟨c, plain, inside⟩ := follows
  exact ⟨c, plain, inside.trans behind⟩

/-- A text that ends in no blank has none to lose at its end. -/
theorem FollowsPlain.trimEnd_eq_self (ends : FollowsPlain [] text) : trimEnd text = text := by
  obtain ⟨c, plain, front, rfl⟩ := ends
  have starts : ∀ d ∈ (front ++ [c]).reverse.head?, isBlank d = false := by
    intro d first
    rw [List.reverse_append] at first
    cases first
    exact plain
  rw [trimEnd, trimStart_eq_self starts, List.reverse_reverse]

/-! ## Digits at the front -/

/-- A number that is read is written in digits at the front. -/
theorem takeNumber_parts (taken : takeNumber least most text = some (n, rest)) :
    ∃ found, text = found ++ rest ∧ least ≤ found.length ∧ ∀ c ∈ found, c.isDigit = true := by
  simp only [takeNumber] at taken
  split at taken
  · cases taken
  next enough =>
    cases taken
    refine ⟨(text.takeWhile Char.isDigit).take most, ?_, Nat.not_lt.mp enough, ?_⟩
    · exact List.prefix_iff_eq_append.mp
        ((List.take_prefix _ _).trans (List.takeWhile_prefix _)) |>.symm
    · intro c listed
      exact List.mem_takeWhile_imp (List.mem_of_mem_take listed)

theorem takeNumber_suffix (taken : takeNumber least most text = some (n, rest)) :
    rest <:+ text := by
  obtain ⟨found, rfl, _⟩ := takeNumber_parts taken
  exact List.suffix_append found rest

theorem takeNumber_followsPlain (positive : 0 < least)
    (taken : takeNumber least most text = some (n, rest)) : FollowsPlain rest text := by
  obtain ⟨found, rfl, enough, digits⟩ := takeNumber_parts taken
  have nonempty : found ≠ [] := List.length_pos_iff.mp (Nat.lt_of_lt_of_le positive enough)
  refine ⟨found.getLast nonempty, not_isBlank_of_isDigit (digits _ (List.getLast_mem nonempty)),
    found.dropLast, ?_⟩
  rw [← List.singleton_append, ← List.append_assoc, List.dropLast_concat_getLast]

/-- A text with a number at the front starts with a digit. -/
theorem exists_isDigit_of_takeNumber (positive : 0 < least)
    (taken : takeNumber least most text = some (n, rest)) :
    ∃ c tail, text = c :: tail ∧ c.isDigit = true := by
  obtain ⟨found, rfl, enough, digits⟩ := takeNumber_parts taken
  cases found with
  | nil => exact absurd enough (Nat.not_le.mpr positive)
  | cons c found => exact ⟨c, found ++ rest, rfl, digits c List.mem_cons_self⟩

theorem trimStart_of_takeNumber (positive : 0 < least)
    (taken : takeNumber least most text = some (n, rest)) : trimStart text = text := by
  obtain ⟨c, tail, rfl, digit⟩ := exists_isDigit_of_takeNumber positive taken
  apply trimStart_eq_self
  intro first listed
  cases listed
  exact not_isBlank_of_isDigit digit

/-- A number is still read where it may have fewer digits. -/
theorem takeNumber_of_fewest {result : Nat × List Char} (fewer : fewest ≤ least)
    (taken : takeNumber least most text = some result) :
    takeNumber fewest most text = some result := by
  simp only [takeNumber] at taken ⊢
  split at taken
  · cases taken
  next enough =>
    rw [if_neg (by omega)]
    exact taken

end Text

namespace Instant

variable {text rest : List Char} {instant : Instant} {n : Nat}

/-! ## What the readers of parts leave -/

theorem skip?_suffix {expected : Char} (taken : skip? expected text = some rest) :
    rest <:+ text := by
  cases text with
  | nil => cases taken
  | cons c tail =>
      rw [skip?] at taken
      split at taken
      · cases taken
        exact List.suffix_cons c rest
      · cases taken

theorem takePart?_followsPlain (taken : takePart? text = some (n, rest)) :
    FollowsPlain rest text :=
  (takeNumber_followsPlain (by decide) taken).of_suffix (trimStart_suffix text)

theorem takeYear?_suffix {year : Int} (taken : takeYear? text = some (year, rest)) :
    rest <:+ text := by
  refine List.IsSuffix.trans ?_ (trimStart_suffix text)
  unfold takeYear? at taken
  split at taken
  next tail starts =>
    obtain ⟨_, read, same⟩ := Option.map_eq_some_iff.mp taken
    cases same
    rw [starts]
    exact (takeNumber_suffix read).trans (List.suffix_cons '-' tail)
  next tail starts =>
    obtain ⟨_, read, same⟩ := Option.map_eq_some_iff.mp taken
    cases same
    rw [starts]
    exact (takeNumber_suffix read).trans (List.suffix_cons '+' tail)
  next =>
    obtain ⟨_, read, same⟩ := Option.map_eq_some_iff.mp taken
    cases same
    exact takeNumber_suffix read

theorem takeFraction?_suffix (taken : takeFraction? text = some (n, rest)) : rest <:+ text := by
  unfold takeFraction? at taken
  split at taken
  next tail =>
    dsimp only at taken
    split at taken
    · cases taken
    · cases taken
      exact (List.drop_suffix _ tail).trans (List.suffix_cons '.' tail)
  next =>
    cases taken
    exact List.suffix_rfl

theorem takeOffsetSign?_suffix {negative : Bool}
    (taken : takeOffsetSign? text = some (negative, rest)) : rest <:+ text := by
  unfold takeOffsetSign? at taken
  split at taken
  case h_4 => cases taken
  all_goals
    cases taken
    exact List.suffix_cons _ rest

theorem takeOffset?_followsPlain {offset : Int} (taken : takeOffset? text = some (offset, rest)) :
    FollowsPlain rest text := by
  unfold takeOffset? at taken
  split at taken
  · cases taken
    exact ⟨'Z', by decide, List.suffix_rfl⟩
  · cases taken
    exact ⟨'z', by decide, List.suffix_rfl⟩
  · simp only [Option.bind_eq_bind, Option.bind_eq_some_iff] at taken
    obtain ⟨⟨negative, afterSign⟩, sign, ⟨hours, afterHours⟩, hoursRead, afterColon, colon,
      ⟨minutes, afterMinutes⟩, minutesRead, total, _, same⟩ := taken
    cases same
    have behindHours := (skip?_suffix colon).trans (takeNumber_suffix hoursRead)
    exact (takeNumber_followsPlain (by decide) minutesRead).of_suffix <|
      behindHours.trans (takeOffsetSign?_suffix sign)

/-- A date is written up to a character that is no blank, its last digit. -/
theorem takeDate?_followsPlain {date : Date} (taken : takeDate? text = some (date, rest)) :
    FollowsPlain rest text := by
  simp only [takeDate?, Option.bind_eq_bind, Option.bind_eq_some_iff] at taken
  obtain ⟨⟨year, afterYear⟩, yearRead, beforeMonth, hyphen, ⟨month, afterMonth⟩, monthRead,
    beforeDay, secondHyphen, ⟨day, afterDay⟩, dayRead, _, _, same⟩ := taken
  cases same
  have behindYear := (skip?_suffix hyphen).trans (takeYear?_suffix yearRead)
  have behindMonth := (skip?_suffix secondHyphen).trans (takePart?_followsPlain monthRead).suffix
  exact (takePart?_followsPlain dayRead).of_suffix (behindMonth.trans behindYear)

@[simp]
theorem takeDate?_trimStart (text : List Char) : takeDate? (trimStart text) = takeDate? text := by
  rw [takeDate?, takeDate?, takeYear?, takeYear?, trimStart_trimStart]

/-! ## The interchange form and dates -/

/-- A number in full width, at the front of a text, is no different as a part. -/
theorem takePart?_of_takeNumber (taken : takeNumber 2 2 text = some (n, rest)) :
    takePart? text = some (n, rest) := by
  rw [takePart?, trimStart_of_takeNumber (by decide) taken]
  exact takeNumber_of_fewest (by decide) taken

theorem takeYear?_of_takeNumber (taken : takeNumber 4 4 text = some (n, rest)) :
    takeYear? text = some ((n : Int), rest) := by
  obtain ⟨c, tail, starts, digit⟩ := exists_isDigit_of_takeNumber (by decide) taken
  rw [takeYear?, trimStart_of_takeNumber (by decide) taken]
  split
  next =>
    cases starts
    cases digit
  next =>
    cases starts
    cases digit
  next => rw [takeNumber_of_fewest (by decide) taken, Option.map_some]

/-- A text in the interchange form is a date with more behind it, and has no blank at its ends:
behind each of the three characters that may join them the time is read alike. -/
theorem ofInterchange?_parts (read : ofInterchange? text = some instant) :
    ∃ date rest, takeDate? text = some (date, rest) ∧ FollowsPlain [] rest ∧
      trimStart text = text := by
  rw [ofInterchange?] at read
  obtain ⟨⟨year, afterYear⟩, yearRead, read⟩ := Option.bind_eq_some_iff.mp read
  obtain ⟨beforeMonth, hyphen, read⟩ := Option.bind_eq_some_iff.mp read
  obtain ⟨⟨month, afterMonth⟩, monthRead, read⟩ := Option.bind_eq_some_iff.mp read
  obtain ⟨beforeDay, secondHyphen, read⟩ := Option.bind_eq_some_iff.mp read
  obtain ⟨⟨day, afterDay⟩, dayRead, read⟩ := Option.bind_eq_some_iff.mp read
  dsimp -zeta only at hyphen secondHyphen read
  extract_lets clock at read
  have behindJoint : ∀ rest, clock rest = some instant →
      (∃ date, Date.ofYearMonthDay? year month day = some date) ∧ FollowsPlain [] rest := by
    intro rest clockRead
    simp only [clock, Option.bind_eq_bind, Option.bind_eq_some_iff] at clockRead
    obtain ⟨⟨hour, afterHour⟩, hourRead, beforeMinute, colon, ⟨minute, afterMinute⟩, minuteRead,
      beforeSecond, secondColon, ⟨second, afterSecond⟩, secondRead, ⟨nanosecond, afterFraction⟩,
      fractionRead, ⟨offset, behind⟩, offsetRead, date, built, ended⟩ := clockRead
    have nothing : behind = [] := by
      split at ended
      next finished => exact List.isEmpty_iff.mp finished
      next => cases ended
    cases nothing
    have behindHour := (skip?_suffix colon).trans (takeNumber_suffix hourRead)
    have behindMinute := (skip?_suffix secondColon).trans (takeNumber_suffix minuteRead)
    have behindSecond := (takeFraction?_suffix fractionRead).trans (takeNumber_suffix secondRead)
    exact ⟨⟨date, built⟩, (takeOffset?_followsPlain offsetRead).of_suffix <|
      behindSecond.trans (behindMinute.trans behindHour)⟩
  have joined : ∃ joint rest, afterDay = joint :: rest ∧ clock rest = some instant := by
    split at read
    · exact ⟨'T', _, rfl, read⟩
    · exact ⟨'t', _, rfl, read⟩
    · exact ⟨' ', _, rfl, read⟩
    · cases read
  obtain ⟨joint, rest, rfl, clockRead⟩ := joined
  obtain ⟨⟨date, built⟩, ends⟩ := behindJoint rest clockRead
  refine ⟨date, joint :: rest, ?_, ends.of_suffix (List.suffix_cons joint rest),
    trimStart_of_takeNumber (by decide) yearRead⟩
  simp only [takeDate?, takeYear?_of_takeNumber yearRead, hyphen, takePart?_of_takeNumber monthRead,
    secondHyphen, takePart?_of_takeNumber dayRead, built, Option.bind_eq_bind, Option.bind_some]
  rfl

/-- A date alone is not in the interchange form. -/
theorem ofInterchange?_of_takeDate? {date : Date} (taken : takeDate? text = some (date, [])) :
    ofInterchange? text = none := by
  rw [Option.eq_none_iff_forall_ne_some]
  intro instant read
  obtain ⟨_, rest, other, ⟨c, _, behind⟩, _⟩ := ofInterchange?_parts read
  rw [taken] at other
  cases other
  cases List.suffix_nil.mp behind

theorem ofDate?_eq_some_iff :
    ofDate? text = some instant ↔
      ∃ date, takeDate? text = some (date, []) ∧ atMidnight date = instant := by
  rw [ofDate?, Option.bind_eq_bind, Option.bind_eq_some_iff]
  constructor
  · rintro ⟨⟨date, rest⟩, taken, ended⟩
    dsimp only at ended
    split at ended
    next finished =>
      cases List.isEmpty_iff.mp finished
      exact ⟨date, taken, Option.some.inj ended⟩
    next => cases ended
  · rintro ⟨date, taken, rfl⟩
    exact ⟨(date, []), taken, rfl⟩

/-! ## Ends of intervals -/

/-- What an end of an interval denotes, its text denotes without the blanks around it too. -/
theorem ofIntervalEnd?_trim (read : ofIntervalEnd? text = some instant) :
    ofIntervalEnd? (trim text) = some instant := by
  rw [ofIntervalEnd?] at read
  cases interchange : ofInterchange? text with
  | some found =>
      obtain ⟨date, rest, taken, ends, unblanked⟩ := ofInterchange?_parts interchange
      have kept : trim text = text := by
        rw [trim, unblanked]
        exact (ends.of_suffix (takeDate?_followsPlain taken).suffix).trimEnd_eq_self
      rwa [kept, ofIntervalEnd?]
  | none =>
      rw [interchange] at read
      obtain ⟨date, taken, midnight⟩ := ofDate?_eq_some_iff.mp read
      have trimmed := (takeDate?_trimStart text).trans taken
      have kept : trim text = trimStart text := (takeDate?_followsPlain trimmed).trimEnd_eq_self
      rw [kept, ofIntervalEnd?, ofInterchange?_of_takeDate? trimmed]
      exact ofDate?_eq_some_iff.mpr ⟨date, trimmed, midnight⟩

/-- Behind a date alone there is no time of day for the grammars in between to read. -/
theorem ofText?_of_ofIntervalEnd? {text : String}
    (read : ofIntervalEnd? (trim text.toList) = some instant) : ofText? text = some instant := by
  rw [ofIntervalEnd?] at read
  rw [ofText?]
  cases interchange : ofInterchange? (trim text.toList) with
  | some found =>
      rw [interchange] at read
      exact read
  | none =>
      rw [interchange] at read
      obtain ⟨date, taken, _⟩ := ofDate?_eq_some_iff.mp read
      have offset : ofDateTimeOffset? (trim text.toList) = none := by
        rw [ofDateTimeOffset?, taken]
        rfl
      have spaced : ofDateTime? (fun rest => some (trimStart rest)) (trim text.toList) = none := by
        rw [ofDateTime?, taken]
        rfl
      have joined : ofDateTime? (skip? 'T') (trim text.toList) = none := by
        rw [ofDateTime?, taken]
        rfl
      simp only [offset, spaced, joined]
      exact read

end Instant

/-! ## The origin of the buckets -/

namespace Bucketing

/-- The earliest start is found from the left. -/
theorem foldl_earlier {intervals : List Interval} {first earliest : Instant}
    (given : earliest = first ∨ ∃ interval ∈ intervals, earliest = interval.start)
    (firstNotBefore : first.isBefore earliest = false)
    (notBefore : ∀ interval ∈ intervals, interval.start.isBefore earliest = false) :
    intervals.foldl (fun found interval => found.earlier interval.start) first = earliest := by
  induction intervals generalizing first with
  | nil =>
      rcases given with rfl | ⟨_, nowhere, _⟩
      · rfl
      · cases nowhere
  | cons interval rest inductionHypothesis =>
      obtain ⟨startNotBefore, restNotBefore⟩ := List.forall_mem_cons.mp notBefore
      rw [List.foldl_cons, Instant.earlier]
      rw [List.exists_mem_cons_iff] at given
      split
      next before =>
        refine inductionHypothesis ?_ startNotBefore restNotBefore
        rcases given with rfl | given
        · rw [startNotBefore] at before
          cases before
        · exact given
      next notEarlier =>
        refine inductionHypothesis ?_ firstNotBefore restNotBefore
        rcases given with given | rfl | given
        · exact .inl given
        · exact .inl (Instant.eq_of_not_isBefore (Bool.eq_false_iff.mpr notEarlier) firstNotBefore)
        · exact .inr given

/-- The origin of some intervals is the start of the one that starts first. -/
theorem origin_ofIntervals {granularity : Granularity} {intervals : List Interval}
    {interval : Interval} (member : interval ∈ intervals)
    (first : ∀ other ∈ intervals, other.start.isBefore interval.start = false) :
    (ofIntervals granularity intervals).origin = interval.start := by
  cases intervals with
  | nil => cases member
  | cons head rest =>
      obtain ⟨headNotBefore, restNotBefore⟩ := List.forall_mem_cons.mp first
      refine foldl_earlier ?_ headNotBefore restNotBefore
      rcases List.mem_cons.mp member with rfl | later
      · exact .inl rfl
      · exact .inr ⟨interval, later, rfl⟩

end Bucketing

/-! ## Timestamps of rows -/

namespace Reconciler

variable {bucketing : Bucketing}

/-- A row of the one bucket for all time carries no time and is of the origin. -/
theorem timestamp_nil (whole : bucketing.granularity = .all) :
    timestamp bucketing [] = .ok bucketing.origin := by
  have untimed : bucketing.start [] = .ok bucketing.origin := by
    rw [Bucketing.start, whole]
    rfl
  rw [timestamp, whole]
  exact untimed

/-- A row that is not put into a bucket is of the instant that its text denotes. -/
theorem timestamp_text (raw : bucketing.granularity = .none) {text : String} {instant : Instant}
    (read : Instant.ofText? text = some instant) :
    timestamp bucketing [.text text] = .ok instant := by
  have grouped : Granularity.none.groupsByTimestamp = true := rfl
  have shown : [Cell.text text].head?.bind Cell.text? = some text := rfl
  rw [timestamp, raw, if_pos grouped, shown]
  dsimp only
  rw [read]

end Reconciler

namespace Interval

/-- What the text of an end of an interval denotes, it denotes as a timestamp of a row.  So the
origin of the buckets of some intervals is the instant of a row whose timestamp is the text that
the first of them to start was written with. -/
theorem ends_read_as_timestamps :
    (∀ (text : String) (instant : Instant),
      Instant.ofIntervalEnd? text.toList = some instant → Instant.ofText? text = some instant) ∧
    ∀ (intervals : List Interval) (interval : Interval) (start stop : String),
      interval ∈ intervals →
      (∀ other ∈ intervals, other.start.isBefore interval.start = false) →
      '/' ∉ start.toList → Interval.ofText (start ++ "/" ++ stop) = .ok interval →
      Reconciler.timestamp (.ofIntervals .all intervals) [] = .ok interval.start ∧
        Reconciler.timestamp (.ofIntervals .none intervals) [.text start] = .ok interval.start := by
  refine ⟨fun text instant read => Instant.ofText?_of_ofIntervalEnd?
    (Instant.ofIntervalEnd?_trim read), ?_⟩
  intro intervals interval start stop member first unslashed read
  obtain ⟨written, _, cut, startRead, _⟩ := ofText_eq_ok_iff.mp read
  rw [String.toList_append, String.toList_append, List.append_assoc] at cut
  cases (cutAtSlash?_append unslashed stop.toList).symm.trans cut
  refine ⟨?_, Reconciler.timestamp_text rfl (Instant.ofText?_of_ofIntervalEnd? startRead)⟩
  rw [Reconciler.timestamp_nil rfl, Bucketing.origin_ofIntervals member first]

/-- The leap day in one digit for its month, with blanks around it, is where the second of two
intervals starts, the earlier one. -/
theorem ends_read_as_timestamps_of_leap_day :
    ∃ march leapDay,
      Interval.ofText "2024-03-01T01:00:00+01:00/2024-04-01" = .ok march ∧
      Interval.ofText " 2024-2-29 /2024-03-01" = .ok leapDay ∧
      Instant.ofText? " 2024-2-29" = some leapDay.start ∧
      Reconciler.timestamp (.ofIntervals .all [march, leapDay]) [] = .ok leapDay.start ∧
      Reconciler.timestamp (.ofIntervals .none [march, leapDay]) [.text " 2024-2-29 "] =
        .ok leapDay.start := by
  let march : Interval := ⟨.ofSecond 1709251200, .ofSecond 1711929600⟩
  let leapDay : Interval := ⟨.ofSecond 1709164800, .ofSecond 1709251200⟩
  have marchRead : Interval.ofText "2024-03-01T01:00:00+01:00/2024-04-01" = .ok march := by
    decide
  have leapDayRead : Interval.ofText (" 2024-2-29 " ++ "/" ++ "2024-03-01") = .ok leapDay := by
    decide
  exact ⟨march, leapDay, marchRead, leapDayRead,
    ends_read_as_timestamps.1 " 2024-2-29" leapDay.start (by decide),
    ends_read_as_timestamps.2 [march, leapDay] leapDay " 2024-2-29 " "2024-03-01" (by decide)
      (by decide) (by decide) leapDayRead⟩

end Interval

end Rollup
