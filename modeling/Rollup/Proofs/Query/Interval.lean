import Rollup.Proofs.Plan.Interval

/-!
# Intervals read back

The text of an interval is in universal time and has as many digits of a fraction as it
needs, whatever the text that the interval was read from had.  Nothing of the interval is
lost on the way: each end is read back from its text in full, and a text in full holds no
slash and no blank for the reader of intervals to cut at.
-/

namespace Rollup

open Calendar Text

namespace Instant

variable {instant : Instant}

/-! ## The fraction -/

/-- The shortest lossless fraction is read back in front of an offset. -/
theorem takeFraction?_fractionText {subsecond : Nat} (small : subsecond < 1000000000)
    (rest : List Char) :
    takeFraction? (fractionText subsecond ++ '+' :: rest) = some (subsecond, '+' :: rest) := by
  rw [fractionText]
  split
  next none =>
    rw [none]
    rfl
  next =>
    split
    next milliseconds =>
      rw [takeFraction?_paddedDigits (by decide) (by decide) (by omega) rfl]
      congr
      omega
    next =>
      split
      next microseconds =>
        rw [takeFraction?_paddedDigits (by decide) (by decide) (by omega) rfl]
        congr
        omega
      next =>
        rw [takeFraction?_paddedDigits (by decide) (by decide) small rfl]
        congr
        omega

/-! ## The text in full -/

theorem toList_fullText (instant : Instant) :
    instant.fullText.toList = instant.date.text ++ ('T' :: (instant.clockText ++
      (fractionText instant.subsecond ++ ['+', '0', '0', ':', '0', '0']))) := by
  simp only [fullText, String.toList_ofList, List.append_assoc, List.cons_append]

theorem takeOffset?_universal : takeOffset? ['+', '0', '0', ':', '0', '0'] = some (0, []) := by
  decide

/-- An instant is read back from its text in full if its year takes four digits. -/
theorem ofInterchange?_fullText
    (written : 0 ≤ instant.date.year ∧ instant.date.year ≤ 9999) :
    ofInterchange? instant.fullText.toList = some instant := by
  have clock : ofClock? instant.date instant.hour instant.minute instant.secondOfMinute
      instant.subsecond 0 = some instant := by
    have whole : instant.subsecond + instant.nanosecond / 1000000000 * 1000000000 =
        instant.nanosecond := by
      rw [subsecond]
      omega
    rw [ofClock?_parts (spansYear_of_written written) instant.subsecond_lt]
    simp only [whole]
  rw [toList_fullText, ofInterchange?_written written (.inl rfl)
    (takeFraction?_fractionText instant.subsecond_lt _), takeOffset?_universal]
  exact clock

/-- A text in full has neither a blank nor a slash in it. -/
theorem plain_of_mem_fullText :
    ∀ c ∈ instant.fullText.toList, isBlank c = false ∧ c ≠ '/' := by
  have padded (width n : Nat) : ∀ c ∈ paddedDigits width n, isBlank c = false ∧ c ≠ '/' := by
    intro c listed
    have digit : c.isDigit = true := isDigit_of_mem_paddedDigits listed
    refine ⟨not_isBlank_of_isDigit digit, ?_⟩
    rintro rfl
    cases digit
  have year (year : Int) : ∀ c ∈ yearText year, isBlank c = false ∧ c ≠ '/' := by
    rw [yearText]
    split
    next => exact padded 4 year.toNat
    next => exact List.forall_mem_cons.mpr ⟨by split <;> decide, padded 4 year.natAbs⟩
  have fraction (subsecond : Nat) :
      ∀ c ∈ fractionText subsecond, isBlank c = false ∧ c ≠ '/' := by
    rw [fractionText]
    split_ifs
    · exact List.forall_mem_nil _
    all_goals exact List.forall_mem_cons.mpr ⟨by decide, padded _ _⟩
  rw [toList_fullText, Date.text, clockText]
  simp only [List.forall_mem_append, List.forall_mem_cons, List.not_mem_nil, false_implies,
    implies_true, and_true]
  refine ⟨⟨⟨year _, ?_, padded _ _⟩, ?_, padded _ _⟩, ?_, ⟨⟨padded _ _, ?_, padded _ _⟩, ?_,
    padded _ _⟩, fraction _, ?_⟩
  all_goals decide

end Instant

namespace Interval

/-! ## The two ends -/

/-- A text is cut behind a part without a slash. -/
theorem cutAtSlash?_append {first : List Char} (unslashed : '/' ∉ first) (second : List Char) :
    cutAtSlash? (first ++ '/' :: second) = some (first, second) := by
  induction first with
  | nil => rfl
  | cons c rest inductionHypothesis =>
      rw [List.mem_cons, not_or] at unslashed
      rw [List.cons_append, cutAtSlash?, inductionHypothesis unslashed.2]
      · rfl
      · exact fun slash => unslashed.1 slash.symm

/-- The clauses under which a text denotes an interval. -/
theorem ofText_eq_ok_iff {text : String} {interval : Interval} :
    ofText text = .ok interval ↔
      ∃ first second, cutAtSlash? text.toList = some (first, second) ∧
        Instant.ofIntervalEnd? (trim first) = some interval.start ∧
        Instant.ofIntervalEnd? (trim second) = some interval.stop ∧
        interval.stop.isBefore interval.start = false := by
  unfold ofText
  constructor
  · intro read
    split at read
    · cases read
    next first second cut =>
      split at read
      · cases read
      next start startRead =>
        split at read
        · cases read
        next stop stopRead =>
          split at read
          · cases read
          next ordered =>
            cases read
            exact ⟨first, second, cut, startRead, stopRead, Bool.eq_false_iff.mpr ordered⟩
  · rintro ⟨first, second, cut, startRead, stopRead, ordered⟩
    simp only [cut, startRead, stopRead, ordered]
    rfl

theorem ofIntervalEnd?_fullText {instant : Instant}
    (written : 0 ≤ instant.date.year ∧ instant.date.year ≤ 9999) :
    Instant.ofIntervalEnd? (trim instant.fullText.toList) = some instant := by
  have untrimmed : trim instant.fullText.toList = instant.fullText.toList :=
    trim_of_forall_not_isBlank fun _ listed => (Instant.plain_of_mem_fullText _ listed).1
  rw [untrimmed, Instant.ofIntervalEnd?, Instant.ofInterchange?_fullText written]
  rfl

/-- An interval that is read from a text starts where it ends or before, and it is read
back from its own text if the years of both ends take four digits. -/
theorem text_reads_back {text : String} {interval : Interval}
    (read : ofText text = .ok interval) :
    (interval.start = interval.stop ∨ interval.start.isBefore interval.stop = true) ∧
      (0 ≤ interval.start.date.year ∧ interval.start.date.year ≤ 9999 →
        0 ≤ interval.stop.date.year ∧ interval.stop.date.year ≤ 9999 →
          ofText interval.text = .ok interval) := by
  obtain ⟨_, _, _, _, _, ordered⟩ := ofText_eq_ok_iff.mp read
  refine ⟨?_, fun startWritten stopWritten => ?_⟩
  · have known := interval.stop.not_isBefore interval.start
    rw [ordered, Bool.not_false, Bool.or_eq_true, decide_eq_true_eq, eq_comm] at known
    exact known
  have unslashed : '/' ∉ interval.start.fullText.toList :=
    fun listed => (Instant.plain_of_mem_fullText _ listed).2 rfl
  refine ofText_eq_ok_iff.mpr ⟨interval.start.fullText.toList, interval.stop.fullText.toList,
    ?_, ofIntervalEnd?_fullText startWritten, ofIntervalEnd?_fullText stopWritten, ordered⟩
  rw [Interval.text, String.toList_append, String.toList_append, List.append_assoc]
  exact cutAtSlash?_append unslashed _

/-- An interval from half a leap second, in another time zone, to a midnight. -/
theorem text_reads_back_of_leap_second :
    ∃ interval,
      Interval.ofText "2016-12-31T18:59:60.5-05:00/2017-01-01" = .ok interval ∧
        interval.text = "2016-12-31T23:59:60.500+00:00/2017-01-01T00:00:00+00:00" ∧
        Interval.ofText interval.text = .ok interval := by
  let interval : Interval :=
    ⟨⟨1483228799, 1500000000, .inr (by decide)⟩, .ofSecond 1483228800⟩
  have read : Interval.ofText "2016-12-31T18:59:60.5-05:00/2017-01-01" = .ok interval := by
    decide
  exact ⟨interval, read, by decide, (text_reads_back read).2 (by decide) (by decide)⟩

end Interval

end Rollup
