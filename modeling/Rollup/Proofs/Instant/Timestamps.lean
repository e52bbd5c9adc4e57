import Rollup.Proofs.Instant.DateTime

/-!
# Timestamps with an offset

A clock that is some minutes ahead of universal time, or behind it, shows an instant by its own
date and time of day.  With its offset behind them they are read back as the instant, cut to the
digits of the fraction: the minutes that the clock is ahead are taken off again, over the ends of
days and years.  An offset with a colon is in the interchange form already; one without is left
to the reader of the looser form.
-/

namespace Rollup

open Calendar Text

namespace Instant

variable {instant : Instant} {digits : Nat} {joint : Char} {minutes : Int}

/-! ## Offsets -/

/-- The sign of an offset. -/
def offsetSign (minutes : Int) : Char :=
  if minutes < 0 then '-' else '+'

/-- An offset in hours and minutes, joined by a colon. -/
def offsetText (minutes : Int) : List Char :=
  offsetSign minutes :: (paddedDigits 2 (minutes.natAbs / 60) ++
    (':' :: paddedDigits 2 (minutes.natAbs % 60)))

/-- The shorter texts of an offset: without the colon, and without the minutes if there are
none. -/
def shortOffsetTexts (minutes : Int) : List (List Char) :=
  (offsetSign minutes :: (paddedDigits 2 (minutes.natAbs / 60) ++
    paddedDigits 2 (minutes.natAbs % 60))) ::
    (if minutes % 60 = 0 then [offsetSign minutes :: paddedDigits 2 (minutes.natAbs / 60)] else [])

theorem followsFraction_universal : FollowsFraction ['Z'] where
  undigited := rfl
  unpointed := by decide
  unblanked := by
    intro c last
    cases last
    rfl

/-- Behind a sign and a number, a date and a time of day end. -/
theorem followsFraction_offset (minutes : Int) (text : List Char) (width number : Nat) :
    FollowsFraction (offsetSign minutes :: (text ++ paddedDigits width number)) where
  undigited := by
    rw [offsetSign]
    split <;> rfl
  unpointed := by
    rw [offsetSign, List.head?_cons]
    split <;> decide
  unblanked := by
    intro c last
    rw [← List.cons_append] at last
    exact not_isBlank_of_isDigit (isDigit_of_stops last)

theorem takeOffset?_sign (minutes : Int) (text : List Char) :
    takeOffset? (offsetSign minutes :: text) =
      (takeNumber 2 2 text).bind fun (hours, text) => (skip? ':' text).bind fun text =>
        (takeNumber 2 2 text).bind fun (rest, text) =>
          (offset? (decide (minutes < 0)) hours rest).bind fun offset => some (offset, text) := by
  rw [offsetSign]
  by_cases behind : minutes < 0
  · rw [if_pos behind, decide_eq_true behind]
    rfl
  · rw [if_neg behind, decide_eq_false behind]
    rfl

theorem takeLooseOffset?_sign (minutes : Int) (text : List Char) :
    takeLooseOffset? (trimStart (offsetSign minutes :: text)) =
      (takeNumber 2 2 text).bind fun (hours, text) =>
        match text.dropWhile fun c => c == ':' || isBlank c with
        | [] => (offset? (decide (minutes < 0)) hours 0).bind fun offset => some (offset, [])
        | text => (takeNumber 2 2 text).bind fun (rest, text) =>
            (offset? (decide (minutes < 0)) hours rest).bind fun offset => some (offset, text) := by
  rw [offsetSign]
  by_cases behind : minutes < 0
  · rw [if_pos behind, decide_eq_true behind]
    rfl
  · rw [if_neg behind, decide_eq_false behind]
    rfl

/-- Hours, minutes and sign make up the offset. -/
theorem offset?_parts (within : minutes.natAbs < 1440) :
    offset? (decide (minutes < 0)) (minutes.natAbs / 60) (minutes.natAbs % 60) =
      some minutes := by
  have fits : (decide (minutes.natAbs / 60 < 24) && decide (minutes.natAbs % 60 < 60)) = true := by
    simp only [Bool.and_eq_true, decide_eq_true_eq]
    constructor <;> omega
  rw [offset?, if_pos fits]
  simp only [decide_eq_true_eq, Option.some.injEq]
  split <;> omega

/-- The hours of an offset have two digits. -/
theorem takeNumber_hours (within : minutes.natAbs < 1440) (rest : List Char) :
    takeNumber 2 2 (paddedDigits 2 (minutes.natAbs / 60) ++ rest) =
      some (minutes.natAbs / 60, rest) := by
  apply takeNumber_two
  omega

/-- The minutes of an offset have two digits. -/
theorem takeNumber_minutes (minutes : Int) :
    takeNumber 2 2 (paddedDigits 2 (minutes.natAbs % 60)) = some (minutes.natAbs % 60, []) := by
  have fits : minutes.natAbs % 60 < 100 := Nat.lt_trans (Nat.mod_lt _ (by decide)) (by decide)
  rw [← List.append_nil (paddedDigits 2 _)]
  exact takeNumber_two fits

/-- An offset with a colon is in the interchange form. -/
theorem takeOffset?_offsetText (within : minutes.natAbs < 1440) :
    takeOffset? (offsetText minutes) = some (minutes, []) := by
  rw [offsetText, takeOffset?_sign, takeNumber_hours within]
  dsimp only [Option.bind_some]
  rw [skip?_cons, Option.bind_some, takeNumber_minutes]
  dsimp only [Option.bind_some]
  rw [offset?_parts within]
  rfl

/-- A shorter offset is in the looser form only. -/
theorem takeLooseOffset?_shortOffset (within : minutes.natAbs < 1440) {offset : List Char}
    (listed : offset ∈ shortOffsetTexts minutes) :
    FollowsFraction offset ∧ takeOffset? offset = none ∧
      takeLooseOffset? (trimStart offset) = some (minutes, []) := by
  rw [shortOffsetTexts, List.mem_cons] at listed
  rcases listed with rfl | whole
  · obtain ⟨first, others, written⟩ := List.exists_cons_of_ne_nil
      (paddedDigits_ne_nil 2 (minutes.natAbs % 60))
    have digit : first.isDigit = true :=
      isDigit_of_mem_paddedDigits (written ▸ List.mem_cons_self)
    have uncoloned : first ≠ ':' := by
      rintro rfl
      cases digit
    have kept : (paddedDigits 2 (minutes.natAbs % 60)).dropWhile
        (fun c => c == ':' || isBlank c) = first :: others := by
      rw [written, List.dropWhile_cons_of_neg]
      simp [uncoloned, not_isBlank_of_isDigit digit]
    refine ⟨followsFraction_offset minutes _ 2 _, ?_, ?_⟩
    · rw [takeOffset?_sign, takeNumber_hours within]
      dsimp only [Option.bind_some]
      rw [written, skip?, if_neg uncoloned]
      rfl
    · rw [takeLooseOffset?_sign, takeNumber_hours within]
      dsimp only [Option.bind_some]
      rw [kept]
      dsimp only
      rw [← written, takeNumber_minutes]
      dsimp only [Option.bind_some]
      rw [offset?_parts within]
      rfl
  · split at whole
    next even =>
      rw [List.mem_singleton] at whole
      subst whole
      have none : minutes.natAbs % 60 = 0 := by omega
      have hours := takeNumber_hours within []
      rw [List.append_nil] at hours
      refine ⟨followsFraction_offset minutes [] 2 _, ?_, ?_⟩
      · rw [takeOffset?_sign, hours]
        rfl
      · rw [takeLooseOffset?_sign, hours]
        dsimp only [Option.bind_some, List.dropWhile_nil]
        rw [← none, offset?_parts within]
        rfl
    next => cases whole

/-! ## Texts read back -/

/-- A local date and time of day are read back with an offset of the interchange form. -/
theorem ofText?_zoned (spanned : spansYear instant.date.year = true) (bounded : digits ≤ 9)
    (joins : joint = 'T' ∨ joint = ' ')
    (written : 0 ≤ (instant.shifted minutes).date.year ∧
      (instant.shifted minutes).date.year ≤ 9999)
    {offset : List Char} (follows : FollowsFraction offset)
    (read : takeOffset? offset = some (minutes, [])) :
    ofText? (String.ofList ((instant.shifted minutes).dateTimeText joint digits ++ offset)) =
      some (instant.cut digits) := by
  have interchange :
      ofInterchange? ((instant.shifted minutes).dateTimeText joint digits ++ offset) =
        some (instant.cut digits) := by
    rw [ofInterchange?_dateTimeText written bounded joins follows, read]
    exact ofClock?_shifted spanned minutes bounded
  simp only [ofText?, String.toList_ofList, trim_dateTimeText follows, interchange,
    Option.orElse_eq_orElse, Option.orElse_some]

/-- A local date and time of day are read back with an offset of the looser form. -/
theorem ofText?_looselyZoned (spanned : spansYear instant.date.year = true) (bounded : digits ≤ 9)
    (written : 0 ≤ (instant.shifted minutes).date.year ∧
      (instant.shifted minutes).date.year ≤ 9999)
    {offset : List Char} (follows : FollowsFraction offset) (rigid : takeOffset? offset = none)
    (read : takeLooseOffset? (trimStart offset) = some (minutes, [])) :
    ofText? (String.ofList ((instant.shifted minutes).dateTimeText ' ' digits ++ offset)) =
      some (instant.cut digits) := by
  have notInterchange :
      ofInterchange? ((instant.shifted minutes).dateTimeText ' ' digits ++ offset) = none := by
    rw [ofInterchange?_dateTimeText written bounded (.inr rfl) follows, rigid]
    rfl
  have loose : ofDateTimeOffset? ((instant.shifted minutes).dateTimeText ' ' digits ++ offset) =
      some (instant.cut digits) := by
    rw [ofDateTimeOffset?_dateTimeText (spansYear_of_written written) bounded follows, read]
    exact ofClock?_shifted spanned minutes bounded
  simp only [ofText?, String.toList_ofList, trim_dateTimeText follows, notInterchange, loose,
    Option.orElse_eq_orElse, Option.orElse_none, Option.orElse_some]

/-- An instant is read back from each of its texts, cut to the digits of the fraction that the
text has: from the texts of results and of statements, and from every date and time of day, in
universal time or by a clock with its offset. -/
theorem timestamps_read_back (instant : Instant)
    (written : 0 ≤ instant.date.year ∧ instant.date.year ≤ 9999) :
    ofText? instant.millisecondText = some (instant.cut 3) ∧
    ofText? instant.secondText = some (instant.cut 0) ∧
    ∀ digits ≤ 9, ∀ joint ∈ ['T', ' '],
      ofText? (String.ofList (instant.dateTimeText joint digits)) = some (instant.cut digits) ∧
      ∀ minutes : Int, minutes.natAbs < 1440 →
        0 ≤ (instant.shifted minutes).date.year → (instant.shifted minutes).date.year ≤ 9999 →
          ∀ offset ∈ offsetText minutes :: (if joint = ' ' then shortOffsetTexts minutes else []),
            ofText? (String.ofList
                ((instant.shifted minutes).dateTimeText joint digits ++ offset)) =
              some (instant.cut digits) := by
  have spanned : spansYear instant.date.year = true := spansYear_of_written written
  refine ⟨?_, ?_, ?_⟩
  · have text : instant.millisecondText =
        String.ofList ((instant.shifted 0).dateTimeText 'T' 3 ++ ['Z']) := by
      rw [shifted_zero, dateTimeText_append, millisecondText]
      simp [fractionDigits]
    rw [text]
    exact ofText?_zoned spanned (by decide) (.inl rfl) (shifted_zero ▸ written)
      followsFraction_universal rfl
  · have text : instant.secondText = String.ofList (instant.dateTimeText ' ' 0) := by
      simp [secondText, dateTimeText, fractionDigits]
    rw [text]
    exact ofText?_dateTimeText spanned (by decide) (.inr rfl)
  · intro digits bounded joint joins
    rw [List.mem_cons, List.mem_singleton] at joins
    constructor
    · exact ofText?_dateTimeText spanned bounded joins
    · intro minutes within least greatest offset listed
      rw [List.mem_cons] at listed
      rcases listed with rfl | short
      · have follows : FollowsFraction (offsetText minutes) := by
          rw [offsetText, List.append_cons]
          exact followsFraction_offset minutes _ 2 _
        exact ofText?_zoned spanned bounded joins ⟨least, greatest⟩ follows
          (takeOffset?_offsetText within)
      · split at short
        next spaced =>
          obtain ⟨follows, rigid, loose⟩ := takeLooseOffset?_shortOffset within short
          rw [spaced]
          exact ofText?_looselyZoned spanned bounded ⟨least, greatest⟩ follows rigid loose
        next => cases short

/-- The leap second at the end of 2016, by a clock that is in the next year already. -/
theorem timestamps_read_back_of_new_year :
    ofText? "2017-01-01 05:29:60.98765+05:30" =
        some ⟨1483228799, 1987650000, .inr ⟨rfl, by decide⟩⟩ ∧
      ofText? "2017-01-01 05:29:60.98765+0530" =
        some ⟨1483228799, 1987650000, .inr ⟨rfl, by decide⟩⟩ ∧
      ofText? "2016-12-31T23:59:60.987Z" =
        some ⟨1483228799, 1987000000, .inr ⟨rfl, by decide⟩⟩ := by
  have texts := timestamps_read_back ⟨1483228799, 1987654321, .inr ⟨rfl, by decide⟩⟩
    ⟨by decide +kernel, by decide +kernel⟩
  have zoned := (texts.2.2 5 (by decide) ' ' (by decide)).2 330 (by decide) (by decide +kernel)
    (by decide +kernel)
  refine ⟨?_, ?_, ?_⟩
  · exact zoned _ (.head _)
  · exact zoned _ (.tail _ (.head _))
  · exact texts.1

end Instant

end Rollup
