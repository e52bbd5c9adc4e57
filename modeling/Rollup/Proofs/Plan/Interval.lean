import Rollup.Plan.Statement
import Rollup.Proofs.Instant.DateTime
import Rollup.Proofs.Sql.Legible
import Rollup.Proofs.Sql.Texts
import Rollup.Proofs.Sql.Value

/-!
# Conditions on time

The condition that a timestamp lies in one of some intervals, for an engine that takes the
literals of timestamps for the instants that their texts denote.  The texts are cut to
whole seconds, so it is the intervals between whole seconds that the condition is about.
-/

namespace Rollup

open Calendar Sql

/-! ## The order of instants -/

namespace Instant

theorem isBefore_eq_true_iff {first second : Instant} :
    first.isBefore second = true ↔
      first.second < second.second ∨
        first.second = second.second ∧ first.nanosecond < second.nanosecond := by
  simp [isBefore]

/-- Of two instants the first is the earlier, or they are the same, or the second is the
earlier. -/
theorem not_isBefore (first second : Instant) :
    (decide (first = second) || second.isBefore first) = !first.isBefore second := by
  rw [Bool.eq_iff_iff, Bool.or_eq_true, decide_eq_true_eq, Bool.not_eq_true',
    ← Bool.not_eq_true, isBefore_eq_true_iff, isBefore_eq_true_iff]
  constructor
  · rintro (rfl | later)
    · omega
    · omega
  · intro notBefore
    by_cases same : first.second = second.second ∧ first.nanosecond = second.nanosecond
    · left
      cases first
      cases second
      obtain ⟨rfl, rfl⟩ := same
      rfl
    · right
      omega

theorem eq_of_not_isBefore {first second : Instant} (notBefore : first.isBefore second = false)
    (notAfter : second.isBefore first = false) : first = second := by
  simpa [notBefore, notAfter] using not_isBefore first second

end Instant

/-! ## Intervals -/

namespace Interval

/-- Whether an instant lies in an interval, whose end is not part of it. -/
def holds (interval : Interval) (instant : Instant) : Bool :=
  !instant.isBefore interval.start && instant.isBefore interval.stop

/-- An interval between the seconds in which its ends lie. -/
def wholeSeconds (interval : Interval) : Interval :=
  ⟨interval.start.wholeSecond, interval.stop.wholeSecond⟩

/-- The ends of an interval that is read from a text lie in the calendar. -/
theorem spansYear_of_ofText {text : String} {interval : Interval}
    (read : ofText text = .ok interval) :
    spansYear interval.start.date.year = true ∧ spansYear interval.stop.date.year = true := by
  unfold ofText at read
  split at read
  · cases read
  · split at read
    · cases read
    · next start startRead =>
      split at read
      · cases read
      · next stop stopRead =>
        split at read
        · cases read
        · cases read
          exact ⟨Instant.isSpanned_ofIntervalEnd? _ _ startRead,
            Instant.isSpanned_ofIntervalEnd? _ _ stopRead⟩

end Interval

/-! ## Literals read back -/

namespace Sql

/-- The instant that the text of a literal denotes: that of the one string in it. -/
def Literal.writtenInstant? (dialect : Dialect) (literal : Literal) : Option Instant :=
  match (dialect.scan ((Expr.literal literal).render dialect)).map
      (List.filter Lexeme.isQuoted) with
  | some [.string written] => Instant.ofText? written
  | _ => none

/-- An engine that takes the literals of timestamps for the instants that their texts
denote, those that are plain strings as soon as they are compared with a timestamp. -/
def Engine.readingTimestamps (engine : Engine) (dialect : Dialect) : Engine :=
  { engine with
    timestamp := fun instant =>
      ((Literal.timestamp instant).writtenInstant? dialect).map .timestamp
    compareOther := fun operator left right =>
      match left, right with
      | .timestamp instant, .text written =>
          ((Literal.text written).writtenInstant? dialect).bind fun read =>
            engine.compare operator (.timestamp instant) (.timestamp read)
      | left, right => engine.compareOther operator left right }

/-- An environment whose engine takes the literals of timestamps for the instants that their
texts denote. -/
def Environment.readingTimestamps (environment : Environment) : Environment :=
  { environment with engine := environment.engine.readingTimestamps environment.dialect }

/-- The text of a literal is read back as the instant of its only string. -/
theorem Literal.writtenInstant?_of_texts {dialect : Dialect} {literal : Literal} {text : String}
    (only : (Expr.literal literal).texts = [.string text]) :
    literal.writtenInstant? dialect = Instant.ofText? text := by
  have plain : (Expr.literal literal).NamesArePlain dialect := by
    intro name listed
    cases listed
  rw [writtenInstant?, Expr.render, (Expr.legible_tokens plain).scan_write, Option.map_some,
    filter_isQuoted_lexemes, Expr.quoted_tokens, only]

variable {environment : Environment} {timestamp : Expr} {t : Instant}

/-- A comparison of a timestamp with the literal of an instant is one with the second that
the instant lies in. -/
theorem truth_compare_timestampLiteral (operator : Operator) {instant : Instant}
    (spanned : spansYear instant.date.year = true)
    (valued : timestamp.value environment.readingTimestamps = some (.timestamp t)) :
    (Expr.compare timestamp operator (environment.dialect.timestampLiteral instant)).truth
        environment.readingTimestamps =
      some (operator.decides (t.isBefore instant.wholeSecond) (decide (t = instant.wholeSecond))
        (instant.wholeSecond.isBefore t)) := by
  have asText : (Literal.text instant.secondText).writtenInstant? environment.dialect =
      some instant.wholeSecond :=
    (Literal.writtenInstant?_of_texts rfl).trans (Instant.ofText?_secondText spanned)
  have asTimestamp : (Literal.timestamp instant).writtenInstant? environment.dialect =
      some instant.wholeSecond :=
    (Literal.writtenInstant?_of_texts rfl).trans (Instant.ofText?_secondText spanned)
  have compared : environment.readingTimestamps.engine.compare operator (.timestamp t)
      (.text instant.secondText) =
        some (operator.decides (t.isBefore instant.wholeSecond)
          (decide (t = instant.wholeSecond)) (instant.wholeSecond.isBefore t)) := by
    change ((Literal.text instant.secondText).writtenInstant? environment.dialect).bind _ = _
    rw [asText]
    rfl
  have literal : (Expr.literal (.timestamp instant)).value environment.readingTimestamps =
      some (.timestamp instant.wholeSecond) := congrArg (Option.map Value.timestamp) asTimestamp
  unfold Dialect.timestampLiteral
  split
  case h_3 =>
    rw [Expr.truth, Expr.value, valued, literal]
    rfl
  all_goals
    rw [Expr.truth, Expr.value, valued]
    exact congrArg (fun truth : Truth => Truth.ofValue (truth.map .truth)) compared

end Sql

/-! ## The condition -/

namespace Query

variable {environment : Environment} {timestamp : Expr} {t : Instant}

/-- The condition on an interval is that between the ends which a timestamp is compared with. -/
theorem truth_intervalCondition_of_compare {dialect : Dialect} {interval compared : Interval}
    (start : (Expr.compare timestamp .atLeast (dialect.timestampLiteral interval.start)).truth
        environment =
      some (Operator.atLeast.decides (t.isBefore compared.start) (decide (t = compared.start))
        (compared.start.isBefore t)))
    (stop : (Expr.compare timestamp .less (dialect.timestampLiteral interval.stop)).truth
        environment =
      some (Operator.less.decides (t.isBefore compared.stop) (decide (t = compared.stop))
        (compared.stop.isBefore t))) :
    (intervalCondition dialect timestamp interval).truth environment =
      some (compared.holds t) := by
  rw [intervalCondition, Expr.truth_all, List.map_cons, List.map_cons, List.map_nil, start, stop]
  simp only [Operator.decides, Instant.not_isBefore]
  change Truth.and _ (Truth.and _ (some true)) = _
  rw [Interval.holds]
  cases !t.isBefore compared.start <;> cases t.isBefore compared.stop <;> rfl

theorem truth_intervalCondition {interval : Interval}
    (startSpanned : spansYear interval.start.date.year = true)
    (stopSpanned : spansYear interval.stop.date.year = true)
    (valued : timestamp.value environment.readingTimestamps = some (.timestamp t)) :
    (intervalCondition environment.dialect timestamp interval).truth
        environment.readingTimestamps = some (interval.wholeSeconds.holds t) :=
  truth_intervalCondition_of_compare (truth_compare_timestampLiteral .atLeast startSpanned valued)
    (truth_compare_timestampLiteral .less stopSpanned valued)

/-- The condition that a timestamp lies in one of some intervals is true exactly of the
timestamps in one of them, their ends being cut to whole seconds, and is false of all
others.  Of intervals between whole seconds it is true exactly of the timestamps in one of
them. -/
theorem intervalsCondition_selects {intervals : List Interval} (nonempty : intervals ≠ [])
    (accepted : ∀ interval ∈ intervals, ∃ text, Interval.ofText text = .ok interval)
    (valued : timestamp.value environment.readingTimestamps = some (.timestamp t)) :
    ∃ condition,
      intervalsCondition environment.dialect timestamp intervals = some condition ∧
      condition.truth environment.readingTimestamps =
        some (intervals.any fun interval => interval.wholeSeconds.holds t) ∧
      ((∀ interval ∈ intervals, interval.wholeSeconds = interval) →
        (condition.truth environment.readingTimestamps = some true ↔
          ∃ interval ∈ intervals, ¬ t.isBefore interval.start ∧ t.isBefore interval.stop)) := by
  have each : ∀ interval ∈ intervals,
      (intervalCondition environment.dialect timestamp interval).truth
        environment.readingTimestamps = some (interval.wholeSeconds.holds t) := by
    intro interval member
    obtain ⟨text, read⟩ := accepted interval member
    obtain ⟨startSpanned, stopSpanned⟩ := Interval.spansYear_of_ofText read
    exact truth_intervalCondition startSpanned stopSpanned valued
  have known : ∃ condition,
      intervalsCondition environment.dialect timestamp intervals = some condition ∧
      condition.truth environment.readingTimestamps =
        some (intervals.any fun interval => interval.wholeSeconds.holds t) := by
    match intervals with
    | [] => exact absurd rfl nonempty
    | [interval] =>
        refine ⟨_, rfl, (each interval List.mem_cons_self).trans ?_⟩
        simp
    | first :: second :: rest =>
        refine ⟨_, rfl, ?_⟩
        have truths : ((first :: second :: rest).map
            (intervalCondition environment.dialect timestamp)).map
              (Expr.truth environment.readingTimestamps) =
            ((first :: second :: rest).map fun interval => interval.wholeSeconds.holds t).map
              some := by
          rw [List.map_map, List.map_map]
          exact List.map_congr_left each
        rw [Expr.truth_any, truths, Truth.any_map_some, List.any_map]
        rfl
  obtain ⟨condition, built, truth⟩ := known
  refine ⟨condition, built, truth, fun whole => ?_⟩
  rw [truth, Option.some_inj, List.any_eq_true]
  refine exists_congr fun interval => and_congr_right fun member => ?_
  rw [whole interval member, Interval.holds]
  simp

/-- A row whose only column is a timestamp. -/
def timestampRow (dialect : Dialect) (t : Instant) : Environment where
  dialect
  engine := .plain
  column := fun _ => some (.timestamp t)

/-- The noon that starts one interval is in it, and it is not in the one that it ends. -/
theorem intervalsCondition_selects_noon :
    ∃ morning afternoon condition,
      Interval.ofText "2024-01-01/2024-01-01T12:00:00Z" = .ok morning ∧
      Interval.ofText "2024-01-01T12:00:00Z/2024-01-02" = .ok afternoon ∧
      intervalsCondition .mysql (.column "ts") [morning, afternoon] = some condition ∧
      condition.truth (timestampRow .mysql (.ofSecond 1704110400)).readingTimestamps =
        some true := by
  let morning : Interval := ⟨.ofSecond 1704067200, .ofSecond 1704110400⟩
  let afternoon : Interval := ⟨.ofSecond 1704110400, .ofSecond 1704153600⟩
  have morningRead : Interval.ofText "2024-01-01/2024-01-01T12:00:00Z" = .ok morning := by
    decide
  have afternoonRead : Interval.ofText "2024-01-01T12:00:00Z/2024-01-02" = .ok afternoon := by
    decide
  obtain ⟨condition, built, truth, -⟩ :=
    @intervalsCondition_selects (timestampRow .mysql (.ofSecond 1704110400)) (.column "ts")
      (.ofSecond 1704110400) [morning, afternoon] (by decide)
      (List.forall_mem_cons.mpr ⟨⟨_, morningRead⟩,
        List.forall_mem_singleton.mpr ⟨_, afternoonRead⟩⟩) rfl
  exact ⟨morning, afternoon, condition, morningRead, afternoonRead, built,
    truth.trans (by decide)⟩

/-- A timestamp in an interval inside of a second is not selected. -/
theorem intervalsCondition_loses_split_second :
    ∃ interval condition,
      Interval.ofText "2024-01-01T00:00:00.500Z/2024-01-01T00:00:00.900Z" = .ok interval ∧
      interval.holds ⟨1704067200, 600000000, .inl (by decide)⟩ = true ∧
      intervalsCondition .ansi (.column "ts") [interval] = some condition ∧
      condition.truth (timestampRow .ansi
        ⟨1704067200, 600000000, .inl (by decide)⟩).readingTimestamps = some false := by
  let interval : Interval :=
    ⟨⟨1704067200, 500000000, .inl (by decide)⟩, ⟨1704067200, 900000000, .inl (by decide)⟩⟩
  refine ⟨interval, _, by decide, by decide, rfl, ?_⟩
  exact (truth_intervalCondition (by decide) (by decide) rfl).trans (by decide)

end Query

end Rollup
