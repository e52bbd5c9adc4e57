import Rollup.Proofs.Instant.Order

/-!
# Conditions on time, compared as text

SQLite has no type for timestamps.  A column holds them as texts, the condition on them is written
with texts, and the engine compares their bytes.  As long as the column and the ends of the
intervals are in whole seconds and in years of four digits, this is the order of the instants.
-/

namespace Rollup

open Calendar Sql Text

/-! ## Instants that their texts show in full -/

namespace Instant

/-- Whether the text of an instant in whole seconds shows all of it: there is no fraction to cut,
and the year takes four digits.  A leap second is shown as the sixtieth of its minute. -/
structure IsShown (instant : Instant) : Prop where
  whole : instant.subsecond = 0
  year : 0 ≤ instant.date.year ∧ instant.date.year ≤ 9999

instance (instant : Instant) : Decidable instant.IsShown :=
  decidable_of_iff (instant.subsecond = 0 ∧ 0 ≤ instant.date.year ∧ instant.date.year ≤ 9999)
    ⟨fun ⟨whole, year⟩ => ⟨whole, year⟩, fun shown => ⟨shown.whole, shown.year⟩⟩

namespace IsShown

variable {first second instant : Instant}

theorem wholeSecond (shown : instant.IsShown) : instant.wholeSecond = instant := by
  have fraction : instant.wholeSecond.nanosecond = instant.nanosecond := by
    rw [nanosecond_wholeSecond]
    exact Nat.div_mul_cancel (Nat.dvd_of_mod_eq_zero shown.whole)
  have start := second_wholeSecond instant
  cases instant
  exact Instant.mk.injEq .. |>.mpr ⟨start, fraction⟩

/-- Instants that are shown in full are in the order of their texts. -/
theorem isBefore_iff (firstShown : first.IsShown) (secondShown : second.IsShown) :
    first.isBefore second = true ↔ bytes first.secondText < bytes second.secondText := by
  rw [secondText_lt_iff firstShown.year secondShown.year, firstShown.wholeSecond,
    secondShown.wholeSecond]

theorem secondText_inj (firstShown : first.IsShown) (secondShown : second.IsShown) :
    first.secondText = second.secondText ↔ first = second := by
  constructor
  · intro same
    have notBefore : first.isBefore second = false := by
      rw [← Bool.not_eq_true, firstShown.isBefore_iff secondShown, same]
      exact List.lt_irrefl _
    have notAfter : second.isBefore first = false := by
      rw [← Bool.not_eq_true, secondShown.isBefore_iff firstShown, same]
      exact List.lt_irrefl _
    exact eq_of_not_isBefore notBefore notAfter
  · rintro rfl
    rfl

end IsShown

end Instant

/-! ## Engines that compare bytes -/

namespace Sql

/-- An engine that takes texts in the order of their bytes. -/
def Engine.comparingBytes (engine : Engine) : Engine :=
  { engine with
    compareOther := fun operator left right =>
      match left, right with
      | .text first, .text second =>
          some (operator.decides (decide (bytes first < bytes second)) (decide (first = second))
            (decide (bytes second < bytes first)))
      | left, right => engine.compareOther operator left right }

/-- An environment whose engine takes texts in the order of their bytes. -/
def Environment.comparingBytes (environment : Environment) : Environment :=
  { environment with engine := environment.engine.comparingBytes }

variable {environment : Environment} {timestamp : Expr} {t instant : Instant}

/-- An order between the text of an instant and the literal of another is that between the
instants. -/
theorem truth_compare_textLiteral {operator : Operator}
    (ordering : operator = .atLeast ∨ operator = .less) (shown : t.IsShown)
    (literalShown : instant.IsShown) (written : environment.dialect = .sqlite)
    (valued : timestamp.value environment.comparingBytes = some (.text t.secondText)) :
    (Expr.compare timestamp operator (environment.dialect.timestampLiteral instant)).truth
        environment.comparingBytes =
      some (operator.decides (t.isBefore instant) (decide (t = instant)) (instant.isBefore t)) := by
  have compared : environment.comparingBytes.engine.compare operator (.text t.secondText)
      (.text instant.secondText) =
        some (operator.decides (decide (bytes t.secondText < bytes instant.secondText))
          (decide (t.secondText = instant.secondText))
          (decide (bytes instant.secondText < bytes t.secondText))) := by
    rcases ordering with rfl | rfl <;> rfl
  have literal : (environment.dialect.timestampLiteral instant).value environment.comparingBytes =
      some (.text instant.secondText) := by
    rw [written]
    rfl
  simp only [← shown.isBefore_iff literalShown, ← literalShown.isBefore_iff shown,
    shown.secondText_inj literalShown, Bool.decide_eq_true] at compared
  rw [Expr.truth, Expr.value, valued, literal]
  exact congrArg (fun truth : Truth => Truth.ofValue (truth.map .truth)) compared

end Sql

/-! ## The condition -/

namespace Query

/-- The condition on some intervals is true exactly where that on one of them is. -/
theorem exists_intervalsCondition (dialect : Dialect) (timestamp : Expr)
    {intervals : List Interval} (nonempty : intervals ≠ []) :
    ∃ condition, intervalsCondition dialect timestamp intervals = some condition ∧
      ∀ environment, condition.truth environment = some true ↔
        ∃ interval ∈ intervals,
          (intervalCondition dialect timestamp interval).truth environment = some true := by
  match intervals with
  | [] => exact absurd rfl nonempty
  | [interval] =>
      refine ⟨_, rfl, fun environment => ?_⟩
      simp only [List.mem_singleton, exists_eq_left]
  | first :: second :: rest =>
      refine ⟨_, rfl, fun environment => ?_⟩
      rw [Expr.truth_any, Truth.any_eq_true_iff, List.map_map, List.mem_map]
      rfl

variable {environment : Environment} {timestamp : Expr} {t : Instant}

theorem truth_intervalCondition_of_text {interval : Interval} (shown : t.IsShown)
    (startShown : interval.start.IsShown) (stopShown : interval.stop.IsShown)
    (written : environment.dialect = .sqlite)
    (valued : timestamp.value environment.comparingBytes = some (.text t.secondText)) :
    (intervalCondition environment.dialect timestamp interval).truth environment.comparingBytes =
      some (interval.holds t) :=
  truth_intervalCondition_of_compare
    (truth_compare_textLiteral (.inl rfl) shown startShown written valued)
    (truth_compare_textLiteral (.inr rfl) shown stopShown written valued)

/-- Instants in whole seconds and in years of four digits are in the order of the bytes of their
texts.  So where a column holds such texts and the engine compares them byte by byte, the condition
on time is true exactly of the rows whose instants lie in one of the intervals. -/
theorem texts_sort_like_time :
    (∀ first second : Instant, first.IsShown → second.IsShown →
      (first.isBefore second = true ↔ bytes first.secondText < bytes second.secondText)) ∧
    ∀ (environment : Environment) (column : String) (t : Instant) (intervals : List Interval),
      environment.dialect = .sqlite → environment.column column = some (.text t.secondText) →
      t.IsShown → intervals ≠ [] →
      (∀ interval ∈ intervals, interval.start.IsShown ∧ interval.stop.IsShown) →
      ∃ condition,
        intervalsCondition environment.dialect
          (environment.dialect.timestampColumn (.column column)) intervals = some condition ∧
        (condition.truth environment.comparingBytes = some true ↔
          ∃ interval ∈ intervals, ¬ t.isBefore interval.start ∧ t.isBefore interval.stop) := by
  refine ⟨fun _ _ => Instant.IsShown.isBefore_iff, ?_⟩
  intro environment column t intervals written stored shown nonempty ends
  have valued : (environment.dialect.timestampColumn (.column column)).value
      environment.comparingBytes = some (.text t.secondText) := by
    rw [written]
    exact stored
  obtain ⟨condition, built, truth⟩ := exists_intervalsCondition environment.dialect
    (environment.dialect.timestampColumn (.column column)) nonempty
  refine ⟨condition, built, (truth _).trans ?_⟩
  refine exists_congr fun interval => and_congr_right fun member => ?_
  obtain ⟨startShown, stopShown⟩ := ends interval member
  rw [truth_intervalCondition_of_text shown startShown stopShown written valued, Interval.holds]
  simp

/-- A row whose only column is a timestamp, stored as text. -/
def textRow (t : Instant) : Environment where
  dialect := .sqlite
  engine := .plain
  column := fun _ => some (.text t.secondText)

/-- The last second before the year 1000 comes before that year in time and in text, and of two
intervals it is in the one that ends there. -/
theorem texts_sort_like_time_before_millennium :
    ∃ last millennium condition,
      last.secondText = "0999-12-31 23:59:59" ∧
      millennium.secondText = "1000-01-01 00:00:00" ∧
      last.isBefore millennium = true ∧
      bytes last.secondText < bytes millennium.secondText ∧
      intervalsCondition .sqlite (.column "ts")
        [⟨millennium, .epoch⟩, ⟨.ofSecond (-62167219200), millennium⟩] = some condition ∧
      condition.truth (textRow last).comparingBytes = some true := by
  let last : Instant := .ofSecond (-30610224001)
  let millennium : Instant := .ofSecond (-30610224000)
  let before : Interval := ⟨.ofSecond (-62167219200), millennium⟩
  have lastShown : last.IsShown := by decide +kernel
  have millenniumShown : millennium.IsShown := by decide +kernel
  have ordered : last.isBefore millennium = true := by decide
  have ends : ∀ interval ∈ [⟨millennium, .epoch⟩, before],
      interval.start.IsShown ∧ interval.stop.IsShown := by
    decide +kernel
  obtain ⟨condition, built, truth⟩ := texts_sort_like_time.2 (textRow last) "ts" last
    [⟨millennium, .epoch⟩, before] rfl rfl lastShown (by decide) ends
  refine ⟨last, millennium, condition, by decide +kernel, by decide +kernel, ordered,
    (texts_sort_like_time.1 last millennium lastShown millenniumShown).mp ordered, built,
    truth.mpr ?_⟩
  exact ⟨before, by decide, by decide, by decide⟩

end Query

end Rollup
