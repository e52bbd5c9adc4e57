import Rollup.Proofs.Formula.References

/-!
# Faults of post-aggregations on rows

Why a checked post-aggregation has no value on a row.  Its checks leave nothing to fail but the
reading of the aggregations that it refers to, and all of these are read, from the left, whether
or not an absent operand or a divisor of zero has already fixed the result.  So the value fails
with the fault of the first of them whose text is no number, and there is one if no text is.
-/

namespace Rollup

namespace Arithmetic

variable {α : Type} (arithmetic : Arithmetic α) {row : String → Option String}

/-! ## Faults of an aggregation -/

/-- The fault of an aggregation in a row: a text that cannot be read. -/
def fault? (row : String → Option String) (aggregation : String) : Option Error :=
  (row aggregation).bind fun text => failure? (arithmetic.read aggregation text)

theorem failure?_read_eq_some_iff {aggregation text : String} {error : Error} :
    failure? (arithmetic.read aggregation text) = some error ↔
      arithmetic.ofText? text = none ∧ error = .execution (.notNumeric text aggregation) := by
  rw [read]
  cases arithmetic.ofText? text <;> simp [failure?, eq_comm]

theorem fault?_eq_some_iff {aggregation : String} {error : Error} :
    arithmetic.fault? row aggregation = some error ↔
      ∃ text, row aggregation = some text ∧ arithmetic.ofText? text = none ∧
        error = .execution (.notNumeric text aggregation) := by
  simp only [fault?, Option.bind_eq_some_iff, failure?_read_eq_some_iff]

theorem fault?_eq_none_iff {aggregation : String} :
    arithmetic.fault? row aggregation = none ↔ arithmetic.Reads row aggregation := by
  rw [fault?, Option.bind_eq_none_iff, Reads]
  refine forall₂_congr fun text _ => ?_
  rw [read]
  cases arithmetic.ofText? text <;> simp [failure?]

/-! ## Faults of a post-aggregation -/

/-- What a checked post-aggregation fails with on a row is the fault of the first aggregation that
it refers to: operands are all computed before an operation looks at any of them. -/
theorem failure?_evaluate {query : Query} {post : PostAggregation}
    (checked : post.validate query = .ok ()) :
    failure? (arithmetic.evaluate row post) =
      post.references.findSome? (arithmetic.fault? row) := by
  refine PostAggregation.checked_induction ?constant ?field ?arithmetic ?sketchEstimate
    ?sketchOperation post checked
  case constant =>
    intro name value
    rfl
  case field =>
    intro aggregation _
    rw [evaluate, PostAggregation.references, List.findSome?_singleton, fault?]
    cases row aggregation with
    | none => rfl
    | some text =>
        change failure? ((arithmetic.read aggregation text).map some) =
          failure? (arithmetic.read aggregation text)
        cases arithmetic.read aggregation text <;> rfl
  case arithmetic =>
    intro name operator fields arity operands
    have computed : failure? (arithmetic.evaluateList row fields) =
        (fields.flatMap PostAggregation.references).findSome? (arithmetic.fault? row) :=
      failure?_collected (arithmetic.evaluateList row) rfl (fun _ _ => rfl) operands
    rw [PostAggregation.references, PostAggregation.referencesOfList_eq_flatMap, ← computed,
      evaluate, arity]
    change failure? (arithmetic.evaluateList row fields >>= fun operands =>
      .ok (arithmetic.apply operator operands)) = _
    exact failure?_bind_of_ok fun _ => rfl
  case sketchEstimate =>
    intro name operand inner
    exact inner
  case sketchOperation =>
    intro name operator operand size sized inner
    rw [PostAggregation.references_sketchOperation, ← inner, evaluate, failure?_check,
      if_neg sized, Option.none_or]

/-- A checked post-aggregation has a value on a row exactly when every aggregation that it
refers to can be read from the row. -/
theorem exists_evaluate_iff {query : Query} {post : PostAggregation}
    (checked : post.validate query = .ok ()) :
    (∃ value, arithmetic.evaluate row post = .ok value) ↔
      ∀ aggregation ∈ post.references, arithmetic.Reads row aggregation := by
  rw [← failure?_eq_none_iff, arithmetic.failure?_evaluate checked, List.findSome?_eq_none_iff]
  simp only [fault?_eq_none_iff]

end Arithmetic

namespace PostAggregation

/-- On any row, the value of a checked post-aggregation is there exactly if every text that the row
holds for an aggregation it refers to is that of a number.  Otherwise it fails, always in execution:
with the text of the first such aggregation from the left that is no number, and its name. -/
theorem fails_for_first_unreadable_text {query : Query} {post : PostAggregation}
    (checked : post.validate query = .ok ()) (row : String → Option String) :
    ((∃ value, post.evaluate row = .ok value) ↔
      ∀ aggregation ∈ post.references, ∀ text, row aggregation = some text →
        ∃ number, Number.ofText? text = some number) ∧
    (∀ error, post.evaluate row = .error error ↔
      ∃ before aggregation after text, post.references = before ++ aggregation :: after ∧
        (∀ earlier ∈ before, ∀ text, row earlier = some text →
          ∃ number, Number.ofText? text = some number) ∧
        row aggregation = some text ∧ Number.ofText? text = none ∧
        error = .execution (.notNumeric text aggregation)) ∧
    ∀ error, post.evaluate row = .error error → error.kind = .executionFailure := by
  have fails (error : Error) : post.evaluate row = .error error ↔
      ∃ before aggregation after text, post.references = before ++ aggregation :: after ∧
        (∀ earlier ∈ before, Number.arithmetic.Reads row earlier) ∧
        row aggregation = some text ∧ Number.ofText? text = none ∧
        error = .execution (.notNumeric text aggregation) := by
    rw [← failure?_eq_some_iff, evaluate, Number.arithmetic.failure?_evaluate checked,
      List.findSome?_eq_some_iff]
    simp only [Arithmetic.fault?_eq_some_iff, Arithmetic.fault?_eq_none_iff]
    constructor
    · rintro ⟨before, aggregation, after, order, ⟨text, held, unreadable, named⟩, sound⟩
      exact ⟨before, aggregation, after, text, order, sound, held, unreadable, named⟩
    · rintro ⟨before, aggregation, after, text, order, sound, held, unreadable, named⟩
      exact ⟨before, aggregation, after, order, ⟨text, held, unreadable, named⟩, sound⟩
  refine ⟨Number.arithmetic.exists_evaluate_iff checked, fails, fun error failed => ?_⟩
  obtain ⟨_, _, _, _, _, _, _, _, rfl⟩ := (fails error).mp failed
  rfl

/-- A sum divided by zero fails all the same, with its third operand: the first is a number and
the second is absent. -/
theorem fails_for_first_unreadable_text_of_quotient_by_zero :
    let query : Query := {
      dataSource := "ads"
      aggregations := [.ofField .longSum "clicks" "clicks", .ofField .longSum "views" "views",
        .ofField .doubleSum "spend" "spend"] }
    let sum : PostAggregation := .arithmetic "sum" .add [.field "clicks", .field "spend",
      .sketchOperation "viewers" .union [.field "views"] none]
    let post : PostAggregation := .arithmetic "rate" .divide
      [sum, .arithmetic "difference" .subtract [.field "clicks", .field "clicks"]]
    let row : String → Option String := fun name =>
      if name = "clicks" then some " 7" else if name = "views" then some "many" else none
    post.validate query = .ok () ∧
      post.evaluate row = .error (.execution (.notNumeric "many" "views")) := by
  intro query sum post row
  have checked : post.validate query = .ok () := rfl
  have readable : ∀ earlier ∈ ["clicks", "spend"], ∀ text, row earlier = some text →
      ∃ number, Number.ofText? text = some number := by
    refine List.forall_mem_cons.mpr ⟨?_, List.forall_mem_singleton.mpr nofun⟩
    rintro _ ⟨⟩
    exact ⟨.integer 7, by decide +kernel⟩
  exact ⟨checked, ((fails_for_first_unreadable_text checked row).2.1 _).mpr
    ⟨["clicks", "spend"], "views", ["clicks", "clicks"], "many", rfl, readable, rfl,
      by decide +kernel, rfl⟩⟩

end PostAggregation

end Rollup
