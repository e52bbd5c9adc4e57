import Rollup.Proofs.Filter.Meaning

/-!
# Rows that a filter selects

A statement keeps the rows on which its condition is true.  The two ways of reading a
filter on a row agree wherever the three-valued one is known, so the rows kept are among
those of which the filter holds.  They are all of these when no dimension under a negation
is `NULL`; the negation of a leaf on `NULL` is unknown, while the leaf does not hold.
-/

namespace Rollup

open Sql

namespace Filter

variable (engine : Engine) (cell : String → Option String)

/-- Where the truth value of a filter is known, it tells whether the filter holds. -/
theorem holds_of_truth_eq_some (filter : Filter) :
    ∀ value, filter.truth engine cell = some value → filter.holds engine cell = value := by
  have leaf (dimension : String) (test : String → Bool) (value : Bool)
      (known : (cell dimension).map test = some value) : (cell dimension).any test = value := by
    obtain ⟨text, found, rfl⟩ := Option.map_eq_some_iff.mp known
    rw [found, Option.any_some]
  induction filter using Filter.induction with
  | selector dimension value => exact leaf dimension _
  | regex dimension pattern => exact leaf dimension _
  | search dimension wanted => exact leaf dimension _
  | oneOf dimension values => exact leaf dimension _
  | all filters inductionHypothesis =>
      intro value known
      rw [truth, truths_eq_map] at known
      rw [holds, holdsAll_eq_all]
      cases value with
      | true =>
          rw [List.all_eq_true]
          intro filter member
          exact inductionHypothesis filter member true
            (Truth.all_eq_true_iff.mp known _ (List.mem_map_of_mem member))
      | false =>
          obtain ⟨filter, member, unmet⟩ :=
            List.mem_map.mp (Truth.all_eq_false_iff.mp known)
          rw [List.all_eq_false]
          exact ⟨filter, member, by rw [inductionHypothesis filter member false unmet]; decide⟩
  | any filters inductionHypothesis =>
      intro value known
      rw [truth, truths_eq_map] at known
      rw [holds, holdsAny_eq_any]
      cases value with
      | true =>
          obtain ⟨filter, member, met⟩ := List.mem_map.mp (Truth.any_eq_true_iff.mp known)
          rw [List.any_eq_true]
          exact ⟨filter, member, inductionHypothesis filter member true met⟩
      | false =>
          rw [List.any_eq_false]
          intro filter member
          rw [inductionHypothesis filter member false
            (Truth.any_eq_false_iff.mp known _ (List.mem_map_of_mem member))]
          decide
  | not filter inductionHypothesis =>
      intro value known
      rw [truth, Truth.not_eq_some_iff] at known
      rw [holds, inductionHypothesis (!value) known, Bool.not_not]

/-! ## Negated dimensions -/

mutual

/-- The dimensions of the leaves of a filter that stand under an odd number of negations,
where `negated` tells whether the filter itself stands under one. -/
def negatedDimensions (negated : Bool) : Filter → List String
  | .selector dimension _ => if negated then [dimension] else []
  | .regex dimension _ => if negated then [dimension] else []
  | .search dimension _ => if negated then [dimension] else []
  | .oneOf dimension _ => if negated then [dimension] else []
  | .all filters => negatedDimensionsOfList negated filters
  | .any filters => negatedDimensionsOfList negated filters
  | .not filter => negatedDimensions (!negated) filter
termination_by structural filter => filter

/-- The dimensions of the leaves of some filters that stand under an odd number of
negations. -/
def negatedDimensionsOfList (negated : Bool) : List Filter → List String
  | [] => []
  | filter :: rest => negatedDimensions negated filter ++ negatedDimensionsOfList negated rest
termination_by structural filters => filters

end

theorem mem_negatedDimensionsOfList {negated : Bool} {filters : List Filter} {filter : Filter}
    (member : filter ∈ filters) {dimension : String}
    (named : dimension ∈ filter.negatedDimensions negated) :
    dimension ∈ negatedDimensionsOfList negated filters := by
  induction filters with
  | nil => cases member
  | cons first rest inductionHypothesis =>
      rw [negatedDimensionsOfList, List.mem_append]
      rcases List.mem_cons.mp member with rfl | later
      · exact .inl named
      · exact .inr (inductionHypothesis later)

/-- Where no dimension under an odd number of negations is `NULL`, the truth value of a
filter is true as soon as the filter holds.  Under a negation it is false as soon as the
filter does not hold. -/
theorem truth_eq_some_iff_holds (filter : Filter) :
    ∀ negated, (∀ dimension ∈ filter.negatedDimensions negated, cell dimension ≠ none) →
      (filter.truth engine cell = some (!negated) ↔ filter.holds engine cell = !negated) := by
  have leaf (dimension : String) (test : String → Bool) (negated : Bool)
      (present : ∀ name ∈ (if negated then [dimension] else []), cell name ≠ none) :
      (cell dimension).map test = some (!negated) ↔ (cell dimension).any test = !negated := by
    cases found : cell dimension with
    | some text => simp
    | none =>
        cases negated with
        | false => simp
        | true => exact absurd found (present dimension (by simp))
  induction filter using Filter.induction with
  | selector dimension value => exact leaf dimension _
  | regex dimension pattern => exact leaf dimension _
  | search dimension wanted => exact leaf dimension _
  | oneOf dimension values => exact leaf dimension _
  | all filters inductionHypothesis =>
      intro negated present
      have operands : ∀ filter ∈ filters,
          (filter.truth engine cell = some (!negated) ↔ filter.holds engine cell = !negated) :=
        fun filter member => inductionHypothesis filter member negated fun dimension named =>
          present dimension (mem_negatedDimensionsOfList member named)
      rw [truth, truths_eq_map, holds, holdsAll_eq_all]
      cases negated with
      | false =>
          rw [Bool.not_false] at operands ⊢
          rw [Truth.all_eq_true_iff, List.forall_mem_map, List.all_eq_true]
          exact forall₂_congr operands
      | true =>
          rw [Bool.not_true] at operands ⊢
          rw [Truth.all_eq_false_iff, List.mem_map, List.all_eq_false]
          simp only [Bool.not_eq_true]
          exact exists_congr fun filter => and_congr_right fun member => operands filter member
  | any filters inductionHypothesis =>
      intro negated present
      have operands : ∀ filter ∈ filters,
          (filter.truth engine cell = some (!negated) ↔ filter.holds engine cell = !negated) :=
        fun filter member => inductionHypothesis filter member negated fun dimension named =>
          present dimension (mem_negatedDimensionsOfList member named)
      rw [truth, truths_eq_map, holds, holdsAny_eq_any]
      cases negated with
      | false =>
          rw [Bool.not_false] at operands ⊢
          rw [Truth.any_eq_true_iff, List.mem_map, List.any_eq_true]
          exact exists_congr fun filter => and_congr_right fun member => operands filter member
      | true =>
          rw [Bool.not_true] at operands ⊢
          rw [Truth.any_eq_false_iff, List.forall_mem_map, List.any_eq_false]
          simp only [Bool.not_eq_true]
          exact forall₂_congr operands
  | not filter inductionHypothesis =>
      intro negated present
      have inner := inductionHypothesis (!negated) present
      rw [truth, Truth.not_eq_some_iff, inner, holds]
      cases filter.holds engine cell <;> cases negated <;> decide

/-- A filter has the truth value true exactly where it holds without being unknown. -/
theorem truth_eq_true_iff (filter : Filter) :
    filter.truth engine cell = some true ↔
      filter.holds engine cell = true ∧ filter.truth engine cell ≠ none := by
  constructor
  · intro known
    exact ⟨holds_of_truth_eq_some engine cell filter true known, by simp [known]⟩
  · rintro ⟨holding, known⟩
    obtain ⟨value, valued⟩ := Option.ne_none_iff_exists'.mp known
    rw [valued, ← holds_of_truth_eq_some engine cell filter value valued, holding]

end Filter

namespace FilterScope

/-- A compiled filter keeps only rows of which the filter holds.  Among these it loses the
ones on which the filter is unknown and no other, so none where every dimension under an
odd number of negations has a text. -/
theorem condition_keeps_row (scope : FilterScope) (filter : Filter) (expr : Expr)
    (compiled : scope.condition filter = .ok expr) (engine : Engine)
    (keeps : KeepsPatternSigns engine.lower) (row : String → Option String) :
    let kept := expr.truth (scope.environment engine row) = some true
    let holding := filter.holds engine (scope.cell row) = true
    (kept → holding) ∧
      ((kept ↔ holding) ↔ ¬(holding ∧ filter.truth engine (scope.cell row) = none)) ∧
      ((∀ dimension ∈ filter.negatedDimensions false, scope.cell row dimension ≠ none) →
        (kept ↔ holding)) := by
  intro kept holding
  have meaning : kept ↔ holding ∧ filter.truth engine (scope.cell row) ≠ none := by
    change expr.truth (scope.environment engine row) = some true ↔ _
    rw [truth_condition engine row keeps filter expr compiled]
    exact Filter.truth_eq_true_iff engine (scope.cell row) filter
  refine ⟨fun met => (meaning.mp met).1, ?_, ?_⟩
  · rw [meaning]
    constructor
    · rintro agrees ⟨holds, unknown⟩
      exact (agrees.mpr holds).2 unknown
    · intro apart
      exact ⟨And.left, fun holds => ⟨holds, fun unknown => apart ⟨holds, unknown⟩⟩⟩
  · intro present
    change expr.truth (scope.environment engine row) = some true ↔ _
    rw [truth_condition engine row keeps filter expr compiled]
    exact Filter.truth_eq_some_iff_holds engine (scope.cell row) filter false present

/-- A negated selector keeps the row of another region. -/
theorem condition_keeps_row_of_other_region :
    let scope : FilterScope := ⟨.ansi, ⟨[("region", "region_cd")]⟩, { dataSource := "sales" }⟩
    let filter : Filter := .not (.selector "region" "US")
    let row : String → Option String := fun _ => some "CA"
    ∃ expr, scope.condition filter = .ok expr ∧ KeepsPatternSigns Engine.plain.lower ∧
      (∀ dimension ∈ filter.negatedDimensions false, scope.cell row dimension ≠ none) ∧
      expr.truth (scope.environment Engine.plain row) = some true := by
  intro scope filter row
  have present : ∀ dimension ∈ filter.negatedDimensions false,
      scope.cell row dimension ≠ none := by
    intro dimension _
    exact Option.some_ne_none _
  refine ⟨_, rfl, keepsPatternSigns_toLower, present, ?_⟩
  have keepsRow :=
    condition_keeps_row scope filter _ rfl Engine.plain keepsPatternSigns_toLower row
  exact (keepsRow.2.2 present).mpr (by decide)

/-- A negated selector loses the row without a region, although the filter holds of it. -/
theorem condition_loses_null_region :
    let scope : FilterScope := ⟨.ansi, ⟨[("region", "region_cd")]⟩, { dataSource := "sales" }⟩
    let filter : Filter := .not (.selector "region" "US")
    let row : String → Option String := fun _ => none
    ∃ expr, scope.condition filter = .ok expr ∧ KeepsPatternSigns Engine.plain.lower ∧
      filter.holds Engine.plain (scope.cell row) = true ∧
      expr.truth (scope.environment Engine.plain row) ≠ some true := by
  intro scope filter row
  exact ⟨_, rfl, keepsPatternSigns_toLower, by decide, by decide⟩

end FilterScope

end Rollup
