import Rollup.Proofs.Plan.Conditions

/-!
# Queries without their post-aggregations

Where post-aggregations are left to whoever reads the rows, the engine does not see them: a
query that compiles compiles to the same statement without them.
-/

namespace Rollup

open Sql

/-- Two queries that group by the same dimensions have the same conditions for filters. -/
theorem FilterScope.condition_eq_of_groupsBy {dialect : Dialect} {fields : FieldMap}
    {query other : Query} (same : query.groupsBy = other.groupsBy) (filter : Filter) :
    FilterScope.condition ⟨dialect, fields, query⟩ filter =
      FilterScope.condition ⟨dialect, fields, other⟩ filter := by
  have column (dimension : String) : FilterScope.column ⟨dialect, fields, query⟩ dimension =
      FilterScope.column ⟨dialect, fields, other⟩ dimension := by
    have known : knows ⟨dialect, fields, query⟩ dimension =
        knows ⟨dialect, fields, other⟩ dimension := by
      rw [knows, knows, same]
    rw [FilterScope.column, FilterScope.column, known]
  have listed {filters : List Filter}
      (each : ∀ filter ∈ filters, FilterScope.condition ⟨dialect, fields, query⟩ filter =
        FilterScope.condition ⟨dialect, fields, other⟩ filter) :
      FilterScope.conditions ⟨dialect, fields, query⟩ filters =
        FilterScope.conditions ⟨dialect, fields, other⟩ filters := by
    induction filters with
    | nil => rfl
    | cons filter rest inductionHypothesis =>
        rw [List.forall_mem_cons] at each
        rw [conditions, conditions, each.1, inductionHypothesis each.2]
  induction filter using Filter.induction with
  | selector dimension value => rw [condition, condition, column]
  | regex dimension pattern => rw [condition, condition, column]
  | search dimension wanted =>
      rw [condition, condition, searchCondition, searchCondition, column]
  | oneOf dimension values =>
      rw [condition, condition, membershipCondition, membershipCondition, column]
  | all filters each => rw [condition, condition, listed each]
  | any filters each => rw [condition, condition, listed each]
  | not filter negated => rw [condition, condition, negated]

namespace Query

/-- A query without its post-aggregations. -/
def aggregatesOnly (query : Query) : Query :=
  { query with postAggregations := [] }

variable {query : Query} {table : Table} {fields : FieldMap} {dialect : Dialect}
  {statement : Select}

theorem check_aggregatesOnly (checked : query.check fields = .ok ()) :
    query.aggregatesOnly.check fields = .ok () := by
  simp only [check, andThen_eq_ok_iff] at checked ⊢
  obtain ⟨shaped, selects, aggregationsNamed, _⟩ := checked
  exact ⟨shaped, selects, aggregationsNamed, rfl⟩

/-- A sort that needs no post-aggregation is the same without them. -/
theorem sortedColumn_aggregatesOnly {name column : String}
    (sorted : query.sortedColumn fields .direct name = .ok column) :
    query.aggregatesOnly.sortedColumn fields .direct name = .ok column := by
  unfold sortedColumn at sorted ⊢
  by_cases aggregated : (query.aggregation? name).isSome = true
  · rw [if_pos aggregated] at sorted
    exact (if_pos aggregated).trans sorted
  · rw [if_neg aggregated] at sorted
    by_cases reported : (query.postAggregation? name).isSome = true
    · rw [if_pos reported] at sorted
      cases sorted
    · rw [if_neg reported] at sorted
      exact (if_neg aggregated).trans sorted

theorem explicitSort_aggregatesOnly {sorts : List SortColumn}
    {found : List (String × SortDirection)}
    (sorted : query.explicitSort fields .direct sorts = .ok found) :
    query.aggregatesOnly.explicitSort fields .direct sorts = .ok found := by
  induction sorts generalizing found with
  | nil => exact sorted
  | cons sort rest inductionHypothesis =>
      obtain ⟨column, sortedFirst, remaining⟩ := bind_eq_ok_iff.mp sorted
      obtain ⟨others, sortedOthers, built⟩ := bind_eq_ok_iff.mp remaining
      rw [explicitSort, sortedColumn_aggregatesOnly sortedFirst,
        inductionHypothesis sortedOthers]
      exact built

theorem sortKeys_aggregatesOnly {keys : List SortKey}
    (sorted : query.sortKeys fields .direct = .ok keys) :
    query.aggregatesOnly.sortKeys fields .direct = .ok keys := by
  obtain ⟨explicit, sortedExplicit, built⟩ := bind_eq_ok_iff.mp sorted
  exact bind_eq_ok_iff.mpr ⟨explicit, explicitSort_aggregatesOnly sortedExplicit, built⟩

theorem aggregateStatement_aggregatesOnly
    (compiled : query.aggregateStatement table fields dialect .direct = .ok statement) :
    query.aggregatesOnly.aggregateStatement table fields dialect .direct = .ok statement := by
  obtain ⟨checked, _, found, filter, having, order, compiledAggregates, compiledFilter,
    compiledHaving, compiledOrder, rfl⟩ := aggregateStatement_eq_ok_iff.mp compiled
  have sameFilter : FilterScope.condition ⟨dialect, fields, query.aggregatesOnly⟩ =
      FilterScope.condition ⟨dialect, fields, query⟩ :=
    funext (FilterScope.condition_eq_of_groupsBy rfl)
  rw [← sameFilter] at compiledFilter
  exact aggregateStatement_eq_ok_iff.mpr ⟨check_aggregatesOnly checked, rfl, found, filter, having,
    order, compiledAggregates, compiledFilter, compiledHaving,
    sortKeys_aggregatesOnly compiledOrder, rfl⟩

/-- A query compiled for whoever reads the rows compiles alike without its
post-aggregations. -/
theorem compile_aggregatesOnly {compiled : Compiled}
    (compiles : query.compile table fields dialect .direct = .ok compiled) :
    query.aggregatesOnly.compile table fields dialect .direct = .ok compiled := by
  obtain ⟨statement, stated, remaining⟩ := bind_eq_ok_iff.mp compiles
  obtain ⟨inner, compiledInner, stated⟩ := bind_eq_ok_iff.mp stated
  rw [if_neg fun wrapped => by cases wrapped.1] at stated
  cases stated
  refine bind_eq_ok_iff.mpr ⟨statement, bind_eq_ok_iff.mpr ⟨statement, ?_, ?_⟩, remaining⟩
  · exact aggregateStatement_aggregatesOnly compiledInner
  · exact if_neg fun wrapped => by cases wrapped.1

end Query

end Rollup
