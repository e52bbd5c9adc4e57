import Rollup.Proofs.Formula.Checked
import Rollup.Proofs.Plan.Conditions

/-!
# Names that statements write without quotes

The functions, types and fields that the statement of a query names are those of the
dialects.  They have bare names, so no part of a statement that is written without quotes can
open a quote, whatever the query, the table and the mapping of its columns are.
-/

namespace Rollup

open Sql

theorem Sql.namesAreBare_column (name : String) : (Expr.column name).NamesAreBare :=
  (Expr.IsOperand.column name).namesAreBare

namespace Query

variable {query : Query} {table : Table} {fields : FieldMap} {dialect : Dialect}
  {mode : PostAggregationMode} {statement : Select}

theorem namesAreBare_timeProjections {timestamp : Expr} (bare : timestamp.NamesAreBare) :
    ∀ projection ∈ query.timeProjections dialect timestamp,
      ∀ expr ∈ projection.exprs, expr.NamesAreBare := by
  intro projection listed
  obtain ⟨key, grouped, _, stands⟩ := timeProjections_grouped query dialect timestamp _ listed
  have keyBare : key.NamesAreBare :=
    timeKeys_inherited Expr.namesAreBare_isInherited query dialect bare key grouped
  rcases stands with rfl | rfl
  · exact List.forall_mem_singleton.mpr keyBare
  · exact List.forall_mem_singleton.mpr
      (Expr.namesAreBare_isInherited.textCast dialect keyBare)

theorem namesAreBare_aggregateProjections {aggregations : List Aggregation}
    {aggregates : List Aggregate} (bare : AggregatesAreBare aggregates) :
    ∀ projection ∈ aggregateProjections dialect aggregations aggregates,
      ∀ expr ∈ projection.exprs, expr.NamesAreBare := by
  unfold aggregateProjections
  rw [List.forall_mem_map]
  intro pair listed
  have called : pair.2.call.NamesAreBare :=
    Expr.forall_bareNames_aggregate.mpr (bare pair.2 (List.of_mem_zip listed).2)
  exact List.forall_mem_singleton.mpr
    (Expr.namesAreBare_isInherited.projectAggregate dialect called _)

theorem namesAreBare_postProjections {posts : List PostAggregation} {items : List Projection}
    (checked : ∀ post ∈ posts, post.validate query = .ok ())
    (compiled : query.postProjections dialect posts = .ok items) :
    ∀ projection ∈ items, ∀ expr ∈ projection.exprs, expr.NamesAreBare := by
  induction posts generalizing items with
  | nil =>
      cases compiled
      exact fun _ listed => by cases listed
  | cons post rest inductionHypothesis =>
      rw [List.forall_mem_cons] at checked
      obtain ⟨expr, found, remaining⟩ := bind_eq_ok_iff.mp compiled
      obtain ⟨others, foundOthers, built⟩ := bind_eq_ok_iff.mp remaining
      cases built
      have first : expr.NamesAreBare :=
        PostAggregation.expression_inherited Expr.namesAreBare_isInherited
          (fun name _ => namesAreBare_column name) checked.1 expr found
      exact List.forall_mem_cons.mpr ⟨List.forall_mem_singleton.mpr first,
        inductionHypothesis checked.2 foundOthers⟩

/-- A statement sorts by columns. -/
theorem namesAreBare_sortKeys {keys : List SortKey}
    (compiled : query.sortKeys fields mode = .ok keys) :
    ∀ key ∈ keys, key.expr.NamesAreBare := by
  obtain ⟨explicit, _, built⟩ := bind_eq_ok_iff.mp compiled
  cases built
  rw [List.forall_mem_map]
  exact fun sort _ => namesAreBare_column sort.1

/-- Every expression of an aggregate statement has bare names. -/
theorem aggregateStatement_namesAreBare
    (compiled : query.aggregateStatement table fields dialect mode = .ok statement) :
    ∀ expr ∈ statement.exprs, expr.NamesAreBare := by
  obtain ⟨filterBuilt, havingBuilt⟩ := aggregateStatement_conditions compiled
  obtain ⟨_, _, aggregates, filter, having, order, compiledAggregates, _, _, compiledOrder, rfl⟩ :=
    aggregateStatement_eq_ok_iff.mp compiled
  have timestamp := (dialect.isOperand_timestampColumn table.timestampColumn).namesAreBare
  have dimensions : ∀ expr ∈ (query.dimensionColumns fields).map Expr.column,
      expr.NamesAreBare :=
    List.forall_mem_map.mpr fun column _ => namesAreBare_column column
  refine forall_selectExprs.mpr ⟨?projections, ?source, ?filter, ?grouping, ?having, ?order⟩
  case projections =>
    refine List.forall_mem_append.mpr
      ⟨List.forall_mem_append.mpr ⟨namesAreBare_timeProjections timestamp, ?_⟩, ?_⟩
    · rw [List.forall_mem_map]
      exact fun column _ => List.forall_mem_singleton.mpr (namesAreBare_column column)
    · exact namesAreBare_aggregateProjections (aggregatesAreBare_aggregates compiledAggregates)
  case source => exact fun _ listed => by cases listed
  case filter => exact fun expr listed => (filterBuilt expr listed).isCondition.namesAreBare
  case grouping => exact List.forall_mem_append.mpr ⟨dimensions,
    timeKeys_inherited Expr.namesAreBare_isInherited query dialect timestamp⟩
  case having => exact fun expr listed => (havingBuilt expr listed).isCondition.namesAreBare
  case order => exact namesAreBare_sortKeys compiledOrder

/-- A statement around another one adds the expressions of post-aggregations. -/
theorem wrap_namesAreBare {inner : Select}
    (checked : ∀ post ∈ query.postAggregations, post.validate query = .ok ())
    (bare : ∀ expr ∈ inner.exprs, expr.NamesAreBare)
    (compiled : query.wrap dialect inner = .ok statement) :
    ∀ expr ∈ statement.exprs, expr.NamesAreBare := by
  obtain ⟨posts, compiledPosts, built⟩ := bind_eq_ok_iff.mp compiled
  cases built
  have absent : ∀ expr ∈ (none : Option Expr), expr.NamesAreBare := by
    rintro _ ⟨⟩
  obtain ⟨projections, source, filter, grouping, having, order⟩ := forall_selectExprs.mp bare
  have sourceBare := forall_selectExprs.mpr
    ⟨projections, source, filter, grouping, having, List.forall_mem_nil _⟩
  have postsBare := namesAreBare_postProjections checked compiledPosts
  exact forall_selectExprs.mpr ⟨List.forall_mem_cons.mpr ⟨List.forall_mem_nil _, postsBare⟩,
    sourceBare, absent, List.forall_mem_nil _, absent, order⟩

/-- In every statement of a query no function, type or field opens a quote, so the statement
can be read by the lexer of its dialect. -/
theorem statement_namesArePlain
    (compiled : query.statement table fields dialect mode = .ok statement) :
    statement.NamesArePlain dialect := by
  obtain ⟨inner, compiledInner, compiled⟩ := bind_eq_ok_iff.mp compiled
  have innerBare := aggregateStatement_namesAreBare compiledInner
  have checked :=
    PostAggregation.validateList_eq_ok_iff.mp (aggregateStatement_eq_ok_iff.mp compiledInner).2.1
  have bare : ∀ expr ∈ statement.exprs, expr.NamesAreBare := by
    split at compiled
    · exact wrap_namesAreBare checked innerBare compiled
    · cases compiled
      exact innerBare
  exact fun expr listed => (bare expr listed).namesArePlain

end Query

end Rollup
