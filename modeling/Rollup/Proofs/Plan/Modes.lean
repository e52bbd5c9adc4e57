import Rollup.Proofs.Plan.Columns

/-!
# The two places of post-aggregations

Whether the engine computes post-aggregations or whoever reads the rows, a query without an
explicit sort by one of them is accepted or refused alike, with the same error, and the
aggregates come from the same statement.  Where the engine computes them, that statement
stands inside another one, which takes over its sort and its limit.

Behind this is that the checks of post-aggregations leave nothing that can go wrong when
their expressions are built, and the checks of queries nothing that cannot be written.
-/

namespace Rollup

open Sql

/-! ## Expressions of checked post-aggregations -/

namespace PostAggregation

/-- An operation on a number of operands that it can have has an expression. -/
theorem exists_operationExpr (dialect : Dialect) {operator : ArithmeticOperator}
    {operands : List Expr} (arity : arityError? operator operands.length = none) :
    ∃ expr, operationExpr dialect operator operands = .ok expr := by
  obtain ⟨nonempty, quotient⟩ := arityError?_eq_none_iff.mp arity
  match operands with
  | [] => exact absurd rfl nonempty
  | [first] =>
      cases operator with
      | divide => cases quotient rfl
      | add => exact ⟨_, rfl⟩
      | subtract => exact ⟨_, rfl⟩
      | multiply => exact ⟨_, rfl⟩
  | first :: second :: rest => cases operator <;> exact ⟨_, rfl⟩

theorem exists_expressions {query : Query} {dialect : Dialect} {posts : List PostAggregation}
    (each : ∀ post ∈ posts, ∃ expr, post.expression query dialect = .ok expr) :
    ∃ exprs, expressions query dialect posts = .ok exprs ∧ exprs.length = posts.length := by
  induction posts with
  | nil => exact ⟨[], rfl, rfl⟩
  | cons post rest inductionHypothesis =>
      obtain ⟨⟨expr, built⟩, others⟩ := List.forall_mem_cons.mp each
      obtain ⟨exprs, builtOthers, sameLength⟩ := inductionHypothesis others
      refine ⟨expr :: exprs, ?_, congrArg Nat.succ sameLength⟩
      rw [expressions, built, builtOthers]
      rfl

/-- A checked post-aggregation has an expression in every dialect. -/
theorem exists_expression {query : Query} (dialect : Dialect) {post : PostAggregation}
    (checked : post.validate query = .ok ()) :
    ∃ expr, post.expression query dialect = .ok expr := by
  refine checked_induction ?constant ?field ?arithmetic ?sketchEstimate ?sketchOperation
    post checked
  case constant =>
    intro name value
    exact ⟨_, rfl⟩
  case field =>
    intro aggregation found
    refine ⟨.column aggregation, ?_⟩
    rw [expression, checkReference_eq_ok_iff.mpr found]
    rfl
  case arithmetic =>
    intro name operator fields arity operands
    obtain ⟨exprs, built, sameLength⟩ := exists_expressions operands
    obtain ⟨expr, combined⟩ := exists_operationExpr dialect (sameLength ▸ arity)
    refine ⟨expr, ?_⟩
    rw [expression, arity, built]
    exact combined
  case sketchEstimate =>
    intro name operand inner
    exact inner
  case sketchOperation =>
    intro name operator operand size sized inner
    obtain ⟨expr, built⟩ := inner
    refine ⟨expr, ?_⟩
    rw [expression]
    exact check_eq_ok_iff.mpr ⟨sized, built⟩

end PostAggregation

namespace Query

variable {query : Query} {table : Table} {fields : FieldMap} {dialect : Dialect}
  {mode : PostAggregationMode} {statement : Select}

/-! ## The aggregate statement -/

/-- Only a sort by a post-aggregation tells the modes apart. -/
theorem explicitSort_eq {sorts : List SortColumn}
    (unsorted : ∀ sort ∈ sorts, query.postAggregation? sort.column = none)
    (mode other : PostAggregationMode) :
    query.explicitSort fields mode sorts = query.explicitSort fields other sorts := by
  induction sorts with
  | nil => rfl
  | cons sort rest inductionHypothesis =>
      rw [List.forall_mem_cons] at unsorted
      have same : query.sortedColumn fields mode sort.column =
          query.sortedColumn fields other sort.column := by
        simp [sortedColumn, unsorted.1]
      rw [explicitSort, explicitSort, same, inductionHypothesis unsorted.2]

theorem aggregateStatement_eq
    (unsorted : ∀ sort ∈ query.sortColumns, query.postAggregation? sort.column = none)
    (mode other : PostAggregationMode) :
    query.aggregateStatement table fields dialect mode =
      query.aggregateStatement table fields dialect other := by
  rw [aggregateStatement, aggregateStatement, sortKeys, sortKeys,
    explicitSort_eq unsorted mode other]

/-- The post-aggregations of a query that has an aggregate statement are checked. -/
theorem validate_of_aggregateStatement
    (compiled : query.aggregateStatement table fields dialect mode = .ok statement) :
    ∀ post ∈ query.postAggregations, post.validate query = .ok () := by
  exact PostAggregation.validateList_eq_ok_iff.mp (aggregateStatement_eq_ok_iff.mp compiled).2.1

/-! ## The statement around it -/

/-- A statement adds the post-aggregations of a query to the columns of an aggregate
statement, each under its name, and takes over the sort and the limit of that statement. -/
structure IsAround (query : Query) (dialect : Dialect) (inner outer : Select) : Prop where
  projections : ∃ items, outer.projections = .allOf aggregateName :: items ∧
    List.Forall₂ (fun post item => ∃ name expr, post.name? = some name ∧
      post.expression query dialect = .ok expr ∧ item = .expr expr (some name))
      query.postAggregations items
  source : outer.source = .subquery { inner with order := [], limit := none } aggregateName
  order : outer.order = inner.order
  limit : outer.limit = inner.limit
  filter : outer.filter = none
  grouping : outer.grouping = []
  having : outer.having = none

/-- Behind the columns of the statement inside it, a statement has one column for each
post-aggregation, under its name. -/
theorem IsAround.outputNames {inner outer : Select} (around : query.IsAround dialect inner outer) :
    outer.outputNames = none :: query.postAggregations.map PostAggregation.name? := by
  obtain ⟨items, projected, columns⟩ := around.projections
  have names : items.map Projection.name? =
      query.postAggregations.map PostAggregation.name? := by
    generalize query.postAggregations = posts at columns
    clear projected
    induction columns with
    | nil => rfl
    | cons column _ inductionHypothesis =>
        obtain ⟨name, expr, named, _, rfl⟩ := column
        rw [List.map_cons, List.map_cons, inductionHypothesis, named]
        rfl
  rw [SelectFrom.outputNames, projected, List.map_cons, names]
  rfl

/-- Checked post-aggregations with names have columns. -/
theorem exists_postProjections {posts : List PostAggregation}
    (checked : ∀ post ∈ posts, post.validate query = .ok ())
    (named : ∀ post ∈ posts, post.name?.isSome) (dialect : Dialect) :
    ∃ items, query.postProjections dialect posts = .ok items ∧
      List.Forall₂ (fun post item => ∃ name expr, post.name? = some name ∧
        post.expression query dialect = .ok expr ∧ item = .expr expr (some name)) posts items := by
  induction posts with
  | nil => exact ⟨[], rfl, .nil⟩
  | cons post rest inductionHypothesis =>
      rw [List.forall_mem_cons] at checked named
      obtain ⟨expr, built⟩ := PostAggregation.exists_expression dialect checked.1
      obtain ⟨name, isName⟩ := Option.isSome_iff_exists.mp named.1
      obtain ⟨items, builtItems, others⟩ := inductionHypothesis checked.2 named.2
      refine ⟨.expr expr (some name) :: items, ?_, .cons ⟨name, expr, isName, built, rfl⟩ others⟩
      rw [postProjections, built, builtItems, isName]
      rfl

/-- Every aggregate statement can be put inside another one. -/
theorem exists_wrap
    (compiled : query.aggregateStatement table fields dialect mode = .ok statement) :
    ∃ outer, query.wrap dialect statement = .ok outer ∧
      query.IsAround dialect statement outer := by
  obtain ⟨items, built, columns⟩ := exists_postProjections
    (validate_of_aggregateStatement compiled) (aggregateStatement_columns compiled).1.postsNamed
    dialect
  have wrapped : query.wrap dialect statement = .ok {
      projections := .allOf aggregateName :: items
      source := .subquery { statement with order := [], limit := none } aggregateName
      order := statement.order
      limit := statement.limit } := by
    rw [wrap, built]
    rfl
  exact ⟨_, wrapped, ⟨⟨items, rfl, columns⟩, rfl, rfl, rfl, rfl, rfl, rfl⟩⟩

/-- The statement of a query is its aggregate statement or, where the engine computes
post-aggregations, a statement around that. -/
theorem statement_eq_or_isAround
    (compiled : query.statement table fields dialect mode = .ok statement) :
    ∃ inner, query.aggregateStatement table fields dialect mode = .ok inner ∧
      (statement = inner ∨ mode = .sql ∧ query.IsAround dialect inner statement) := by
  obtain ⟨inner, compiledInner, compiled⟩ := bind_eq_ok_iff.mp compiled
  refine ⟨inner, compiledInner, ?_⟩
  by_cases wrapped : mode = .sql ∧ query.postAggregations ≠ []
  · obtain ⟨outer, builtOuter, around⟩ := exists_wrap compiledInner
    rw [if_pos wrapped, builtOuter] at compiled
    cases compiled
    exact .inr ⟨wrapped.1, around⟩
  · rw [if_neg wrapped] at compiled
    cases compiled
    exact .inl rfl

/-! ## Statements are written -/

/-- A query that selects something has a column for it. -/
theorem dimensionColumns_ne_nil (grouped : query.groupingDimensions ≠ []) :
    query.dimensionColumns fields ≠ [] := by
  obtain ⟨dimension, member⟩ := List.exists_mem_of_ne_nil _ grouped
  exact List.ne_nil_of_mem (mem_dimensionColumns_iff.mpr ⟨dimension, member, rfl⟩)

theorem aggregateProjections_ne_nil {found : List Aggregate}
    (compiled : aggregates fields query.aggregations = .ok found)
    (aggregated : query.aggregations ≠ []) (dialect : Dialect) :
    aggregateProjections dialect query.aggregations found ≠ [] := by
  intro empty
  have names := aggregateProjections_names dialect (aggregates_forall₂ compiled)
  rw [empty, List.map_nil, eq_comm, List.map_eq_nil_iff, List.map_eq_nil_iff] at names
  exact aggregated names

/-- The statement of a query projects something, and so does the statement inside it. -/
theorem projects_of_aggregateStatement
    (compiled : query.aggregateStatement table fields dialect mode = .ok statement) :
    statement.projections ≠ [] ∧ statement.source = .table table.relationParts := by
  obtain ⟨checked, _, found, _, _, _, compiledAggregates, _, _, _, rfl⟩ :=
    aggregateStatement_eq_ok_iff.mp compiled
  simp only [check, andThen_eq_ok_iff] at checked
  obtain ⟨_, selects, _⟩ := checked
  refine ⟨fun empty => ?_, rfl⟩
  rw [aggregateColumns, List.append_eq_nil_iff, List.append_eq_nil_iff, List.map_eq_nil_iff]
    at empty
  obtain ⟨⟨_, noDimension⟩, noAggregate⟩ := empty
  have ungrouped : query.groupingDimensions = [] :=
    not_ne_iff.mp fun grouped => dimensionColumns_ne_nil grouped noDimension
  have unaggregated : query.aggregations = [] := not_ne_iff.mp fun aggregated =>
    aggregateProjections_ne_nil compiledAggregates aggregated dialect noAggregate
  rw [checkOutput, ungrouped, unaggregated] at selects
  cases selects

/-- A statement that was built can be written. -/
theorem exists_render (compiled : query.statement table fields dialect mode = .ok statement) :
    ∃ sql, statement.render dialect = .ok sql := by
  obtain ⟨inner, compiledInner, compiled⟩ := bind_eq_ok_iff.mp compiled
  obtain ⟨nonempty, source⟩ := projects_of_aggregateStatement compiledInner
  have innerProjects : (!inner.projections.isEmpty && inner.source.projects) = true := by
    rw [source, Bool.and_eq_true, Bool.not_eq_true', List.isEmpty_eq_false_iff]
    exact ⟨nonempty, rfl⟩
  have projects : statement.projects = true := by
    split at compiled
    · obtain ⟨items, _, built⟩ := bind_eq_ok_iff.mp compiled
      cases built
      exact innerProjects
    · cases compiled
      exact innerProjects
  exact ⟨_, if_pos projects⟩

/-- Compiling a query fails as building its statement does. -/
theorem compile_endAlike {other : PostAggregationMode} {otherDialect : Dialect}
    {related : Select → Select → Prop}
    (alike : EndAlike related (query.statement table fields dialect mode)
      (query.statement table fields otherDialect other)) :
    EndAlike (fun first second : Compiled => related first.statement second.statement)
      (query.compile table fields dialect mode)
      (query.compile table fields otherDialect other) := by
  refine alike.bind fun first second stated statedOther related => ?_
  obtain ⟨sql, rendered⟩ := exists_render stated
  obtain ⟨sqlOther, renderedOther⟩ := exists_render statedOther
  rw [rendered, renderedOther]
  exact .ok related

/-! ## Both modes -/

/-- Without an explicit sort by a post-aggregation, a query compiles alike in both modes.
Where it does, the engine runs the same statement in both if there are no post-aggregations,
and otherwise the one around it.  Checked post-aggregations have expressions in every
dialect, and statements that were built can be written. -/
theorem modes_agree (query : Query) (table : Table) (fields : FieldMap) (dialect : Dialect)
    (unsorted : ∀ sort ∈ query.sortColumns, query.postAggregation? sort.column = none) :
    EndAlike
        (fun bySql direct : Compiled =>
          (query.postAggregations = [] → bySql.statement = direct.statement) ∧
            (query.postAggregations ≠ [] →
              query.IsAround dialect direct.statement bySql.statement))
        (query.compile table fields dialect .sql) (query.compile table fields dialect .direct) ∧
      (∀ post : PostAggregation, post.validate query = .ok () →
        ∀ anyDialect, ∃ expr, post.expression query anyDialect = .ok expr) ∧
      ∀ mode statement, query.statement table fields dialect mode = .ok statement →
        ∃ sql, statement.render dialect = .ok sql := by
  have alike : EndAlike
      (fun bySql direct => (query.postAggregations = [] → bySql = direct) ∧
        (query.postAggregations ≠ [] → query.IsAround dialect direct bySql))
      (query.statement table fields dialect .sql)
      (query.statement table fields dialect .direct) := by
    rw [statement, statement, aggregateStatement_eq unsorted .sql .direct]
    refine EndAlike.andThen fun inner compiled => ?_
    by_cases none : query.postAggregations = []
    · rw [if_neg (fun wrapped => wrapped.2 none), if_neg (fun wrapped => wrapped.2 none)]
      exact .ok ⟨fun _ => rfl, fun some => absurd none some⟩
    · obtain ⟨outer, wrapped, around⟩ := exists_wrap compiled
      rw [if_pos ⟨rfl, none⟩, if_neg (fun wrapped => by cases wrapped.1), wrapped]
      exact .ok ⟨fun empty => absurd empty none, fun _ => around⟩
  exact ⟨compile_endAlike alike, fun _ checked anyDialect =>
    PostAggregation.exists_expression anyDialect checked, fun _ _ => exists_render⟩

/-- The daily totals of each region, the greatest first, with an average. -/
def topDailyAverages : Query where
  dataSource := "sales"
  dimensions := ["region"]
  granularity := .day
  aggregations := [.count "rows", .ofField .longSum "total" "amount"]
  postAggregations := [.arithmetic "average" .divide [.field "total", .field "rows"]]
  limitSpec := some ⟨some 5, [⟨"total", .descending⟩]⟩

/-- The sort by the total and the limit are around the statement, not in it. -/
theorem modes_agree_on_topDailyAverages :
    let table : Table := ⟨"sales", "sales", "ts", [⟨"region", some "region_cd"⟩]⟩
    let fields := FieldMap.ofTable table
    (∀ sort ∈ topDailyAverages.sortColumns,
        topDailyAverages.postAggregation? sort.column = none) ∧
      ∃ bySql direct, topDailyAverages.compile table fields .sqlite .sql = .ok bySql ∧
        topDailyAverages.compile table fields .sqlite .direct = .ok direct ∧
        topDailyAverages.IsAround .sqlite direct.statement bySql.statement ∧
        direct.statement.order.length = 4 ∧ bySql.statement.limit = some 5 := by
  intro table fields
  have unsorted : ∀ sort ∈ topDailyAverages.sortColumns,
      topDailyAverages.postAggregation? sort.column = none := List.forall_mem_singleton.mpr rfl
  refine ⟨unsorted, _, _, rfl, rfl, ?_, rfl, rfl⟩
  exact ((modes_agree topDailyAverages table fields .sqlite unsorted).1.results rfl rfl).2
    (List.cons_ne_nil _ _)

end Query

end Rollup
