import Mathlib.Data.List.Forall2
import Rollup.Plan.Compiled
import Rollup.Proofs.Plan.Names
import Rollup.Proofs.Sql.Inherited

/-!
# Columns of statements

The columns of the rows that a statement gives, in order.  A statement around another one
repeats the columns of that one, so the statement of a query has the same columns in both
modes up to the post-aggregations: time columns, dimensions, aggregates.
-/

namespace Rollup

namespace Sql

/-- What an item of a `SELECT` list gives, where all columns of a relation are those of
the source. -/
def Projection.expand (source : List Projection) : Projection → List Projection
  | .allOf _ => source
  | item => [item]

/-- The items behind the columns of a relation.  Those of a table are not looked up. -/
def Relation.columns : Relation → List Projection
  | .table _ => []
  | .subquery ⟨projections, source, _, _, _, _, _⟩ _ =>
      projections.flatMap (Projection.expand source.columns)
termination_by structural relation => relation

/-- The items behind the columns of a statement. -/
def SelectFrom.columns (select : Select) : List Projection :=
  select.projections.flatMap (Projection.expand select.source.columns)

@[simp]
theorem columns_subquery (inner : Select) (name : String) :
    (Relation.subquery inner name).columns = inner.columns := by
  cases inner
  rfl

/-- Items with names stand for themselves. -/
theorem expand_of_named {source items : List Projection} {names : List String}
    (named : items.map Projection.name? = names.map some) :
    items.flatMap (Projection.expand source) = items := by
  induction items generalizing names with
  | nil => rfl
  | cons item rest inductionHypothesis =>
      cases names with
      | nil => cases named
      | cons name others =>
          obtain ⟨first, later⟩ := List.cons.inj named
          rw [List.flatMap_cons, inductionHypothesis later]
          cases item with
          | expr value own => rfl
          | allOf relation => cases first

end Sql

namespace Query

open Sql

/-! ## Parts of the select list -/

theorem timeProjections_names (query : Query) (dialect : Dialect) (timestamp : Expr) :
    (query.timeProjections dialect timestamp).map Projection.name? =
      query.granularity.timeColumnNames.map some := by
  unfold timeProjections timeKeys Granularity.timeColumnNames
  rw [List.map_map]
  by_cases raw : query.granularity.groupsByTimestamp = true
  · rw [if_pos raw, if_pos raw]
    rfl
  · rw [if_neg raw, if_neg raw, List.map_map, List.map_map]
    rfl

/-- A time column is an expression that is grouped by, or the text of one. -/
theorem timeProjections_grouped (query : Query) (dialect : Dialect) (timestamp : Expr) :
    ∀ item ∈ query.timeProjections dialect timestamp,
      ∃ key ∈ (query.timeKeys dialect timestamp).map Prod.fst, ∃ name,
        item = .expr key name ∨ item = .expr (dialect.timestampText key) name := by
  unfold timeProjections
  rw [List.forall_mem_map]
  rintro ⟨key, name⟩ listed
  refine ⟨key, List.mem_map.mpr ⟨_, listed, rfl⟩, some name, ?_⟩
  by_cases raw : query.granularity.groupsByTimestamp = true
  · right
    simp only [if_pos raw]
  · left
    simp only [if_neg raw]

/-- What a statement groups by in time has the inherited properties of the timestamp. -/
theorem timeKeys_inherited {P : Expr → Prop} (inherited : Expr.IsInherited P) (query : Query)
    (dialect : Dialect) {timestamp : Expr} (holds : P timestamp) :
    ∀ key ∈ (query.timeKeys dialect timestamp).map Prod.fst, P key := by
  unfold timeKeys
  rw [List.forall_mem_map]
  split
  · exact List.forall_mem_singleton.mpr holds
  · rw [List.forall_mem_map]
    exact fun part _ => inherited.timePart dialect holds part

/-- Aggregates are those of the aggregations, one by one. -/
theorem aggregates_forall₂ {fields : FieldMap} {aggregations : List Aggregation}
    {found : List Aggregate} (compiled : aggregates fields aggregations = .ok found) :
    List.Forall₂ (fun aggregation aggregate => Query.aggregate fields aggregation = .ok aggregate)
      aggregations found :=
  forall₂_of_collected (aggregates fields) rfl (fun _ _ => rfl) compiled

/-- An aggregate takes the name of its aggregation. -/
theorem name_of_aggregate {fields : FieldMap} {aggregation : Aggregation} {aggregate : Aggregate}
    (compiled : Query.aggregate fields aggregation = .ok aggregate) :
    aggregate.name = aggregation.name := by
  obtain ⟨kind, name, field?⟩ := aggregation
  cases field? with
  | none => cases kind <;> first | cases compiled; rfl | cases compiled
  | some field => cases kind <;> (cases compiled; rfl)

/-- The column of an aggregation is the dialect's projection of its aggregate. -/
theorem aggregateProjections_getElem? {fields : FieldMap} (dialect : Dialect)
    {aggregations : List Aggregation} {found : List Aggregate}
    (compiled : List.Forall₂
      (fun aggregation aggregate => Query.aggregate fields aggregation = .ok aggregate)
      aggregations found)
    {index : Nat} {aggregation : Aggregation} (listed : aggregations[index]? = some aggregation) :
    ∃ aggregate, Query.aggregate fields aggregation = .ok aggregate ∧
      (aggregateProjections dialect aggregations found)[index]? =
        some (.expr (dialect.projectAggregate aggregate.call aggregation.kind.isFloat)
          (some aggregation.name)) := by
  induction compiled generalizing index with
  | nil => cases listed
  | @cons first aggregate rest others compiledFirst _ inductionHypothesis =>
      cases index with
      | zero =>
          cases listed
          refine ⟨aggregate, compiledFirst, ?_⟩
          rw [← name_of_aggregate compiledFirst]
          rfl
      | succ index => exact inductionHypothesis listed

theorem aggregateProjections_names {fields : FieldMap} (dialect : Dialect)
    {aggregations : List Aggregation} {found : List Aggregate}
    (compiled : List.Forall₂
      (fun aggregation aggregate => Query.aggregate fields aggregation = .ok aggregate)
      aggregations found) :
    (aggregateProjections dialect aggregations found).map Projection.name? =
      (aggregations.map Aggregation.name).map some := by
  induction compiled with
  | nil => rfl
  | cons compiledFirst _ inductionHypothesis =>
      rw [List.map_cons, List.map_cons, ← inductionHypothesis, ← name_of_aggregate compiledFirst]
      rfl

theorem postProjections_names {query : Query} {dialect : Dialect}
    {posts : List PostAggregation} {items : List Projection}
    (compiled : query.postProjections dialect posts = .ok items)
    (named : ∀ post ∈ posts, post.name?.isSome) :
    items.map Projection.name? = (posts.filterMap PostAggregation.name?).map some := by
  induction posts generalizing items with
  | nil =>
      cases compiled
      rfl
  | cons post rest inductionHypothesis =>
      obtain ⟨firstNamed, restNamed⟩ := List.forall_mem_cons.mp named
      obtain ⟨name, isName⟩ := Option.isSome_iff_exists.mp firstNamed
      obtain ⟨expr, _, remaining⟩ := bind_eq_ok_iff.mp compiled
      obtain ⟨others, compiledOthers, built⟩ := bind_eq_ok_iff.mp remaining
      cases built
      rw [List.map_cons, inductionHypothesis compiledOthers restNamed,
        List.filterMap_cons_some isName, isName]
      rfl

/-! ## The statement of a query -/

/-- The columns of the aggregate statement of a query: time columns, dimensions,
aggregates. -/
def aggregateColumns (query : Query) (table : Table) (fields : FieldMap) (dialect : Dialect)
    (found : List Aggregate) : List Projection :=
  query.timeProjections dialect (dialect.timestampColumn (.column table.timestampColumn)) ++
    (query.dimensionColumns fields).map (fun column => .expr (.column column) none) ++
    aggregateProjections dialect query.aggregations found

/-- The names of the post-aggregations that the engine computes. -/
def computedNames (query : Query) : PostAggregationMode → List String
  | .sql => query.postAggregationNames
  | .direct => []

/-- The names of the post-aggregations that are left to whoever reads the rows. -/
def remainingNames (query : Query) : PostAggregationMode → List String
  | .sql => []
  | .direct => query.postAggregationNames

/-- The names of the columns behind the time columns. -/
def rowColumns (query : Query) (fields : FieldMap) (mode : PostAggregationMode) : List String :=
  query.dimensionColumns fields ++ (query.aggregationNames ++ query.computedNames mode)

variable {query : Query} {table : Table} {fields : FieldMap} {dialect : Dialect}
  {mode : PostAggregationMode} {statement : Select}

theorem mem_postAggregationNames_iff (mode : PostAggregationMode) {name : String} :
    name ∈ query.postAggregationNames ↔
      name ∈ query.computedNames mode ∨ name ∈ query.remainingNames mode := by
  cases mode with
  | sql => simp [computedNames, remainingNames]
  | direct => simp [computedNames, remainingNames]

theorem aggregateColumns_names {found : List Aggregate}
    (compiled : aggregates fields query.aggregations = .ok found) :
    (query.aggregateColumns table fields dialect found).map Projection.name? =
      (query.granularity.timeColumnNames ++ query.dimensionColumns fields ++
        query.aggregationNames).map some := by
  have dimensions : ((query.dimensionColumns fields).map
      (fun column => Projection.expr (.column column) none)).map Projection.name? =
        (query.dimensionColumns fields).map some := by
    rw [List.map_map]
    rfl
  rw [aggregateColumns, List.map_append, List.map_append, timeProjections_names, dimensions,
    aggregateProjections_names dialect (aggregates_forall₂ compiled), List.map_append,
    List.map_append]
  rfl

/-- The aggregate statement of a query, clause by clause: its aggregates, its filter, its
condition on groups and its sort are compiled, and the query is checked before. -/
theorem aggregateStatement_eq_ok_iff :
    query.aggregateStatement table fields dialect mode = .ok statement ↔
      query.check fields = .ok () ∧
      PostAggregation.validateList query query.postAggregations = .ok () ∧
      ∃ found filter having order,
        aggregates fields query.aggregations = .ok found ∧
        optional (FilterScope.condition ⟨dialect, fields, query⟩) query.filter = .ok filter ∧
        optional (Having.condition found) query.having = .ok having ∧
        query.sortKeys fields mode = .ok order ∧
        statement = {
          projections := query.aggregateColumns table fields dialect found
          source := .table table.relationParts
          filter := conjunction filter (intervalsCondition dialect
            (dialect.timestampColumn (.column table.timestampColumn)) query.intervals)
          grouping := (query.dimensionColumns fields).map Expr.column ++
            (query.timeKeys dialect
              (dialect.timestampColumn (.column table.timestampColumn))).map Prod.fst
          having
          order
          limit := query.rowLimit } := by
  have dimensions : ((query.dimensionColumns fields).map Expr.column).map
      (fun column => Projection.expr column none) =
        (query.dimensionColumns fields).map (fun column => .expr (.column column) none) :=
    List.map_map
  simp only [aggregateStatement, andThen_eq_ok_iff, dimensions]
  refine and_congr_right' (and_congr_right' ?_)
  constructor
  · intro compiled
    obtain ⟨found, compiledAggregates, compiled⟩ := bind_eq_ok_iff.mp compiled
    obtain ⟨filter, compiledFilter, compiled⟩ := bind_eq_ok_iff.mp compiled
    obtain ⟨having, compiledHaving, compiled⟩ := bind_eq_ok_iff.mp compiled
    obtain ⟨order, compiledOrder, compiled⟩ := bind_eq_ok_iff.mp compiled
    cases compiled
    exact ⟨found, filter, having, order, compiledAggregates, compiledFilter, compiledHaving,
      compiledOrder, rfl⟩
  · rintro ⟨found, filter, having, order, compiledAggregates, compiledFilter, compiledHaving,
      compiledOrder, rfl⟩
    rw [compiledAggregates, compiledFilter]
    refine bind_eq_ok_iff.mpr ⟨found, rfl, bind_eq_ok_iff.mpr ⟨filter, rfl, ?_⟩⟩
    exact bind_eq_ok_iff.mpr ⟨having, compiledHaving,
      bind_eq_ok_iff.mpr ⟨order, compiledOrder, rfl⟩⟩

/-- The aggregate statement is that of a query with output names, and has the columns of
its aggregates. -/
theorem aggregateStatement_columns
    (compiled : query.aggregateStatement table fields dialect mode = .ok statement) :
    query.HasOutputNames fields ∧ ∃ found, aggregates fields query.aggregations = .ok found ∧
      statement.columns = query.aggregateColumns table fields dialect found := by
  obtain ⟨checked, postsChecked, found, _, _, _, compiledAggregates, _, _, _, rfl⟩ :=
    aggregateStatement_eq_ok_iff.mp compiled
  exact ⟨hasOutputNames_of_check checked postsChecked, found, compiledAggregates,
    expand_of_named (aggregateColumns_names compiledAggregates)⟩

/-- The statement of a query has the columns of its aggregates, and behind them those of
the post-aggregations that the engine computes. -/
theorem statement_columns (compiled : query.statement table fields dialect mode = .ok statement) :
    query.HasOutputNames fields ∧ ∃ found posts,
      aggregates fields query.aggregations = .ok found ∧
      statement.columns = query.aggregateColumns table fields dialect found ++ posts ∧
      posts.map Projection.name? = (query.computedNames mode).map some := by
  obtain ⟨inner, compiledInner, compiled⟩ := bind_eq_ok_iff.mp compiled
  obtain ⟨names, found, compiledAggregates, innerColumns⟩ :=
    aggregateStatement_columns compiledInner
  refine ⟨names, found, ?_⟩
  by_cases wrapped : mode = .sql ∧ query.postAggregations ≠ []
  · rw [if_pos wrapped] at compiled
    obtain ⟨posts, compiledPosts, built⟩ := bind_eq_ok_iff.mp compiled
    cases built
    have postNames := postProjections_names compiledPosts names.postsNamed
    refine ⟨posts, compiledAggregates, ?_, ?_⟩
    · rw [SelectFrom.columns, List.flatMap_cons, columns_subquery, expand_of_named postNames]
      change inner.columns ++ posts = _
      rw [innerColumns]
    · rw [postNames, wrapped.1]
      rfl
  · rw [if_neg wrapped] at compiled
    cases compiled
    refine ⟨[], compiledAggregates, by rw [innerColumns, List.append_nil], ?_⟩
    cases mode with
    | direct => rfl
    | sql =>
        have none : query.postAggregations = [] := by
          by_contra some
          exact wrapped ⟨rfl, some⟩
        rw [computedNames, postAggregationNames, none]
        rfl

/-- Every column of a statement has a name. -/
theorem statement_names (compiled : query.statement table fields dialect mode = .ok statement) :
    statement.columns.map Projection.name? =
      (query.granularity.timeColumnNames ++ query.rowColumns fields mode).map some := by
  obtain ⟨_, found, posts, compiledAggregates, columns, postNames⟩ := statement_columns compiled
  rw [columns, List.map_append, postNames, aggregateColumns_names compiledAggregates,
    ← List.map_append, rowColumns, List.append_assoc, List.append_assoc]

/-- The names of outputs that have columns are names of outputs. -/
theorem output_of_column {name : String}
    (placed : name ∈ query.aggregationNames ++ query.computedNames mode) :
    name ∈ query.aggregationNames ++ query.postAggregationNames := by
  rcases List.mem_append.mp placed with aggregated | computed
  · exact List.mem_append_left _ aggregated
  · exact List.mem_append_right _ ((mem_postAggregationNames_iff mode).mpr (.inl computed))

/-- Outputs that have columns are all different. -/
theorem HasOutputNames.distinctColumns (names : query.HasOutputNames fields)
    (mode : PostAggregationMode) : (query.aggregationNames ++ query.computedNames mode).Nodup := by
  cases mode with
  | sql => exact names.distinct
  | direct =>
      rw [computedNames, List.append_nil]
      exact (List.nodup_append.mp names.distinct).1

theorem rowColumns_getElem? {name : String} {index : Nat}
    (listed : query.aggregationNames[index]? = some name) :
    (query.rowColumns fields mode)[(query.dimensionColumns fields).length + index]? =
      some name := by
  have within := (List.getElem?_eq_some_iff.mp listed).1
  rw [rowColumns, List.getElem?_append_right (Nat.le_add_right _ _), Nat.add_sub_cancel_left,
    List.getElem?_append_left within, listed]

/-- Behind the time columns, the name of an aggregation is that of its own column only. -/
theorem HasOutputNames.column_of_aggregation (names : query.HasOutputNames fields) {name : String}
    {index other : Nat} (listed : query.aggregationNames[index]? = some name)
    (found : (query.rowColumns fields mode)[other]? = some name) :
    other = (query.dimensionColumns fields).length + index := by
  have aggregated : name ∈ query.aggregationNames := List.mem_of_getElem? listed
  by_cases grouped : other < (query.dimensionColumns fields).length
  · rw [rowColumns, List.getElem?_append_left grouped] at found
    exact absurd (mem_groupingNames_of_column (List.mem_of_getElem? found))
      (names.apart name (List.mem_append_left _ aggregated))
  · rw [Nat.not_lt] at grouped
    rw [rowColumns, List.getElem?_append_right grouped] at found
    have within := (List.getElem?_eq_some_iff.mp listed).1
    have placed : (query.aggregationNames ++ query.computedNames mode)[index]? = some name := by
      rw [List.getElem?_append_left within, listed]
    have inColumns := (List.getElem?_eq_some_iff.mp placed).1
    have same : index = other - (query.dimensionColumns fields).length :=
      (List.getElem?_inj inColumns (names.distinctColumns mode)).mp (placed.trans found.symm)
    omega

@[simp]
theorem length_timeProjections (query : Query) (dialect : Dialect) (timestamp : Expr) :
    (query.timeProjections dialect timestamp).length =
      query.granularity.timeColumnNames.length := by
  rw [← List.length_map Projection.name?, timeProjections_names, List.length_map]

/-- The first columns of a statement are its time columns. -/
theorem statement_columns_take
    (compiled : query.statement table fields dialect mode = .ok statement) :
    statement.columns.take query.granularity.timeColumnNames.length =
      query.timeProjections dialect
        (dialect.timestampColumn (.column table.timestampColumn)) := by
  obtain ⟨_, found, posts, _, columns, _⟩ := statement_columns compiled
  rw [columns, aggregateColumns, List.append_assoc, List.append_assoc,
    ← length_timeProjections query dialect
      (dialect.timestampColumn (.column table.timestampColumn)), List.take_left]

/-- The columns of the dimensions stand behind the time columns. -/
theorem statement_columns_getElem?_dimension
    (compiled : query.statement table fields dialect mode = .ok statement) {index : Nat}
    {column : String} (listed : (query.dimensionColumns fields)[index]? = some column) :
    statement.columns[query.granularity.timeColumnNames.length + index]? =
      some (.expr (.column column) none) := by
  obtain ⟨_, found, posts, _, columns, _⟩ := statement_columns compiled
  have timeLength := length_timeProjections query dialect
    (dialect.timestampColumn (.column table.timestampColumn))
  have within := (List.getElem?_eq_some_iff.mp listed).1
  rw [columns, aggregateColumns, List.append_assoc, List.append_assoc,
    List.getElem?_append_right (by rw [timeLength]; omega), timeLength, Nat.add_sub_cancel_left,
    List.getElem?_append_left (by rw [List.length_map]; exact within), List.getElem?_map, listed,
    Option.map_some]

/-- The column of an aggregation stands behind the time columns, the dimensions and the
aggregations before it. -/
theorem statement_columns_getElem?
    (compiled : query.statement table fields dialect mode = .ok statement) {index : Nat}
    {aggregation : Aggregation} (listed : query.aggregations[index]? = some aggregation) :
    ∃ aggregate, Query.aggregate fields aggregation = .ok aggregate ∧
      statement.columns[query.granularity.timeColumnNames.length +
          (query.dimensionColumns fields).length + index]? =
        some (.expr (dialect.projectAggregate aggregate.call aggregation.kind.isFloat)
          (some aggregation.name)) := by
  obtain ⟨_, found, posts, compiledAggregates, columns, _⟩ := statement_columns compiled
  obtain ⟨aggregate, compiledAggregate, placed⟩ :=
    aggregateProjections_getElem? dialect (aggregates_forall₂ compiledAggregates) listed
  have timeLength := length_timeProjections query dialect
    (dialect.timestampColumn (.column table.timestampColumn))
  refine ⟨aggregate, compiledAggregate, ?_⟩
  have within := (List.getElem?_eq_some_iff.mp placed).1
  rw [columns, List.getElem?_append_left, aggregateColumns, List.getElem?_append_right, ← placed]
  · congr 1
    rw [List.length_append, timeLength, List.length_map]
    omega
  · rw [List.length_append, timeLength, List.length_map]
    omega
  · rw [aggregateColumns, List.length_append, List.length_append, timeLength, List.length_map]
    omega

/-- A compiled query is its statement, with the buckets of the query. -/
theorem compile_eq_ok {compiled : Compiled}
    (compiles : query.compile table fields dialect mode = .ok compiled) :
    query.statement table fields dialect mode = .ok compiled.statement ∧
      compiled.bucketing = Bucketing.ofQuery query ∧ compiled.mode = mode := by
  obtain ⟨statement, stated, remaining⟩ := bind_eq_ok_iff.mp compiles
  obtain ⟨sql, _, built⟩ := bind_eq_ok_iff.mp remaining
  cases built
  exact ⟨stated, rfl, rfl⟩

end Query

end Rollup
