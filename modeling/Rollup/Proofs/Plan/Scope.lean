import Rollup.Proofs.Plan.Conditions
import Rollup.Proofs.Plan.Distinct
import Rollup.Proofs.Sql.References

/-!
# Scopes of statements

A name in a query may be that of a dimension, of a physical column, of an aggregation or of a
time column, and each clause of a statement knows only some of them.  The condition on rows
reads physical columns, the condition on groups calls aggregates, the sort goes by the columns
of the result, and post-aggregations read the columns of aggregates.  Every column of the
aggregate statement is grouped by or is the call of an aggregate.
-/

namespace Rollup

open Sql

theorem Sql.Dialect.aggregateCalls_projectAggregate (dialect : Dialect) (call : Expr)
    (isFloat : Bool) :
    (dialect.projectAggregate call isFloat).aggregateCalls = call.aggregateCalls := by
  cases dialect with
  | postgres => exact List.append_nil _
  | mysql => exact List.append_nil _
  | _ => rfl

/-! ## Conditions on rows -/

namespace FilterScope

variable {scope : FilterScope}

/-- Whether a column is the physical column of a dimension that filters may name. -/
def ReadsColumn (scope : FilterScope) (column : String) : Prop :=
  ∃ dimension, scope.knows dimension = true ∧ scope.fields.toPhysical dimension = column

theorem readsOnly_column {dimension : String} {column : Expr}
    (compiled : scope.column dimension = .ok column) : column.ReadsOnly scope.ReadsColumn := by
  unfold FilterScope.column at compiled
  split at compiled
  · next known =>
    cases compiled
    exact Expr.refersTo_column ⟨dimension, known, rfl⟩
  · cases compiled

/-- The condition of a filter calls no aggregate and reads physical columns of dimensions that
filters may name. -/
theorem readsOnly_condition (filter : Filter) {expr : Expr}
    (compiled : scope.condition filter = .ok expr) : expr.ReadsOnly scope.ReadsColumn := by
  refine condition_induction ?equals ?regex ?contains ?containsInsensitive
    (fun _ _ => Expr.refersTo_isInherited.all) (fun _ _ => Expr.refersTo_isInherited.any)
    (fun _ => Expr.refersTo_isInherited.not) expr filter compiled
  case equals =>
    intro dimension column value found
    exact Expr.refersTo_isInherited.equals scope.dialect (readsOnly_column found) value
  case regex =>
    intro dimension column pattern expr found built
    exact Expr.refersTo_isInherited.matchesRegex scope.dialect (readsOnly_column found) built
  case contains =>
    intro dimension column text found
    exact Expr.refersTo_isInherited.contains scope.dialect (readsOnly_column found) text
  case containsInsensitive =>
    intro dimension column text found
    exact Expr.refersTo_isInherited.containsInsensitive scope.dialect (readsOnly_column found) text

end FilterScope

/-! ## Conditions on groups -/

namespace Having

/-- The condition of a having tree calls the aggregates that it names. -/
theorem refersTo_condition {aggregates : List Aggregate}
    (bare : ∀ aggregate ∈ aggregates, ∀ argument ∈ aggregate.argument,
      ∃ name, argument = .column name)
    (having : Having) {expr : Expr} (compiled : condition aggregates having = .ok expr) :
    expr.RefersTo (fun _ => True) fun call => ∃ aggregate ∈ aggregates, aggregate.call = call := by
  refine condition_induction ?compare (fun _ _ => Expr.refersTo_isInherited.all)
    (fun _ _ => Expr.refersTo_isInherited.any) (fun _ => Expr.refersTo_isInherited.not) expr
    having compiled
  case compare =>
    intro aggregate operator value listed
    refine Expr.refersTo_isInherited.compare operator ⟨fun _ _ => trivial, ?_⟩
      (Expr.refersTo_isInherited.literal _)
    rw [aggregateCalls_call (bare aggregate listed)]
    exact List.forall_mem_singleton.mpr ⟨aggregate, listed, rfl⟩

end Having

/-! ## Post-aggregations -/

namespace PostAggregation

variable {query : Query} {dialect : Dialect} {Column : String → Prop} {Call : Expr → Prop}

/-- The expression of a checked post-aggregation calls no aggregate and reads columns that are
named like aggregations. -/
theorem readsOnly_expression {post : PostAggregation} (checked : post.validate query = .ok ())
    {expr : Expr} (built : post.expression query dialect = .ok expr) :
    expr.ReadsOnly (· ∈ query.aggregationNames) := by
  refine expression_inherited Expr.refersTo_isInherited (fun name found => ?_) checked expr built
  refine Expr.refersTo_column (Decidable.not_not.mp fun unknown => ?_)
  rw [Query.aggregation?_eq_none_iff.mpr unknown] at found
  cases found

end PostAggregation

/-! ## Parts of statements -/

namespace Sql

/-- The statement that reads the table: that inside the statement around it, if there is
one. -/
def SelectFrom.core (select : Select) : Select :=
  match select.source with
  | .table _ => select
  | .subquery inner _ => inner

/-- Whether a statement sorts by columns of its result, by their names. -/
def SelectFrom.SortsByColumns (select : Select) : Prop :=
  ∀ key ∈ select.order, ∃ name, key.expr = .column name ∧
    some name ∈ select.columns.map Projection.name?

end Sql

namespace Query

variable {query : Query} {table : Table} {fields : FieldMap} {dialect : Dialect}
  {mode : PostAggregationMode} {statement : Select}

/-- Among some projections is the call of an aggregation of a query: the one aggregate that
the aggregation stands for, as the dialect projects it, under the name of the aggregation. -/
structure ProjectsCall (query : Query) (fields : FieldMap) (dialect : Dialect)
    (projections : List Projection) (aggregation : Aggregation) (call : Expr) : Prop where
  listed : aggregation ∈ query.aggregations
  compiled : ∃ aggregate, Query.aggregate fields aggregation = .ok aggregate ∧
    aggregate.call = call
  single : (dialect.projectAggregate call aggregation.kind.isFloat).aggregateCalls = [call]
  projected : .expr (dialect.projectAggregate call aggregation.kind.isFloat)
    (some aggregation.name) ∈ projections

/-- Whether a column is the timestamp column or the physical column of a dimension that is
mapped or grouped by. -/
def ReadsColumn (query : Query) (table : Table) (fields : FieldMap) (column : String) : Prop :=
  column = table.timestampColumn ∨
    ∃ dimension, (fields.isMapped dimension = true ∨ dimension ∈ query.groupingDimensions) ∧
      fields.toPhysical dimension = column

/-- A statement groups the rows of a table: what it projects is grouped by, or is the text of
a timestamp that is grouped by, or is the call of an aggregation.  Rows are chosen and grouped
by expressions over columns of the table, and groups are chosen by aggregates that are
projected. -/
structure IsWellGrouped (query : Query) (table : Table) (fields : FieldMap) (dialect : Dialect)
    (select : Select) : Prop where
  source : select.source = .table table.relationParts
  projections : ∀ item ∈ select.projections,
    (∃ key ∈ select.grouping, ∃ name,
      item = .expr key name ∨ item = .expr (dialect.timestampText key) name) ∨
    ∃ aggregation call, query.ProjectsCall fields dialect select.projections aggregation call ∧
      item = .expr (dialect.projectAggregate call aggregation.kind.isFloat)
        (some aggregation.name)
  filter : ∀ condition ∈ select.filter, condition.ReadsOnly (query.ReadsColumn table fields)
  grouping : ∀ key ∈ select.grouping, key.ReadsOnly (query.ReadsColumn table fields)
  having : ∀ condition ∈ select.having, ∀ call ∈ condition.aggregateCalls,
    ∃ aggregation, query.ProjectsCall fields dialect select.projections aggregation call

/-- Each clause of a statement knows the names in it.  A statement around the aggregate
statement has expressions over the columns of aggregations and no conditions of its own. -/
structure IsWellScoped (query : Query) (table : Table) (fields : FieldMap) (dialect : Dialect)
    (statement : Select) : Prop where
  grouped : query.IsWellGrouped table fields dialect statement.core
  sorted : statement.SortsByColumns
  coreSorted : statement.core.SortsByColumns
  computed : ∀ inner name, statement.source = .subquery inner name →
    ∀ item ∈ statement.projections, ∀ expr ∈ item.exprs, expr.ReadsOnly fun column =>
      ∃ aggregation call, query.ProjectsCall fields dialect inner.projections aggregation call ∧
        aggregation.name = column
  unconditional : ∀ inner name, statement.source = .subquery inner name →
    statement.filter = none ∧ statement.grouping = [] ∧ statement.having = none

/-! ### Projections -/

/-- An aggregation and its aggregate are projected where all columns of aggregates are. -/
theorem projectsCall_of_zip {found : List Aggregate} {projections : List Projection}
    (compiled : aggregates fields query.aggregations = .ok found)
    (projected : ∀ item ∈ aggregateProjections dialect query.aggregations found,
      item ∈ projections)
    {pair : Aggregation × Aggregate} (listed : pair ∈ query.aggregations.zip found) :
    query.ProjectsCall fields dialect projections pair.1 pair.2.call := by
  obtain ⟨aggregation, aggregate⟩ := pair
  have single : Query.aggregate fields aggregation = .ok aggregate :=
    (List.forall₂_iff_zip.mp (aggregates_forall₂ compiled)).2 listed
  have calls : aggregate.call.aggregateCalls = [aggregate.call] :=
    aggregateCalls_call fun argument member => argument_of_aggregate single member
  refine ⟨(List.of_mem_zip listed).1, ⟨aggregate, single, rfl⟩, ?_, projected _ ?_⟩
  · rw [dialect.aggregateCalls_projectAggregate, calls]
  · rw [← name_of_aggregate single]
    exact List.mem_map.mpr ⟨_, listed, rfl⟩

/-- Every aggregation is paired with its aggregate, and every aggregate with its
aggregation. -/
theorem exists_pair_of_aggregates {found : List Aggregate}
    (compiled : aggregates fields query.aggregations = .ok found) :
    (∀ aggregation ∈ query.aggregations, ∃ pair ∈ query.aggregations.zip found,
        pair.1 = aggregation) ∧
      ∀ aggregate ∈ found, ∃ pair ∈ query.aggregations.zip found, pair.2 = aggregate := by
  have sameLength := (aggregates_forall₂ compiled).length_eq
  constructor
  · intro aggregation listed
    rw [← List.map_fst_zip sameLength.le] at listed
    exact List.mem_map.mp listed
  · intro aggregate listed
    rw [← List.map_snd_zip sameLength.ge] at listed
    exact List.mem_map.mp listed

/-! ### Conditions -/

theorem readsOnly_intervalsCondition {Column : String → Prop} {timestamp : Expr}
    (operand : timestamp.ReadsOnly Column) {intervals : List Interval} {expr : Expr}
    (built : intervalsCondition dialect timestamp intervals = some expr) :
    expr.ReadsOnly Column := by
  have each (interval : Interval) :
      (intervalCondition dialect timestamp interval).ReadsOnly Column := by
    have compared (operator : Operator) (instant : Instant) :
        (Expr.compare timestamp operator (dialect.timestampLiteral instant)).ReadsOnly Column :=
      Expr.refersTo_isInherited.compare operator operand
        (Expr.refersTo_isInherited.timestampLiteral dialect instant)
    exact Expr.refersTo_isInherited.all (List.forall_mem_cons.mpr ⟨compared .atLeast interval.start,
      List.forall_mem_singleton.mpr (compared .less interval.stop)⟩)
  match intervals with
  | [] => cases built
  | [interval] =>
      cases built
      exact each interval
  | first :: second :: rest =>
      cases built
      exact Expr.refersTo_isInherited.any (List.forall_mem_map.mpr fun interval _ => each interval)

theorem readsOnly_conjunction {Column : String → Prop} {first second : Option Expr} {expr : Expr}
    (left : ∀ operand ∈ first, operand.ReadsOnly Column)
    (right : ∀ operand ∈ second, operand.ReadsOnly Column)
    (built : conjunction first second = some expr) : expr.ReadsOnly Column := by
  match first, second with
  | none, none => cases built
  | none, some _ => exact right expr built
  | some _, none => exact left expr built
  | some operand, some other =>
      cases built
      exact Expr.refersTo_isInherited.all (List.forall_mem_cons.mpr
        ⟨left operand rfl, List.forall_mem_singleton.mpr (right other rfl)⟩)

/-! ### Sorts -/

/-- An explicit sort goes by the column of an output that the engine computes or, where the name
is not that of an output, by the physical column of a dimension. -/
theorem sortedColumn_cases {name column : String}
    (compiled : query.sortedColumn fields mode name = .ok column) :
    (name ∈ query.aggregationNames ++ query.computedNames mode ∧ column = name) ∨
      (name ∉ query.aggregationNames ++ query.postAggregationNames ∧
        name ∈ query.groupingDimensions ∧ column = fields.toPhysical name) := by
  have aggregated : (query.aggregation? name).isSome = true ↔ name ∈ query.aggregationNames := by
    rw [← not_iff_not, ← aggregation?_eq_none_iff, Option.not_isSome_iff_eq_none]
  have reported :
      (query.postAggregation? name).isSome = true ↔ name ∈ query.postAggregationNames := by
    rw [← not_iff_not, ← postAggregation?_eq_none_iff, Option.not_isSome_iff_eq_none]
  unfold sortedColumn at compiled
  simp only [aggregated, reported] at compiled
  by_cases first : name ∈ query.aggregationNames
  · rw [if_pos first] at compiled
    cases compiled
    exact .inl ⟨List.mem_append_left _ first, rfl⟩
  rw [if_neg first] at compiled
  by_cases second : name ∈ query.postAggregationNames
  · rw [if_pos second] at compiled
    cases mode with
    | direct => cases compiled
    | sql =>
        cases compiled
        exact .inl ⟨List.mem_append_right _ second, rfl⟩
  rw [if_neg second] at compiled
  split at compiled
  · next grouped =>
    cases compiled
    exact .inr ⟨List.mem_append.not.mpr (not_or.mpr ⟨first, second⟩),
      List.contains_iff_mem.mp grouped, rfl⟩
  · split at compiled
    all_goals cases compiled

/-- An explicit sort goes by a column behind the time columns. -/
theorem sortedColumn_mem {name column : String}
    (compiled : query.sortedColumn fields mode name = .ok column) :
    column ∈ query.rowColumns fields mode := by
  rcases sortedColumn_cases compiled with ⟨output, rfl⟩ | ⟨_, grouped, rfl⟩
  · exact List.mem_append_right _ output
  · exact List.mem_append_left _ (mem_dimensionColumns_iff.mpr ⟨name, grouped, rfl⟩)

theorem explicitSort_mem {sorts : List SortColumn} {found : List (String × SortDirection)}
    (compiled : query.explicitSort fields mode sorts = .ok found) :
    ∀ sort ∈ found, sort.1 ∈ query.rowColumns fields mode := by
  induction sorts generalizing found with
  | nil =>
      cases compiled
      exact List.forall_mem_nil _
  | cons first rest inductionHypothesis =>
      obtain ⟨column, sorted, remaining⟩ := bind_eq_ok_iff.mp compiled
      obtain ⟨others, compiledOthers, built⟩ := bind_eq_ok_iff.mp remaining
      cases built
      exact List.forall_mem_cons.mpr
        ⟨sortedColumn_mem sorted, inductionHypothesis compiledOthers⟩

theorem mem_of_mem_distinctSorts {sort : String × SortDirection} {seen : List String}
    {sorts : List (String × SortDirection)} (listed : sort ∈ distinctSorts seen sorts) :
    sort ∈ sorts := by
  induction sorts generalizing seen with
  | nil => exact listed
  | cons first rest inductionHypothesis =>
      rw [distinctSorts] at listed
      split at listed
      · exact List.mem_cons_of_mem _ (inductionHypothesis listed)
      · rcases List.mem_cons.mp listed with rfl | later
        · exact List.mem_cons_self
        · exact List.mem_cons_of_mem _ (inductionHypothesis later)

/-- A query sorts by columns of its statement. -/
theorem sortKeys_mem {keys : List SortKey} (compiled : query.sortKeys fields mode = .ok keys) :
    ∀ key ∈ keys, ∃ name, key.expr = .column name ∧ name ∈ query.columnNames fields mode := by
  obtain ⟨explicit, compiledExplicit, built⟩ := bind_eq_ok_iff.mp compiled
  cases built
  rw [List.forall_mem_map]
  intro sort listed
  refine ⟨sort.1, rfl, ?_⟩
  rcases List.mem_append.mp (mem_of_mem_distinctSorts listed) with chosen | grouped
  · exact List.mem_append_right _ (explicitSort_mem compiledExplicit sort chosen)
  · obtain ⟨column, member, rfl⟩ := List.mem_map.mp grouped
    rcases List.mem_append.mp member with dimension | time
    · exact List.mem_append_right _ (List.mem_append_left _ dimension)
    · exact List.mem_append_left _ time

/-! ## Statements -/

/-- The aggregate statement groups the rows of the table. -/
theorem aggregateStatement_isWellGrouped
    (compiled : query.aggregateStatement table fields dialect mode = .ok statement) :
    query.IsWellGrouped table fields dialect statement := by
  obtain ⟨_, _, found, filter, having, order, compiledAggregates, compiledFilter, compiledHaving,
    _, rfl⟩ := aggregateStatement_eq_ok_iff.mp compiled
  have timestamp : (dialect.timestampColumn (.column table.timestampColumn)).ReadsOnly
      (query.ReadsColumn table fields) :=
    Expr.refersTo_isInherited.timestampColumn dialect (Expr.refersTo_column (.inl rfl))
  have projected {pair : Aggregation × Aggregate}
      (listed : pair ∈ query.aggregations.zip found) :
      query.ProjectsCall fields dialect (query.aggregateColumns table fields dialect found)
        pair.1 pair.2.call :=
    projectsCall_of_zip compiledAggregates (fun _ => List.mem_append_right _) listed
  refine ⟨rfl, ?projections, ?filter, ?grouping, ?having⟩
  case projections =>
    refine List.forall_mem_append.mpr ⟨List.forall_mem_append.mpr ⟨?times, ?dimensions⟩, ?calls⟩
    case times =>
      intro item listed
      obtain ⟨key, grouped, stands⟩ := timeProjections_grouped query dialect _ item listed
      exact .inl ⟨key, List.mem_append_right _ grouped, stands⟩
    case dimensions =>
      refine List.forall_mem_map.mpr fun column listed => .inl ⟨.column column, ?_, none, .inl rfl⟩
      exact List.mem_append_left _ (List.mem_map_of_mem listed)
    case calls =>
      refine List.forall_mem_map.mpr fun pair listed => .inr ⟨pair.1, pair.2.call, ?_, ?_⟩
      · exact projected listed
      · rw [← name_of_aggregate
          ((List.forall₂_iff_zip.mp (aggregates_forall₂ compiledAggregates)).2 listed)]
  case filter =>
    intro condition listed
    refine readsOnly_conjunction (fun operand member => ?_)
      (fun operand member => readsOnly_intervalsCondition timestamp member) listed
    obtain ⟨tree, built⟩ := exists_tree_of_optional compiledFilter member
    have reads := FilterScope.readsOnly_condition tree built
    refine ⟨fun column named => .inr ?_, reads.calls⟩
    obtain ⟨dimension, known, physical⟩ := reads.columns column named
    refine ⟨dimension, ?_, physical⟩
    simpa [FilterScope.knows, groupsBy] using known
  case grouping =>
    refine List.forall_mem_append.mpr ⟨List.forall_mem_map.mpr fun column listed => ?_,
      timeKeys_inherited Expr.refersTo_isInherited query dialect timestamp⟩
    obtain ⟨dimension, grouped, physical⟩ := mem_dimensionColumns_iff.mp listed
    exact Expr.refersTo_column (.inr ⟨dimension, .inr grouped, physical⟩)
  case having =>
    intro condition listed call called
    obtain ⟨tree, built⟩ := exists_tree_of_optional compiledHaving listed
    have bare : ∀ aggregate ∈ found, ∀ argument ∈ aggregate.argument,
        ∃ name, argument = .column name :=
      forall_results_of_forall₂ (aggregates_forall₂ compiledAggregates)
        fun _ _ _ single _ member => argument_of_aggregate single member
    obtain ⟨aggregate, member, rfl⟩ := (Having.refersTo_condition bare tree built).calls call called
    obtain ⟨pair, paired, rfl⟩ := (exists_pair_of_aggregates compiledAggregates).2 aggregate member
    exact ⟨pair.1, projected paired⟩

/-- The sort and the limit of a statement are no part of how it groups rows. -/
theorem IsWellGrouped.unsorted (grouped : query.IsWellGrouped table fields dialect statement) :
    query.IsWellGrouped table fields dialect { statement with order := [], limit := none } :=
  ⟨grouped.source, grouped.projections, grouped.filter, grouped.grouping, grouped.having⟩

/-- A statement takes over the sort of the aggregate statement, which is that of the query. -/
theorem sortKeys_of_statement
    (compiled : query.statement table fields dialect mode = .ok statement) :
    query.sortKeys fields mode = .ok statement.order := by
  obtain ⟨inner, compiledInner, shape⟩ := statement_eq_or_isAround compiled
  have sameOrder : statement.order = inner.order := by
    rcases shape with rfl | ⟨_, around⟩
    · rfl
    · exact around.order
  obtain ⟨_, _, _, _, _, order, _, _, _, compiledOrder, rfl⟩ :=
    aggregateStatement_eq_ok_iff.mp compiledInner
  rw [sameOrder]
  exact compiledOrder

/-- The statement of a query sorts by columns of its result. -/
theorem statement_sortsByColumns
    (compiled : query.statement table fields dialect mode = .ok statement) :
    statement.SortsByColumns := by
  intro key listed
  obtain ⟨name, isColumn, member⟩ := sortKeys_mem (sortKeys_of_statement compiled) key listed
  refine ⟨name, isColumn, ?_⟩
  rw [statement_names compiled]
  exact List.mem_map_of_mem member

/-- Post-aggregations around an aggregate statement read the columns of aggregations in it. -/
theorem IsAround.readsOnly {inner outer : Select} (around : query.IsAround dialect inner outer)
    (compiled : query.aggregateStatement table fields dialect mode = .ok inner) :
    ∀ item ∈ outer.projections, ∀ expr ∈ item.exprs, expr.ReadsOnly fun column =>
      ∃ aggregation call, query.ProjectsCall fields dialect inner.projections aggregation call ∧
        aggregation.name = column := by
  have checked := validate_of_aggregateStatement compiled
  obtain ⟨_, _, found, _, _, _, compiledAggregates, _, _, _, rfl⟩ :=
    aggregateStatement_eq_ok_iff.mp compiled
  obtain ⟨items, projected, columns⟩ := around.projections
  rw [projected]
  refine List.forall_mem_cons.mpr ⟨List.forall_mem_nil _, fun item listed => ?_⟩
  obtain ⟨post, member, name, expr, _, built, rfl⟩ := exists_item_of_forall₂ columns listed
  refine List.forall_mem_singleton.mpr ?_
  have reads := PostAggregation.readsOnly_expression (checked post member) built
  refine ⟨fun column named => ?_, reads.calls⟩
  obtain ⟨aggregation, aggregated, isName⟩ := List.mem_map.mp (reads.columns column named)
  obtain ⟨pair, paired, rfl⟩ :=
    (exists_pair_of_aggregates compiledAggregates).1 aggregation aggregated
  exact ⟨pair.1, pair.2.call, projectsCall_of_zip compiledAggregates
    (fun _ => List.mem_append_right _) paired, isName⟩

theorem IsWellGrouped.core_eq (grouped : query.IsWellGrouped table fields dialect statement) :
    statement.core = statement := by
  rw [SelectFrom.core, grouped.source]

theorem IsAround.core_eq {inner outer : Select} (around : query.IsAround dialect inner outer) :
    outer.core = { inner with order := [], limit := none } := by
  rw [SelectFrom.core, around.source]

/-- Every statement of a query is well scoped.  The aggregate statement projects what it
groups by and calls of single aggregates; it chooses and groups rows by physical columns of
dimensions that are mapped or grouped by and by the timestamp, without aggregates, and groups
by aggregates that it projects.  The statement sorts by names of columns of its result, and
around the aggregate statement it computes from the columns of aggregations only. -/
theorem statement_isWellScoped
    (compiled : query.statement table fields dialect mode = .ok statement) :
    query.IsWellScoped table fields dialect statement := by
  have sorted := statement_sortsByColumns compiled
  obtain ⟨inner, compiledInner, shape⟩ := statement_eq_or_isAround compiled
  have grouped := aggregateStatement_isWellGrouped compiledInner
  rcases shape with rfl | ⟨_, around⟩
  · have alone {inner : Select} {name : String} : statement.source ≠ .subquery inner name := by
      rw [grouped.source]
      exact fun same => by cases same
    refine ⟨?_, sorted, ?_, fun _ _ inside => absurd inside alone,
      fun _ _ inside => absurd inside alone⟩
    · rw [grouped.core_eq]
      exact grouped
    · rw [grouped.core_eq]
      exact sorted
  · refine ⟨?_, sorted, ?_, fun other name inside => ?_, fun other name _ =>
      ⟨around.filter, around.grouping, around.having⟩⟩
    · rw [around.core_eq]
      exact grouped.unsorted
    · rw [around.core_eq]
      exact List.forall_mem_nil _
    · rw [around.source] at inside
      cases inside
      exact around.readsOnly compiledInner

/-- The filter reads the column of a dimension that is not grouped by, the condition on groups
calls the aggregate that is projected as a total, and the sort around the statement goes by the
average computed there. -/
theorem statement_isWellScoped_of_bestAverages :
    let table : Table := ⟨"sales", "sales", "ts",
      [⟨"region", some "region_cd"⟩, ⟨"city", some "city_nm"⟩]⟩
    let fields := FieldMap.ofTable table
    let query : Query := { topDailyAverages with
      filter := some (.not (.selector "city" "Oslo"))
      having := some (.compare "total" .greater (Double.zero false))
      limitSpec := some ⟨some 5, [⟨"average", .descending⟩]⟩ }
    ∃ statement, query.statement table fields .postgres .sql = .ok statement ∧
      query.IsWellScoped table fields .postgres statement ∧
      statement.order.map SortKey.expr = [.column "average", .column "region_cd",
        .column "__year", .column "__dayofyear"] ∧
      statement.core.filter.map Expr.columns = some ["city_nm"] ∧
      statement.core.having.map Expr.aggregateCalls =
        some [.aggregate .sum (some (.column "amount"))] := by
  intro table fields query
  have compiled : query.statement table fields .postgres .sql = .ok _ := rfl
  exact ⟨_, compiled, statement_isWellScoped compiled, rfl, rfl, rfl⟩

end Query

end Rollup
