import Rollup.Proofs.Having.Faults
import Rollup.Proofs.Plan.Modes
import Rollup.Proofs.Plan.Scope
import Rollup.Proofs.Sql.Floats

/-!
# The doubles of queries

Where the doubles of a statement come from: they are the constants that the having tree of the
query compares with and, where the engine computes post-aggregations, the floating-point
constants of these.  Nothing else of a query, a table or a dialect puts a double into a
statement.
-/

namespace Rollup

open Sql

/-! ## Filters -/

/-- The condition of a filter has no doubles. -/
theorem FilterScope.floats_condition {scope : FilterScope} (filter : Filter) {expr : Expr}
    (compiled : scope.condition filter = .ok expr) : expr.floats = [] := by
  refine condition_induction ?equals ?regex ?contains ?containsInsensitive ?all ?any ?not expr
    filter compiled
  case equals =>
    intro dimension column value found
    obtain ⟨name, rfl⟩ := exists_column found
    exact scope.dialect.floats_equals (.column name) value
  case regex =>
    intro dimension column pattern condition found built
    obtain ⟨name, rfl⟩ := exists_column found
    exact scope.dialect.floats_matchesRegex (.column name) built
  case contains =>
    intro dimension column text found
    obtain ⟨name, rfl⟩ := exists_column found
    exact scope.dialect.floats_contains (.column name) text
  case containsInsensitive =>
    intro dimension column text found
    obtain ⟨name, rfl⟩ := exists_column found
    exact scope.dialect.floats_containsInsensitive (.column name) text
  case all =>
    intro exprs _ each
    rw [Expr.floats_all, List.flatMap_eq_nil_iff]
    exact each
  case any =>
    intro exprs _ each
    rw [Expr.floats_any, List.flatMap_eq_nil_iff]
    exact each
  case not =>
    intro operand none
    exact (Expr.floats_not).trans none

/-! ## Having trees -/

namespace Having

/-- The constant that a node of a having tree compares with. -/
def threshold? : Having → Option Double
  | .compare _ _ value => some value
  | _ => none

/-- The constants that a having tree compares with, from the left. -/
def thresholds (having : Having) : List Double :=
  having.nodes.filterMap threshold?

theorem thresholds_compare (aggregation : String) (comparison : Comparison) (value : Double) :
    (compare aggregation comparison value).thresholds = [value] :=
  rfl

theorem thresholds_clauses (clauses : List Having) :
    (nodesOfList clauses).filterMap threshold? = clauses.flatMap thresholds := by
  rw [nodesOfList_eq_flatMap, List.filterMap_flatMap]
  rfl

theorem thresholds_all (clauses : List Having) :
    (all clauses).thresholds = clauses.flatMap thresholds :=
  thresholds_clauses clauses

theorem thresholds_any (clauses : List Having) :
    (any clauses).thresholds = clauses.flatMap thresholds :=
  thresholds_clauses clauses

theorem thresholds_not (clause : Having) : (not clause).thresholds = clause.thresholds :=
  rfl

theorem thresholds_multi (connective : Connective) (clauses : List Having) :
    (multi connective clauses).thresholds = clauses.flatMap thresholds :=
  thresholds_clauses clauses

variable {aggregates : List Aggregate}

/-- Clauses have the doubles that their conditions have. -/
theorem flatMap_floats_eq {clauses : List Having} {exprs : List Expr}
    (found : conditions aggregates clauses = .ok exprs)
    (each : ∀ clause ∈ clauses, ∀ {expr}, condition aggregates clause = .ok expr →
      expr.floats = clause.thresholds) :
    exprs.flatMap Expr.floats = clauses.flatMap thresholds := by
  rw [List.flatMap_def, List.flatMap_def, map_results_eq (conditions_forall₂ found) each]

/-- The doubles in the condition of a having tree are the constants that the tree compares
with. -/
theorem floats_condition (noDoubles : ∀ aggregate ∈ aggregates, aggregate.call.floats = [])
    (having : Having) {expr : Expr} (compiled : condition aggregates having = .ok expr) :
    expr.floats = having.thresholds := by
  induction having using Having.induction generalizing expr with
  | compare name comparison value =>
      rw [condition] at compiled
      split at compiled
      · next aggregate found =>
        cases compiled
        rw [Expr.floats_compare, noDoubles aggregate (List.mem_of_find?_eq_some found),
          thresholds_compare]
        rfl
      · cases compiled
  | all clauses each =>
      simp only [condition, check_eq_ok_iff] at compiled
      obtain ⟨exprs, found, built⟩ := bind_eq_ok_iff.mp compiled.2
      cases built
      rw [Expr.floats_all, thresholds_all, flatMap_floats_eq found each]
  | any clauses each =>
      simp only [condition, check_eq_ok_iff] at compiled
      obtain ⟨exprs, found, built⟩ := bind_eq_ok_iff.mp compiled.2
      cases built
      rw [Expr.floats_any, thresholds_any, flatMap_floats_eq found each]
  | not clause negated =>
      obtain ⟨inner, found, built⟩ := bind_eq_ok_iff.mp compiled
      cases built
      rw [Expr.floats_not, thresholds_not, negated found]
  | multi connective clauses each =>
      simp only [condition, check_eq_ok_iff] at compiled
      obtain ⟨exprs, found, built⟩ := bind_eq_ok_iff.mp compiled.2
      rw [thresholds_multi, ← flatMap_floats_eq found each]
      cases connective with
      | and =>
          cases built
          exact Expr.floats_all
      | or =>
          cases built
          exact Expr.floats_any

end Having

/-! ## Post-aggregations -/

namespace PostAggregation

mutual

/-- The constants of a post-aggregation, from the left. -/
def constants : PostAggregation → List Number
  | .constant _ value => [value]
  | .field _ => []
  | .arithmetic _ _ fields => constantsOfList fields
  | .sketchEstimate _ operand => constants operand
  | .sketchOperation _ _ fields _ => constantsOfList fields
termination_by structural post => post

/-- The constants of some post-aggregations, from the left. -/
def constantsOfList : List PostAggregation → List Number
  | [] => []
  | post :: rest => constants post ++ constantsOfList rest
termination_by structural posts => posts

end

@[simp]
theorem constantsOfList_eq_flatMap (posts : List PostAggregation) :
    constantsOfList posts = posts.flatMap constants := by
  induction posts with
  | nil => rfl
  | cons post rest inductionHypothesis =>
      rw [constantsOfList, inductionHypothesis, List.flatMap_cons]

@[simp]
theorem mem_constants_arithmetic {value : Number} {name : String} {operator : ArithmeticOperator}
    {fields : List PostAggregation} :
    value ∈ (arithmetic name operator fields).constants ↔
      ∃ field ∈ fields, value ∈ field.constants := by
  rw [constants, constantsOfList_eq_flatMap, List.mem_flatMap]

/-- An operation on sketches has the constants of its one operand. -/
@[simp]
theorem constants_sketchOperation (name : String) (operator : SetOperator)
    (operand : PostAggregation) (size : Option Nat) :
    (sketchOperation name operator [operand] size).constants = operand.constants :=
  List.append_nil _

/-- An operation from the left has the doubles of its operands. -/
theorem floats_foldl_arithmetic (operator : ArithmeticOperator) (first : Expr)
    (rest : List Expr) :
    (rest.foldl (.arithmetic operator) first).floats =
      first.floats ++ rest.flatMap Expr.floats := by
  induction rest generalizing first with
  | nil => exact (List.append_nil _).symm
  | cons second rest inductionHypothesis =>
      rw [List.foldl_cons, inductionHypothesis, Expr.floats_arithmetic, List.flatMap_cons,
        List.append_assoc]

/-- A quotient repeats its divisor, and has no doubles of its own. -/
theorem mem_floats_safeQuotient {dialect : Dialect} {dividend divisor : Expr} {value : Double} :
    value ∈ (safeQuotient dialect dividend divisor).floats ↔
      value ∈ dividend.floats ∨ value ∈ divisor.floats := by
  have floats : (safeQuotient dialect dividend divisor).floats =
      divisor.floats ++ (dividend.floats ++ divisor.floats) := by
    simp [safeQuotient]
  rw [floats, List.mem_append, List.mem_append]
  tauto

/-- The expression of an operation that has the operands it needs has their doubles. -/
theorem mem_floats_operationExpr {dialect : Dialect} {operator : ArithmeticOperator}
    {operands : List Expr} {expr : Expr} {value : Double}
    (arity : arityError? operator operands.length = none)
    (built : operationExpr dialect operator operands = .ok expr) :
    value ∈ expr.floats ↔ ∃ operand ∈ operands, value ∈ operand.floats := by
  obtain ⟨_, quotient⟩ := arityError?_eq_none_iff.mp arity
  unfold operationExpr at built
  split at built
  · cases built
  · next first rest =>
    split at built
    · cases built
    · next divisor others =>
      cases built
      have alone : others = [] := by simpa using quotient rfl
      rw [mem_floats_safeQuotient, alone]
      simp
    · cases built
      rw [floats_foldl_arithmetic]
      simp [List.mem_flatMap]

/-- The doubles in the expression of a checked post-aggregation are its floating-point
constants. -/
theorem mem_floats_expression {query : Query} {dialect : Dialect} {post : PostAggregation}
    {value : Double} (checked : post.validate query = .ok ()) (expr : Expr)
    (built : post.expression query dialect = .ok expr) :
    value ∈ expr.floats ↔ .float value ∈ post.constants := by
  revert expr
  refine checked_induction ?constant ?field ?arithmetic ?sketchEstimate ?sketchOperation
    post checked
  case constant =>
    intro name number expr built
    cases built
    cases number with
    | integer number => simp [literal, constants]
    | float number => simp [literal, constants]
  case field =>
    intro aggregation _ expr built
    obtain ⟨_, _, built⟩ := bind_eq_ok_iff.mp built
    cases built
    exact iff_of_false List.not_mem_nil List.not_mem_nil
  case arithmetic =>
    intro name operator fields arity operands expr built
    obtain ⟨_, _, built⟩ := bind_eq_ok_iff.mp built
    obtain ⟨exprs, compiled, built⟩ := bind_eq_ok_iff.mp built
    have each : List.Forall₂ (fun field expr => field.expression query dialect = .ok expr)
        fields exprs :=
      forall₂_of_collected (expressions query dialect) rfl (fun _ _ => rfl) compiled
    rw [mem_floats_operationExpr (each.length_eq ▸ arity) built, mem_constants_arithmetic]
    constructor
    · rintro ⟨operand, listed, member⟩
      obtain ⟨field, known, compiledField⟩ := exists_item_of_forall₂ each listed
      exact ⟨field, known, (operands field known operand compiledField).mp member⟩
    · rintro ⟨field, known, member⟩
      obtain ⟨operand, listed, compiledField⟩ := exists_item_of_forall₂ each.flip known
      exact ⟨operand, listed, (operands field known operand compiledField).mpr member⟩
  case sketchEstimate =>
    intro name operand inner expr built
    exact inner expr built
  case sketchOperation =>
    intro name operator operand size _ inner expr built
    rw [expression] at built
    rw [constants_sketchOperation]
    exact inner expr (check_eq_ok_iff.mp built).2

end PostAggregation

/-! ## Statements -/

namespace Query

variable {query : Query} {table : Table} {fields : FieldMap} {dialect : Dialect}
  {mode : PostAggregationMode} {statement : Select}

theorem floats_timeKeys {timestamp : Expr} (noDoubles : timestamp.floats = []) :
    ∀ key ∈ (query.timeKeys dialect timestamp).map Prod.fst, key.floats = [] := by
  unfold timeKeys
  rw [List.forall_mem_map]
  split
  · exact List.forall_mem_singleton.mpr noDoubles
  · rw [List.forall_mem_map]
    exact fun part _ => (dialect.floats_timePart timestamp part).trans noDoubles

theorem floats_call_of_aggregate {aggregation : Aggregation} {aggregate : Aggregate}
    (compiled : Query.aggregate fields aggregation = .ok aggregate) :
    aggregate.call.floats = [] := by
  rw [Aggregate.call, Expr.floats_aggregate]
  cases found : aggregate.argument with
  | none => rfl
  | some argument =>
      obtain ⟨name, rfl⟩ := argument_of_aggregate compiled found
      rfl

theorem floats_intervalsCondition {timestamp expr : Expr} {intervals : List Interval}
    (noDoubles : timestamp.floats = [])
    (built : intervalsCondition dialect timestamp intervals = some expr) : expr.floats = [] := by
  have each (interval : Interval) :
      (intervalCondition dialect timestamp interval).floats = [] := by
    simp [intervalCondition, noDoubles]
  match intervals with
  | [] => cases built
  | [interval] =>
      cases built
      exact each interval
  | first :: second :: rest =>
      cases built
      rw [Expr.floats_any, List.flatMap_map, List.flatMap_eq_nil_iff]
      exact fun interval _ => each interval

theorem floats_conjunction {first second : Option Expr} {expr : Expr}
    (left : ∀ operand ∈ first, operand.floats = [])
    (right : ∀ operand ∈ second, operand.floats = [])
    (built : conjunction first second = some expr) : expr.floats = [] := by
  match first, second with
  | none, none => cases built
  | none, some _ => exact right expr built
  | some _, none => exact left expr built
  | some operand, some other =>
      cases built
      simp [left operand rfl, right other rfl]

theorem floats_timeProjections {timestamp : Expr} (noDoubles : timestamp.floats = []) :
    ∀ projection ∈ query.timeProjections dialect timestamp,
      ∀ expr ∈ projection.exprs, expr.floats = [] := by
  intro projection listed
  obtain ⟨key, grouped, _, stands⟩ := timeProjections_grouped query dialect timestamp _ listed
  have keyNoDoubles := floats_timeKeys noDoubles key grouped
  rcases stands with rfl | rfl
  · exact List.forall_mem_singleton.mpr keyNoDoubles
  · exact List.forall_mem_singleton.mpr ((dialect.floats_timestampText key).trans keyNoDoubles)

theorem floats_aggregateProjections {aggregations : List Aggregation}
    {aggregates : List Aggregate}
    (noDoubles : ∀ aggregate ∈ aggregates, aggregate.call.floats = []) :
    ∀ projection ∈ aggregateProjections dialect aggregations aggregates,
      ∀ expr ∈ projection.exprs, expr.floats = [] := by
  unfold aggregateProjections
  rw [List.forall_mem_map]
  intro pair listed
  exact List.forall_mem_singleton.mpr
    ((dialect.floats_projectAggregate _ _).trans (noDoubles pair.2 (List.of_mem_zip listed).2))

/-- A statement sorts by columns. -/
theorem floats_sortKeys {keys : List SortKey} (compiled : query.sortKeys fields mode = .ok keys) :
    (keys.map SortKey.expr).flatMap Expr.floats = [] := by
  rw [List.flatMap_map, List.flatMap_eq_nil_iff]
  intro key listed
  obtain ⟨name, column, _⟩ := sortKeys_mem compiled key listed
  rw [column, Expr.floats_column]

/-- The doubles in the condition on groups of a statement are the constants that the having
tree of the query compares with. -/
theorem floats_having {aggregates : List Aggregate} {having : Option Expr}
    (noDoubles : ∀ aggregate ∈ aggregates, aggregate.call.floats = [])
    (compiled : optional (Having.condition aggregates) query.having = .ok having) :
    having.toList.flatMap Expr.floats = query.having.toList.flatMap Having.thresholds := by
  cases given : query.having with
  | none =>
      rw [given] at compiled
      cases compiled
      rfl
  | some tree =>
      rw [given] at compiled
      obtain ⟨expr, built, rfl⟩ := map_eq_ok_iff.mp compiled
      simp only [Option.toList_some, List.flatMap_singleton]
      exact tree.floats_condition noDoubles built

/-- The doubles of an aggregate statement are the constants that the having tree of its query
compares with. -/
theorem floats_aggregateStatement
    (compiled : query.aggregateStatement table fields dialect mode = .ok statement) :
    statement.floats = query.having.toList.flatMap Having.thresholds := by
  obtain ⟨_, _, aggregates, filter, having, order, compiledAggregates, compiledFilter,
    compiledHaving, compiledOrder, rfl⟩ := aggregateStatement_eq_ok_iff.mp compiled
  have timestamp : (dialect.timestampColumn (.column table.timestampColumn)).floats = [] :=
    dialect.floats_timestampColumn (.column table.timestampColumn)
  have noDoubles : ∀ aggregate ∈ aggregates, aggregate.call.floats = [] :=
    forall_results_of_forall₂ (aggregates_forall₂ compiledAggregates)
      fun _ _ _ built => floats_call_of_aggregate built
  have none {exprs : List Expr} (each : ∀ expr ∈ exprs, expr.floats = []) :
      exprs.flatMap Expr.floats = [] := List.flatMap_eq_nil_iff.mpr each
  have projected : ∀ projection ∈ query.aggregateColumns table fields dialect aggregates,
      ∀ expr ∈ projection.exprs, expr.floats = [] := by
    refine List.forall_mem_append.mpr ⟨List.forall_mem_append.mpr
      ⟨floats_timeProjections timestamp, ?_⟩, floats_aggregateProjections noDoubles⟩
    rw [List.forall_mem_map]
    exact fun column _ => List.forall_mem_singleton.mpr (Expr.floats_column column)
  have filtered : ∀ expr ∈ conjunction filter (intervalsCondition dialect
      (dialect.timestampColumn (.column table.timestampColumn)) query.intervals),
      expr.floats = [] := by
    refine fun expr built => floats_conjunction (fun operand member => ?_)
      (fun operand member => floats_intervalsCondition timestamp member) built
    obtain ⟨tree, builtTree⟩ := exists_tree_of_optional compiledFilter member
    exact FilterScope.floats_condition tree builtTree
  have grouped : ∀ expr ∈ (query.dimensionColumns fields).map Expr.column ++
      (query.timeKeys dialect
        (dialect.timestampColumn (.column table.timestampColumn))).map Prod.fst,
      expr.floats = [] :=
    List.forall_mem_append.mpr ⟨List.forall_mem_map.mpr fun column _ =>
      Expr.floats_column column, floats_timeKeys timestamp⟩
  simp only [SelectFrom.floats, SelectFrom.exprs, selectExprs, Relation.exprs,
    List.flatMap_append, floats_having noDoubles compiledHaving, floats_sortKeys compiledOrder,
    none (List.forall_mem_flatMap.mpr projected),
    none fun expr listed => filtered expr (Option.mem_toList.mp listed), none grouped,
    List.nil_append, List.append_nil]

/-- A statement around another one adds the floating-point constants of post-aggregations to
its doubles, and takes the doubles of its sort with it. -/
theorem IsAround.mem_floats {inner outer : Select} (around : query.IsAround dialect inner outer)
    (checked : ∀ post ∈ query.postAggregations, post.validate query = .ok ()) (value : Double) :
    value ∈ outer.floats ↔ value ∈ inner.floats ∨
      ∃ post ∈ query.postAggregations, .float value ∈ post.constants := by
  obtain ⟨items, projected, columns⟩ := around.projections
  have computed : value ∈ (items.flatMap Projection.exprs).flatMap Expr.floats ↔
      ∃ post ∈ query.postAggregations, .float value ∈ post.constants := by
    clear projected
    generalize query.postAggregations = posts at checked columns
    induction columns with
    | nil => simp
    | cons column _ inductionHypothesis =>
        obtain ⟨name, expr, _, built, rfl⟩ := column
        rw [List.forall_mem_cons] at checked
        have first : value ∈ expr.floats ↔ .float value ∈ PostAggregation.constants _ :=
          PostAggregation.mem_floats_expression checked.1 expr built
        simp only [List.flatMap_cons, Projection.exprs, List.singleton_append, List.mem_append,
          inductionHypothesis checked.2, first, List.mem_cons, exists_eq_or_imp]
  have moved : outer.exprs = items.flatMap Projection.exprs ++
      selectExprs inner.source.exprs inner.projections inner.filter inner.grouping inner.having
        [] ++ inner.order.map SortKey.expr := by
    simp only [SelectFrom.exprs, selectExprs, projected, around.source, around.filter,
      around.grouping, around.having, around.order, Relation.exprs, List.flatMap_cons,
      Projection.exprs, Option.toList_none, List.nil_append, List.append_nil]
  have stands : inner.exprs = selectExprs inner.source.exprs inner.projections inner.filter
      inner.grouping inner.having [] ++ inner.order.map SortKey.expr := by
    simp only [SelectFrom.exprs, selectExprs, List.map_nil, List.append_nil]
  rw [SelectFrom.floats, SelectFrom.floats, moved, stands, ← computed]
  simp only [List.flatMap_append, List.mem_append]
  tauto

/-- The doubles of a statement are the constants that the having tree of its query compares
with and, where the engine computes post-aggregations, their floating-point constants. -/
theorem mem_floats_statement_iff
    (compiled : query.statement table fields dialect mode = .ok statement) (value : Double) :
    value ∈ statement.floats ↔
      (∃ having ∈ query.having, value ∈ having.thresholds) ∨
        mode = .sql ∧ ∃ post ∈ query.postAggregations, .float value ∈ post.constants := by
  obtain ⟨inner, compiledInner, compiled⟩ := bind_eq_ok_iff.mp compiled
  have grouped : value ∈ inner.floats ↔ ∃ having ∈ query.having, value ∈ having.thresholds := by
    rw [floats_aggregateStatement compiledInner, List.mem_flatMap]
    simp only [Option.mem_toList, Option.mem_def]
  by_cases wrapped : mode = .sql ∧ query.postAggregations ≠ []
  · obtain ⟨outer, builtOuter, around⟩ := exists_wrap compiledInner
    rw [if_pos wrapped, builtOuter] at compiled
    cases compiled
    rw [around.mem_floats (validate_of_aggregateStatement compiledInner), grouped,
      and_iff_right wrapped.1]
  · rw [if_neg wrapped] at compiled
    cases compiled
    have none : ¬ (mode = .sql ∧ ∃ post ∈ query.postAggregations,
        .float value ∈ post.constants) := by
      rintro ⟨computed, post, listed, _⟩
      exact wrapped ⟨computed, List.ne_nil_of_mem listed⟩
    rw [grouped, or_iff_left none]

end Query

end Rollup
