import Rollup.Proofs.Plan.Conditions
import Rollup.Proofs.Plan.Modes

/-!
# Statements for different dialects

A dialect decides how the predicates, the time parts and the aggregates of a statement are
written, and nothing else.  Whether a query has a statement, the names and the order of its
columns, its sort, its limit, its condition on groups and the connectives of its condition
on rows are the same for any two dialects.  The one exception is SQLite, which refuses
filters that ask for a regular expression.
-/

namespace Rollup

open Sql

/-! ## Connectives of conditions -/

namespace Sql

/-- The connectives of a condition, without the predicates that they connect. -/
inductive Skeleton where
  | predicate
  | all (operands : List Skeleton)
  | any (operands : List Skeleton)
  | not (operand : Skeleton)

namespace Expr

mutual

/-- The connectives of a condition. -/
def skeleton : Expr → Skeleton
  | .all exprs => .all (skeletons exprs)
  | .any exprs => .any (skeletons exprs)
  | .not expr => .not expr.skeleton
  | _ => .predicate
termination_by structural expr => expr

/-- The connectives of some conditions. -/
def skeletons : List Expr → List Skeleton
  | [] => []
  | expr :: rest => expr.skeleton :: skeletons rest
termination_by structural exprs => exprs

end

/-- Whether two conditions have the same connectives. -/
def SameSkeleton (first second : Expr) : Prop :=
  first.skeleton = second.skeleton

theorem skeletons_eq {exprs others : List Expr}
    (same : List.Forall₂ SameSkeleton exprs others) : skeletons exprs = skeletons others := by
  induction same with
  | nil => rfl
  | cons first _ inductionHypothesis =>
      rw [skeletons, skeletons, inductionHypothesis]
      exact congrArg (· :: _) first

theorem SameSkeleton.all {exprs others : List Expr}
    (same : List.Forall₂ SameSkeleton exprs others) :
    SameSkeleton (.all exprs) (.all others) := by
  rw [SameSkeleton, skeleton, skeleton, skeletons_eq same]

theorem SameSkeleton.any {exprs others : List Expr}
    (same : List.Forall₂ SameSkeleton exprs others) :
    SameSkeleton (.any exprs) (.any others) := by
  rw [SameSkeleton, skeleton, skeleton, skeletons_eq same]

theorem SameSkeleton.not {expr other : Expr} (same : SameSkeleton expr other) :
    SameSkeleton (.not expr) (.not other) :=
  congrArg Skeleton.not same

/-- Conditions made of the same items in two ways have the same connectives if those made of
one item do. -/
theorem forall₂_sameSkeleton_map {α : Type} {first second : α → Expr}
    (same : ∀ item, SameSkeleton (first item) (second item)) (items : List α) :
    List.Forall₂ SameSkeleton (items.map first) (items.map second) := by
  rw [List.forall₂_map_left_iff, List.forall₂_map_right_iff, List.forall₂_same]
  exact fun item _ => same item

end Expr

end Sql

/-! ## Filters -/

namespace Filter

mutual

/-- Whether a filter asks for a regular expression. -/
def hasRegex : Filter → Bool
  | .regex .. => true
  | .all filters => hasRegexAmong filters
  | .any filters => hasRegexAmong filters
  | .not filter => filter.hasRegex
  | _ => false
termination_by structural filter => filter

/-- Whether one of some filters asks for a regular expression. -/
def hasRegexAmong : List Filter → Bool
  | [] => false
  | filter :: rest => filter.hasRegex || hasRegexAmong rest
termination_by structural filters => filters

end

@[simp]
theorem hasRegexAmong_eq_false_iff {filters : List Filter} :
    hasRegexAmong filters = false ↔ ∀ filter ∈ filters, filter.hasRegex = false := by
  induction filters with
  | nil => simp [hasRegexAmong]
  | cons filter rest inductionHypothesis =>
      rw [hasRegexAmong, Bool.or_eq_false_iff, inductionHypothesis, List.forall_mem_cons]

/-- Whether a filter has conditions for both of two dialects, as far as regular expressions
are concerned. -/
def SuitsBoth (first second : Dialect) (filter : Filter) : Prop :=
  filter.hasRegex = false ∨ first ≠ .sqlite ∧ second ≠ .sqlite

theorem SuitsBoth.of_mem {first second : Dialect} {filters : List Filter}
    (suits : hasRegexAmong filters = false ∨ first ≠ .sqlite ∧ second ≠ .sqlite)
    {filter : Filter} (member : filter ∈ filters) : filter.SuitsBoth first second :=
  suits.imp_left fun regexFree => hasRegexAmong_eq_false_iff.mp regexFree filter member

end Filter

namespace FilterScope

variable {fields : FieldMap} {query : Query}

/-- Dialects other than SQLite have a predicate for regular expressions. -/
theorem matchesRegex_endAlike {first second : Dialect}
    (suits : first ≠ .sqlite ∧ second ≠ .sqlite) (column : Expr) (pattern : String) :
    EndAlike Expr.SameSkeleton (first.matchesRegex column pattern)
      (second.matchesRegex column pattern) := by
  have matched : ∀ dialect : Dialect, dialect ≠ .sqlite →
      ∃ expr, dialect.matchesRegex column pattern = .ok expr ∧ expr.skeleton = .predicate := by
    intro dialect other
    cases dialect with
    | sqlite => exact absurd rfl other
    | ansi => exact ⟨_, rfl, rfl⟩
    | postgres => exact ⟨_, rfl, rfl⟩
    | mysql => exact ⟨_, rfl, rfl⟩
    | presto format => exact ⟨_, rfl, rfl⟩
  obtain ⟨expr, built, leaf⟩ := matched first suits.1
  obtain ⟨other, builtOther, leafOther⟩ := matched second suits.2
  rw [built, builtOther]
  exact .ok (leaf.trans leafOther.symm)

theorem skeleton_contains (dialect : Dialect) (column : Expr) (text : String) :
    (dialect.contains column text).skeleton = .predicate := by
  cases dialect <;> rfl

/-- A search has one predicate, whatever the dialect. -/
theorem searchCondition_endAlike (first second : Dialect) (dimension : String)
    (search : Search) :
    EndAlike Expr.SameSkeleton (searchCondition ⟨first, fields, query⟩ dimension search)
      (searchCondition ⟨second, fields, query⟩ dimension search) := by
  refine EndAlike.andThen fun column _ => ?_
  cases search.mode with
  | contains =>
      exact .ok ((skeleton_contains first column search.text).trans
        (skeleton_contains second column search.text).symm)
  | insensitiveContains => exact .ok rfl
  | fragment => exact .error _

/-- A list of values has one predicate for each value. -/
theorem membershipCondition_endAlike (first second : Dialect) (dimension : String)
    (values : List String) :
    EndAlike Expr.SameSkeleton (membershipCondition ⟨first, fields, query⟩ dimension values)
      (membershipCondition ⟨second, fields, query⟩ dimension values) := by
  refine EndAlike.check fun _ => ?_
  refine EndAlike.andThen fun column _ => ?_
  have leaf (value : String) :
      (first.equals column value).SameSkeleton (second.equals column value) := rfl
  exact .ok (.any (Expr.forall₂_sameSkeleton_map leaf values))

theorem conditions_endAlike {first second : Dialect} {filters : List Filter}
    (each : ∀ filter ∈ filters, EndAlike Expr.SameSkeleton
      (condition ⟨first, fields, query⟩ filter) (condition ⟨second, fields, query⟩ filter)) :
    EndAlike (List.Forall₂ Expr.SameSkeleton) (conditions ⟨first, fields, query⟩ filters)
      (conditions ⟨second, fields, query⟩ filters) :=
  EndAlike.collected (conditions _) (conditions _) rfl rfl (fun _ _ => rfl) (fun _ _ => rfl) each

/-- A filter has a condition for one of two dialects if it has one for the other, with the
same connectives. -/
theorem condition_endAlike {first second : Dialect} (filter : Filter)
    (suits : filter.SuitsBoth first second) :
    EndAlike Expr.SameSkeleton (condition ⟨first, fields, query⟩ filter)
      (condition ⟨second, fields, query⟩ filter) := by
  induction filter using Filter.induction with
  | selector dimension value => exact EndAlike.andThen fun column _ => .ok rfl
  | regex dimension pattern =>
      have noSqlite := suits.resolve_left (fun regexFree => by cases regexFree)
      exact EndAlike.andThen fun column _ => matchesRegex_endAlike noSqlite column pattern
  | search dimension wanted => exact searchCondition_endAlike first second dimension wanted
  | oneOf dimension values => exact membershipCondition_endAlike first second dimension values
  | all filters each =>
      rw [condition, condition]
      refine EndAlike.check fun _ => ?_
      refine (conditions_endAlike fun filter member =>
        each filter member (.of_mem suits member)).bind ?_
      exact fun _ _ _ _ same => .ok (.all same)
  | any filters each =>
      rw [condition, condition]
      refine EndAlike.check fun _ => ?_
      refine (conditions_endAlike fun filter member =>
        each filter member (.of_mem suits member)).bind ?_
      exact fun _ _ _ _ same => .ok (.any same)
  | not filter negated =>
      rw [condition, condition]
      exact (negated suits).bind fun _ _ _ _ same => .ok same.not

theorem hasRegexAmong_of_conditions {filters : List Filter} {exprs : List Expr}
    (compiled : conditions ⟨.sqlite, fields, query⟩ filters = .ok exprs)
    (each : ∀ filter ∈ filters, ∀ {expr},
      condition ⟨.sqlite, fields, query⟩ filter = .ok expr → filter.hasRegex = false) :
    Filter.hasRegexAmong filters = false := by
  refine Filter.hasRegexAmong_eq_false_iff.mpr fun filter member => ?_
  obtain ⟨expr, built⟩ := exists_result_of_mem (conditions_forall₂ compiled) member
  exact each filter member built

/-- A filter with a condition for SQLite asks for no regular expression. -/
theorem hasRegex_of_condition (filter : Filter) {expr : Expr}
    (compiled : condition ⟨.sqlite, fields, query⟩ filter = .ok expr) :
    filter.hasRegex = false := by
  induction filter using Filter.induction generalizing expr with
  | selector dimension value => rfl
  | regex dimension pattern =>
      obtain ⟨column, _, refused⟩ := bind_eq_ok_iff.mp compiled
      cases refused
  | search dimension wanted => rfl
  | oneOf dimension values => rfl
  | all filters each =>
      simp only [condition, check_eq_ok_iff] at compiled
      obtain ⟨exprs, found, _⟩ := bind_eq_ok_iff.mp compiled.2
      exact hasRegexAmong_of_conditions found each
  | any filters each =>
      simp only [condition, check_eq_ok_iff] at compiled
      obtain ⟨exprs, found, _⟩ := bind_eq_ok_iff.mp compiled.2
      exact hasRegexAmong_of_conditions found each
  | not filter negated =>
      obtain ⟨inner, built, _⟩ := bind_eq_ok_iff.mp compiled
      exact negated built

end FilterScope

/-! ## Statements of one shape -/

namespace Sql

/-- Two statements have one shape: over sources that are related, columns of the same names,
the same sort, limit and condition on groups, as many keys to group by, the first of which
are given, and conditions on rows with the same connectives. -/
structure SelectFrom.SameShape (sources : Relation → Relation → Prop) (keys : List Expr)
    (first second : Select) : Prop where
  source : sources first.source second.source
  outputNames : first.outputNames = second.outputNames
  having : first.having = second.having
  order : first.order = second.order
  limit : first.limit = second.limit
  grouping : ∃ times others, first.grouping = keys ++ times ∧ second.grouping = keys ++ others ∧
    times.length = others.length
  filter : Option.Rel Expr.SameSkeleton first.filter second.filter

end Sql

namespace Query

variable {query : Query} {table : Table} {fields : FieldMap} {first second : Dialect}
  {mode : PostAggregationMode}

/-- Two aggregate statements of a query have one shape over the same table, with the
columns of its dimensions as the first keys. -/
def AggregatesAlike (query : Query) (fields : FieldMap) : Select → Select → Prop :=
  SelectFrom.SameShape (· = ·) ((query.dimensionColumns fields).map Expr.column)

/-- Two statements of a query have one shape, and so do the aggregate statements inside
them where there are such. -/
def StatementsAlike (query : Query) (fields : FieldMap) (mode : PostAggregationMode)
    (first second : Select) : Prop :=
  if mode = .sql ∧ query.postAggregations ≠ [] then
    SelectFrom.SameShape
      (fun source other => ∃ inner innerOther, source = .subquery inner aggregateName ∧
        other = .subquery innerOther aggregateName ∧
        query.AggregatesAlike fields inner innerOther) [] first second
  else query.AggregatesAlike fields first second

/-! ## Statements for two dialects -/

theorem sameSkeleton_intervalsCondition (first second : Dialect) (timestamp other : Expr)
    (intervals : List Interval) :
    Option.Rel Expr.SameSkeleton (intervalsCondition first timestamp intervals)
      (intervalsCondition second other intervals) := by
  have same (interval : Interval) : (intervalCondition first timestamp interval).SameSkeleton
      (intervalCondition second other interval) := rfl
  match intervals with
  | [] => exact .none
  | [interval] => exact .some (same interval)
  | interval :: next :: rest =>
      exact .some (.any (Expr.forall₂_sameSkeleton_map same (interval :: next :: rest)))

theorem sameSkeleton_conjunction {left right leftOther rightOther : Option Expr}
    (leftSame : Option.Rel Expr.SameSkeleton left leftOther)
    (rightSame : Option.Rel Expr.SameSkeleton right rightOther) :
    Option.Rel Expr.SameSkeleton (conjunction left right)
      (conjunction leftOther rightOther) := by
  cases leftSame with
  | none =>
      cases rightSame with
      | none => exact .none
      | some same => exact .some same
  | some same =>
      cases rightSame with
      | none => exact .some same
      | some rightSame => exact .some (.all (.cons same (.cons rightSame .nil)))

theorem optional_endAlike {α : Type} {condition conditionOther : α → Except Error Expr}
    {tree : Option α} (alike : ∀ present ∈ tree,
      EndAlike Expr.SameSkeleton (condition present) (conditionOther present)) :
    EndAlike (Option.Rel Expr.SameSkeleton) (optional condition tree)
      (optional conditionOther tree) := by
  cases tree with
  | none => exact .ok .none
  | some present =>
      have same := alike present rfl
      rw [optional, optional]
      exact same.map fun _ _ same => .some same

theorem outputNames_aggregateProjections (first second : Dialect)
    (aggregations : List Aggregation) (found : List Aggregate) :
    (aggregateProjections first aggregations found).map Projection.name? =
      (aggregateProjections second aggregations found).map Projection.name? := by
  rw [aggregateProjections, aggregateProjections, List.map_map, List.map_map]
  rfl

theorem length_timeKeys (query : Query) (dialect : Dialect) (timestamp : Expr) :
    (query.timeKeys dialect timestamp).length = query.granularity.timeColumnNames.length := by
  rw [← length_timeProjections query dialect timestamp, timeProjections, List.length_map]

/-- Aggregate statements of a query are built alike for two dialects that both have its
filter. -/
theorem aggregateStatement_endAlike
    (suits : ∀ filter ∈ query.filter, filter.SuitsBoth first second) :
    EndAlike (query.AggregatesAlike fields)
      (query.aggregateStatement table fields first mode)
      (query.aggregateStatement table fields second mode) := by
  refine EndAlike.andThen fun _ _ => ?_
  refine EndAlike.andThen fun _ _ => ?_
  refine EndAlike.andThen fun found _ => ?_
  refine (optional_endAlike fun filter present =>
    FilterScope.condition_endAlike filter (suits filter present)).bind
      fun condition other _ _ sameFilter => ?_
  refine EndAlike.andThen fun having _ => ?_
  refine EndAlike.andThen fun order _ => ?_
  refine .ok ⟨rfl, ?outputNames, rfl, rfl, rfl, ?grouping, ?filter⟩
  case outputNames =>
    simp only [SelectFrom.outputNames, List.map_append, timeProjections_names]
    rw [outputNames_aggregateProjections first second]
  case grouping =>
    refine ⟨_, _, rfl, rfl, ?_⟩
    rw [List.length_map, List.length_map, length_timeKeys, length_timeKeys]
  case filter =>
    exact sameSkeleton_conjunction sameFilter
      (sameSkeleton_intervalsCondition first second _ _ query.intervals)

/-- Statements around aggregate statements of one shape have one shape. -/
theorem wrap_endAlike {inner innerOther : Select}
    (compiled : query.aggregateStatement table fields first mode = .ok inner)
    (compiledOther : query.aggregateStatement table fields second mode = .ok innerOther)
    (alike : query.AggregatesAlike fields inner innerOther) :
    EndAlike
      (SelectFrom.SameShape
        (fun source other => ∃ inner innerOther, source = .subquery inner aggregateName ∧
          other = .subquery innerOther aggregateName ∧
          query.AggregatesAlike fields inner innerOther) [])
      (query.wrap first inner) (query.wrap second innerOther) := by
  obtain ⟨outer, built, around⟩ := exists_wrap compiled
  obtain ⟨other, builtOther, aroundOther⟩ := exists_wrap compiledOther
  rw [built, builtOther]
  refine .ok ⟨?source, ?outputNames, ?having, ?order, ?limit, ?grouping, ?filter⟩
  case source =>
    exact ⟨_, _, around.source, aroundOther.source, alike.source, alike.outputNames,
      alike.having, rfl, rfl, alike.grouping, alike.filter⟩
  case outputNames => rw [around.outputNames, aroundOther.outputNames]
  case having => rw [around.having, aroundOther.having]
  case order => rw [around.order, aroundOther.order, alike.order]
  case limit => rw [around.limit, aroundOther.limit, alike.limit]
  case grouping => exact ⟨[], [], around.grouping, aroundOther.grouping, rfl⟩
  case filter =>
    rw [around.filter, aroundOther.filter]
    exact .none

/-- Statements of a query are built alike for two dialects that both have its filter. -/
theorem statement_endAlike
    (suits : ∀ filter ∈ query.filter, filter.SuitsBoth first second) :
    EndAlike (query.StatementsAlike fields mode) (query.statement table fields first mode)
      (query.statement table fields second mode) := by
  refine (aggregateStatement_endAlike suits).bind fun inner innerOther compiled compiledOther
    alike => ?_
  unfold StatementsAlike
  by_cases wrapped : mode = .sql ∧ query.postAggregations ≠ []
  · simp only [if_pos wrapped]
    exact wrap_endAlike compiled compiledOther alike
  · simp only [if_neg wrapped]
    exact .ok alike

/-- A query with a statement for SQLite asks for no regular expression. -/
theorem hasRegex_of_statement {statement : Select}
    (compiled : query.statement table fields .sqlite mode = .ok statement) :
    ∀ filter ∈ query.filter, filter.hasRegex = false := by
  intro filter present
  obtain ⟨inner, compiled, _⟩ := bind_eq_ok_iff.mp compiled
  obtain ⟨_, _, _, _, _, _, _, built, _⟩ := aggregateStatement_eq_ok_iff.mp compiled
  rw [Option.mem_def.mp present, optional, map_eq_ok_iff] at built
  obtain ⟨expr, built, _⟩ := built
  exact FilterScope.hasRegex_of_condition filter built

theorem suitsBoth_of_statements {statement other : Select}
    (compiled : query.statement table fields first mode = .ok statement)
    (compiledOther : query.statement table fields second mode = .ok other) :
    ∀ filter ∈ query.filter, filter.SuitsBoth first second := by
  intro filter present
  by_cases sqlite : first = .sqlite
  · subst sqlite
    exact .inl (hasRegex_of_statement compiled filter present)
  · by_cases sqliteOther : second = .sqlite
    · subst sqliteOther
      exact .inl (hasRegex_of_statement compiledOther filter present)
    · exact .inr ⟨sqlite, sqliteOther⟩

/-- For any two dialects a query compiles alike, with the same error or to statements of one
shape, if its filter asks for no regular expression or neither dialect is SQLite; and
wherever it compiles for both, the statements have one shape. -/
theorem dialects_agree (query : Query) (table : Table) (fields : FieldMap)
    (mode : PostAggregationMode) (first second : Dialect) :
    ((∀ filter ∈ query.filter, filter.hasRegex = false) ∨
        first ≠ .sqlite ∧ second ≠ .sqlite →
      EndAlike
        (fun compiled other : Compiled =>
          query.StatementsAlike fields mode compiled.statement other.statement)
        (query.compile table fields first mode) (query.compile table fields second mode)) ∧
      ∀ compiled other, query.compile table fields first mode = .ok compiled →
        query.compile table fields second mode = .ok other →
        query.StatementsAlike fields mode compiled.statement other.statement := by
  constructor
  · intro suits
    refine compile_endAlike (statement_endAlike fun filter present => ?_)
    exact suits.imp_left fun regexFree => regexFree filter present
  · intro compiled other compiles compilesOther
    obtain ⟨stated, _, _⟩ := compile_eq_ok compiles
    obtain ⟨statedOther, _, _⟩ := compile_eq_ok compilesOther
    exact (statement_endAlike (suitsBoth_of_statements stated statedOther)).results stated
      statedOther

/-- A search, a list of values and a negation, for SQLite and for PostgreSQL. -/
theorem dialects_agree_on_search :
    let table : Table := ⟨"sales", "sales", "ts", [⟨"region", some "region_cd"⟩]⟩
    let fields := FieldMap.ofTable table
    let query : Query := { topDailyAverages with
      filter := some (.all [.search "region" (.contains "east" true),
        .not (.oneOf "region" ["northeast", "southeast"])]) }
    (∀ filter ∈ query.filter, filter.hasRegex = false) ∧
      ∃ compiled other, query.compile table fields .sqlite .sql = .ok compiled ∧
        query.compile table fields .postgres .sql = .ok other ∧
        query.StatementsAlike fields .sql compiled.statement other.statement := by
  intro table fields query
  have regexFree : ∀ filter ∈ query.filter, filter.hasRegex = false := by
    rintro _ ⟨⟩
    rfl
  refine ⟨regexFree, _, _, rfl, rfl, ?_⟩
  exact ((dialects_agree query table fields .sql .sqlite .postgres).1 (.inl regexFree)).results
    rfl rfl

end Query

end Rollup
