import Rollup.Proofs.Filter.Meaning
import Rollup.Proofs.Plan.Columns
import Rollup.Proofs.Sql.Inherited
import Rollup.Proofs.Sql.Reading

/-!
# Conditions of statements

Filters, having trees and intervals are compiled to expressions that are conditions: their
connectives have operands, and what stands under the connectives are comparisons, `LIKE` and
calls over columns, literals, casts and aggregates.  So the text of each is read back as the
condition that was built, in every dialect.
-/

namespace Rollup

open Sql

/-! ## Predicates on a column -/

namespace Sql.Dialect

variable (dialect : Dialect) (name : String)

theorem isOperand_textCast : (Expr.cast (.column name) dialect.textType).IsOperand :=
  .cast (Expr.IsOperand.column name).namesAreBare dialect.isBareName_textType

theorem isOperand_equalityOperand : (dialect.equalityOperand (.column name)).IsOperand := by
  unfold equalityOperand
  split
  · exact isOperand_textCast _ name
  · exact .column name

theorem isOperand_searchOperand : (dialect.searchOperand (.column name)).IsOperand := by
  cases dialect with
  | ansi => exact .column name
  | mysql => exact .column name
  | postgres => exact isOperand_textCast .postgres name
  | sqlite => exact isOperand_textCast .sqlite name
  | presto format => exact isOperand_textCast (.presto format) name

/-- A call of a function on a column and a text. -/
theorem isPredicate_search {function : String} (named : IsFunctionName function)
    (text : String) :
    (Expr.call function [dialect.searchOperand (.column name), .text text]).IsPredicate :=
  .call named (List.forall_mem_cons.mpr ⟨(dialect.isOperand_searchOperand name).namesAreBare,
    List.forall_mem_singleton.mpr (Expr.IsOperand.literal (.text text)).namesAreBare⟩)

theorem isOperand_lower {expr : Expr} (operand : expr.IsOperand) :
    (Expr.lower expr).IsOperand :=
  .call (by decide) (List.forall_mem_singleton.mpr operand.namesAreBare)

theorem isPredicate_equals (value : String) :
    (dialect.equals (.column name) value).IsPredicate :=
  .compare .equal (dialect.isOperand_equalityOperand name) (.literal (.text value))

theorem isPredicate_contains (text : String) :
    (dialect.contains (.column name) text).IsPredicate := by
  have operand := dialect.isOperand_searchOperand name
  unfold contains
  split
  · have call : (Expr.call "instr" [searchOperand .sqlite (.column name), .text text]).IsOperand :=
      .call (by decide) (List.forall_mem_cons.mpr ⟨operand.namesAreBare,
        List.forall_mem_singleton.mpr (Expr.IsOperand.literal (.text text)).namesAreBare⟩)
    exact .compare .greater call (.literal (.integer 0))
  · exact .like (some likeEscape) operand (.literal (.text (containsPattern text)))

theorem isPredicate_containsInsensitive (text : String) :
    (dialect.containsInsensitive (.column name) text).IsPredicate :=
  .like (some likeEscape) (isOperand_lower (dialect.isOperand_searchOperand name))
    (isOperand_lower (.literal (.text (containsPattern text))))

theorem isPredicate_matchesRegex {pattern : String} {expr : Expr}
    (built : dialect.matchesRegex (.column name) pattern = .ok expr) : expr.IsPredicate := by
  cases dialect with
  | ansi =>
      cases built
      exact isPredicate_search .ansi name (by decide) pattern
  | postgres =>
      cases built
      exact .compare .tilde (isOperand_searchOperand .postgres name) (.literal (.text pattern))
  | mysql =>
      cases built
      exact .compare .regexp (isOperand_searchOperand .mysql name) (.literal (.text pattern))
  | sqlite => cases built
  | presto format =>
      cases built
      exact isPredicate_search (.presto format) name (by decide) pattern

/-- The timestamp column is an operand of comparisons. -/
theorem isOperand_timestampColumn : (dialect.timestampColumn (.column name)).IsOperand := by
  unfold timestampColumn
  split
  · exact .call (by decide) (List.forall_mem_cons.mpr ⟨(Expr.IsOperand.column name).namesAreBare,
      List.forall_mem_singleton.mpr (Expr.IsOperand.literal _).namesAreBare⟩)
  · exact .column name

theorem isOperand_timestampLiteral (instant : Instant) :
    (dialect.timestampLiteral instant).IsOperand := by
  unfold timestampLiteral
  split
  all_goals exact .literal _

end Sql.Dialect

/-! ## Filters -/

/-- Operands that are compiled one by one leave a connective with operands. -/
theorem operands_ne_nil {α : Type} {compile : α → Except Error Expr} {trees : List α}
    {exprs : List Expr} (nonempty : ¬ trees.isEmpty = true)
    (compiled : List.Forall₂ (fun tree expr => compile tree = .ok expr) trees exprs) :
    exprs ≠ [] := by
  rintro rfl
  cases compiled
  exact nonempty rfl

namespace FilterScope

variable {scope : FilterScope}

theorem conditions_forall₂ {filters : List Filter} {exprs : List Expr}
    (compiled : scope.conditions filters = .ok exprs) :
    List.Forall₂ (fun filter expr => scope.condition filter = .ok expr) filters exprs :=
  forall₂_of_collected scope.conditions rfl (fun _ _ => rfl) compiled

/-- What holds of every predicate of a dialect on the column of a dimension, and of a
connective as soon as it holds of its operands, holds of the condition of every filter. -/
@[elab_as_elim]
theorem condition_induction {motive : Expr → Prop}
    (equals : ∀ dimension column value, scope.column dimension = .ok column →
      motive (scope.dialect.equals column value))
    (regex : ∀ dimension column pattern expr, scope.column dimension = .ok column →
      scope.dialect.matchesRegex column pattern = .ok expr → motive expr)
    (contains : ∀ dimension column text, scope.column dimension = .ok column →
      motive (scope.dialect.contains column text))
    (containsInsensitive : ∀ dimension column text, scope.column dimension = .ok column →
      motive (scope.dialect.containsInsensitive column text))
    (all : ∀ exprs, exprs ≠ [] → (∀ expr ∈ exprs, motive expr) → motive (.all exprs))
    (any : ∀ exprs, exprs ≠ [] → (∀ expr ∈ exprs, motive expr) → motive (.any exprs))
    (not : ∀ expr, motive expr → motive (.not expr))
    (expr : Expr) (filter : Filter) (compiled : scope.condition filter = .ok expr) :
    motive expr := by
  induction filter using Filter.induction generalizing expr with
  | selector dimension value =>
      obtain ⟨column, found, built⟩ := bind_eq_ok_iff.mp compiled
      cases built
      exact equals dimension column value found
  | regex dimension pattern =>
      obtain ⟨column, found, built⟩ := bind_eq_ok_iff.mp compiled
      exact regex dimension column pattern expr found built
  | search dimension wanted =>
      obtain ⟨column, found, built⟩ := bind_eq_ok_iff.mp compiled
      cases mode : wanted.mode with
      | contains =>
          rw [mode] at built
          cases built
          exact contains dimension column wanted.text found
      | insensitiveContains =>
          rw [mode] at built
          cases built
          exact containsInsensitive dimension column wanted.text found
      | fragment =>
          rw [mode] at built
          cases built
  | oneOf dimension values =>
      simp only [condition, membershipCondition, check_eq_ok_iff] at compiled
      obtain ⟨column, found, built⟩ := bind_eq_ok_iff.mp compiled.2
      cases built
      exact any _ (by simpa using compiled.1)
        (List.forall_mem_map.mpr fun value _ => equals dimension column value found)
  | all filters each =>
      simp only [condition, check_eq_ok_iff] at compiled
      obtain ⟨exprs, found, built⟩ := bind_eq_ok_iff.mp compiled.2
      cases built
      have operands := conditions_forall₂ found
      exact all exprs (operands_ne_nil compiled.1 operands)
        (forall_results_of_forall₂ operands fun filter listed => each filter listed _)
  | any filters each =>
      simp only [condition, check_eq_ok_iff] at compiled
      obtain ⟨exprs, found, built⟩ := bind_eq_ok_iff.mp compiled.2
      cases built
      have operands := conditions_forall₂ found
      exact any exprs (operands_ne_nil compiled.1 operands)
        (forall_results_of_forall₂ operands fun filter listed => each filter listed _)
  | not filter negated =>
      obtain ⟨inner, found, built⟩ := bind_eq_ok_iff.mp compiled
      cases built
      exact not inner (negated inner found)

theorem exists_column {dimension : String} {column : Expr}
    (compiled : scope.column dimension = .ok column) : ∃ name, column = .column name := by
  unfold FilterScope.column at compiled
  split at compiled
  · cases compiled
    exact ⟨_, rfl⟩
  · cases compiled

/-- A filter is compiled to a condition. -/
theorem isCondition_condition (filter : Filter) {expr : Expr}
    (compiled : scope.condition filter = .ok expr) : expr.IsCondition := by
  refine condition_induction ?equals ?regex ?contains ?containsInsensitive
    (fun _ => .all) (fun _ => .any) (fun _ => .not) expr filter compiled
  case equals =>
    intro dimension column value found
    obtain ⟨name, rfl⟩ := exists_column found
    exact .predicate (scope.dialect.isPredicate_equals name value)
  case regex =>
    intro dimension column pattern expr found built
    obtain ⟨name, rfl⟩ := exists_column found
    exact .predicate (scope.dialect.isPredicate_matchesRegex name built)
  case contains =>
    intro dimension column text found
    obtain ⟨name, rfl⟩ := exists_column found
    exact .predicate (scope.dialect.isPredicate_contains name text)
  case containsInsensitive =>
    intro dimension column text found
    obtain ⟨name, rfl⟩ := exists_column found
    exact .predicate (scope.dialect.isPredicate_containsInsensitive name text)

end FilterScope

/-! ## Having trees -/

/-- Whether the arguments of some aggregates name functions, types and fields barely. -/
def AggregatesAreBare (aggregates : List Aggregate) : Prop :=
  ∀ aggregate ∈ aggregates, ∀ argument ∈ aggregate.argument, argument.NamesAreBare

namespace Having

variable {aggregates : List Aggregate}

theorem conditions_forall₂ {clauses : List Having} {exprs : List Expr}
    (compiled : conditions aggregates clauses = .ok exprs) :
    List.Forall₂ (fun clause expr => condition aggregates clause = .ok expr) clauses exprs :=
  forall₂_of_collected (conditions aggregates) rfl (fun _ _ => rfl) compiled

/-- What holds of every comparison, and of a connective as soon as it holds of each clause,
holds of every having tree. -/
@[elab_as_elim]
theorem induction {motive : Having → Prop}
    (compare : ∀ aggregation comparison value, motive (.compare aggregation comparison value))
    (all : ∀ clauses, (∀ clause ∈ clauses, motive clause) → motive (.all clauses))
    (any : ∀ clauses, (∀ clause ∈ clauses, motive clause) → motive (.any clauses))
    (not : ∀ clause, motive clause → motive (.not clause))
    (multi : ∀ connective clauses, (∀ clause ∈ clauses, motive clause) →
      motive (.multi connective clauses))
    (having : Having) : motive having :=
  @Having.rec motive (fun clauses => ∀ clause ∈ clauses, motive clause) compare all any not multi
    (fun _ listed => by cases listed)
    (fun _ _ first rest => List.forall_mem_cons.mpr ⟨first, rest⟩) having

/-- What holds of every comparison with the call of an aggregate, and of a connective as soon
as it holds of its operands, holds of the condition of every having tree. -/
@[elab_as_elim]
theorem condition_induction {motive : Expr → Prop}
    (compare : ∀ aggregate operator value, aggregate ∈ aggregates →
      motive (.compare aggregate.call operator (.float value)))
    (all : ∀ exprs, exprs ≠ [] → (∀ expr ∈ exprs, motive expr) → motive (.all exprs))
    (any : ∀ exprs, exprs ≠ [] → (∀ expr ∈ exprs, motive expr) → motive (.any exprs))
    (not : ∀ expr, motive expr → motive (.not expr))
    (expr : Expr) (having : Having) (compiled : condition aggregates having = .ok expr) :
    motive expr := by
  have junctions {clauses : List Having} {exprs : List Expr}
      (nonempty : ¬ clauses.isEmpty = true) (found : conditions aggregates clauses = .ok exprs)
      (each : ∀ clause ∈ clauses, ∀ expr, condition aggregates clause = .ok expr → motive expr) :
      motive (.all exprs) ∧ motive (.any exprs) := by
    have operands := conditions_forall₂ found
    have some := operands_ne_nil nonempty operands
    have hold := forall_results_of_forall₂ operands fun clause listed => each clause listed _
    exact ⟨all exprs some hold, any exprs some hold⟩
  induction having using Having.induction generalizing expr with
  | compare name comparison value =>
      rw [condition] at compiled
      split at compiled
      · next aggregate found =>
        cases compiled
        exact compare aggregate comparison.operator value (List.mem_of_find?_eq_some found)
      · cases compiled
  | all clauses each =>
      simp only [condition, check_eq_ok_iff] at compiled
      obtain ⟨exprs, found, built⟩ := bind_eq_ok_iff.mp compiled.2
      cases built
      exact (junctions compiled.1 found each).1
  | any clauses each =>
      simp only [condition, check_eq_ok_iff] at compiled
      obtain ⟨exprs, found, built⟩ := bind_eq_ok_iff.mp compiled.2
      cases built
      exact (junctions compiled.1 found each).2
  | not clause negated =>
      obtain ⟨inner, found, built⟩ := bind_eq_ok_iff.mp compiled
      cases built
      exact not inner (negated inner found)
  | multi connective clauses each =>
      simp only [condition, check_eq_ok_iff] at compiled
      obtain ⟨exprs, found, built⟩ := bind_eq_ok_iff.mp compiled.2
      cases connective with
      | and =>
          cases built
          exact (junctions compiled.1 found each).1
      | or =>
          cases built
          exact (junctions compiled.1 found each).2

/-- A having tree is compiled to a condition. -/
theorem isCondition_condition (bare : AggregatesAreBare aggregates) (having : Having)
    {expr : Expr} (compiled : condition aggregates having = .ok expr) : expr.IsCondition := by
  refine condition_induction ?compare (fun _ => .all) (fun _ => .any) (fun _ => .not) expr having
    compiled
  case compare =>
    intro aggregate operator value listed
    exact .predicate (.compare operator (.aggregate (bare aggregate listed))
      (.literal (.float value)))

end Having

/-! ## Intervals and conjunctions -/

namespace Query

theorem isCondition_intervalCondition (dialect : Dialect) (column : String)
    (interval : Interval) :
    (intervalCondition dialect (dialect.timestampColumn (.column column))
      interval).IsCondition := by
  have operand := dialect.isOperand_timestampColumn column
  have compared (operator : Operator) (instant : Instant) :
      (Expr.compare (dialect.timestampColumn (.column column)) operator
        (dialect.timestampLiteral instant)).IsCondition :=
    .predicate (.compare operator operand (dialect.isOperand_timestampLiteral instant))
  have atLeast := compared .atLeast interval.start
  have less := compared .less interval.stop
  exact .all (List.cons_ne_nil _ _)
    (List.forall_mem_cons.mpr ⟨atLeast, List.forall_mem_singleton.mpr less⟩)

theorem isCondition_intervalsCondition {dialect : Dialect} {column : String}
    {intervals : List Interval} {expr : Expr}
    (built : intervalsCondition dialect (dialect.timestampColumn (.column column)) intervals =
      some expr) : expr.IsCondition := by
  match intervals with
  | [] => cases built
  | [interval] =>
      cases built
      exact isCondition_intervalCondition dialect column interval
  | first :: second :: rest =>
      cases built
      refine .any (List.cons_ne_nil _ _) fun expr member => ?_
      obtain ⟨interval, _, rfl⟩ := List.mem_map.mp member
      exact isCondition_intervalCondition dialect column interval

theorem isCondition_conjunction {first second : Option Expr} {expr : Expr}
    (left : ∀ operand ∈ first, operand.IsCondition)
    (right : ∀ operand ∈ second, operand.IsCondition)
    (built : conjunction first second = some expr) : expr.IsCondition := by
  match first, second with
  | none, none => cases built
  | none, some _ => exact right expr built
  | some _, none => exact left expr built
  | some operand, some other =>
      cases built
      exact .all (List.cons_ne_nil _ _) (List.forall_mem_cons.mpr
        ⟨left operand rfl, List.forall_mem_singleton.mpr (right other rfl)⟩)

/-- The argument of an aggregate is a column. -/
theorem argument_of_aggregate {fields : FieldMap} {aggregation : Aggregation}
    {aggregate : Aggregate} (compiled : Query.aggregate fields aggregation = .ok aggregate)
    {argument : Expr} (listed : argument ∈ aggregate.argument) :
    ∃ name, argument = .column name := by
  obtain ⟨kind, name, field?⟩ := aggregation
  cases field? with
  | none =>
      cases kind <;> cases compiled
      cases listed
  | some field => cases kind <;> cases compiled <;> cases listed <;> exact ⟨_, rfl⟩

theorem aggregatesAreBare_aggregates {fields : FieldMap} {aggregations : List Aggregation}
    {aggregates : List Aggregate} (built : Query.aggregates fields aggregations = .ok aggregates) :
    AggregatesAreBare aggregates := by
  refine forall_results_of_forall₂ (aggregates_forall₂ built) ?_
  intro aggregation _ aggregate compiled argument listed
  obtain ⟨name, rfl⟩ := argument_of_aggregate compiled listed
  exact (Expr.IsOperand.column name).namesAreBare

end Query

/-! ## Conditions that are built -/

/-- The conditions that are built for a dialect: those of filters, of having trees over
aggregates, and of intervals of the timestamp column, and their conjunctions. -/
inductive BuiltCondition (dialect : Dialect) : Expr → Prop
  | filter {fields : FieldMap} {query : Query} {filter : Filter} {expr : Expr}
      (compiled : FilterScope.condition ⟨dialect, fields, query⟩ filter = .ok expr) :
      BuiltCondition dialect expr
  | having {aggregates : List Aggregate} {having : Having} {expr : Expr}
      (bare : AggregatesAreBare aggregates)
      (compiled : Having.condition aggregates having = .ok expr) : BuiltCondition dialect expr
  | intervals {column : String} {intervals : List Interval} {expr : Expr}
      (built : Query.intervalsCondition dialect (dialect.timestampColumn (.column column))
        intervals = some expr) : BuiltCondition dialect expr
  | conjunction {first second : Option Expr} {expr : Expr}
      (left : ∀ operand ∈ first, BuiltCondition dialect operand)
      (right : ∀ operand ∈ second, BuiltCondition dialect operand)
      (built : Query.conjunction first second = some expr) : BuiltCondition dialect expr

namespace BuiltCondition

variable {dialect : Dialect} {expr : Expr}

theorem isCondition (built : BuiltCondition dialect expr) : expr.IsCondition := by
  induction built with
  | filter compiled => exact FilterScope.isCondition_condition _ compiled
  | having bare compiled => exact Having.isCondition_condition bare _ compiled
  | intervals built => exact Query.isCondition_intervalsCondition built
  | conjunction _ _ built left right => exact Query.isCondition_conjunction left right built

/-- The text of a condition that is built has one reading.  It is a condition over the same
predicates, and whatever truth values these have, it has that of the expression. -/
theorem reads_back (built : BuiltCondition dialect expr) :
    ∃ condition : Condition Expr,
      (∀ read, dialect.ReadsAs (expr.render dialect) read ↔
        read = condition.map Expr.writtenSigns) ∧
      ∀ assign : Expr → Truth, condition.truth assign = expr.truthUnder assign :=
  built.isCondition.exists_reading dialect

/-- The outer negation leaves its parentheses to the disjunction, the inner one has its own,
and connectives of one operand have none. -/
theorem reads_back_of_negations :
    let expr : Expr :=
      .not (.any [.all [.not (.compare (.column "region_cd") .equal (.text "US"))],
        .any [.compare (.column "city") .equal (.text "Oslo")]])
    BuiltCondition .ansi expr ∧
      expr.render .ansi = "NOT (NOT (\x22region_cd\x22 = 'US') OR \x22city\x22 = 'Oslo')" ∧
      ∃ condition : Condition Expr,
        (∀ read, Dialect.ReadsAs .ansi (expr.render .ansi) read ↔
          read = condition.map Expr.writtenSigns) ∧
        ∀ assign : Expr → Truth, condition.truth assign = expr.truthUnder assign := by
  intro expr
  have built : BuiltCondition .ansi expr :=
    @BuiltCondition.filter .ansi ⟨[("region", "region_cd"), ("city", "city")]⟩
      { dataSource := "sales" }
      (.not (.any [.all [.not (.selector "region" "US")], .oneOf "city" ["Oslo"]])) expr rfl
  exact ⟨built, by decide +kernel, reads_back built⟩

end BuiltCondition

/-! ## Conditions of a statement -/

namespace Query

theorem exists_tree_of_optional {α : Type} {condition : α → Except Error Expr} {tree : Option α}
    {found : Option Expr} (compiled : optional condition tree = .ok found) {expr : Expr}
    (listed : expr ∈ found) : ∃ present, condition present = .ok expr := by
  cases tree with
  | none =>
      cases compiled
      cases listed
  | some present =>
      obtain ⟨value, built, rfl⟩ := map_eq_ok_iff.mp compiled
      cases listed
      exact ⟨present, built⟩

/-- The conditions on rows and on groups of an aggregate statement are such conditions. -/
theorem aggregateStatement_conditions {query : Query} {table : Table} {fields : FieldMap}
    {dialect : Dialect} {mode : PostAggregationMode} {statement : Select}
    (compiled : query.aggregateStatement table fields dialect mode = .ok statement) :
    (∀ expr ∈ statement.filter, BuiltCondition dialect expr) ∧
      ∀ expr ∈ statement.having, BuiltCondition dialect expr := by
  obtain ⟨_, _, aggregates, filter, having, _, compiledAggregates, compiledFilter, compiledHaving,
    _, rfl⟩ := aggregateStatement_eq_ok_iff.mp compiled
  constructor
  · intro expr listed
    refine .conjunction (fun operand member => ?_) (fun operand member => ?_) listed
    · obtain ⟨tree, built⟩ := exists_tree_of_optional compiledFilter member
      exact .filter built
    · exact .intervals member
  · intro expr listed
    obtain ⟨tree, built⟩ := exists_tree_of_optional compiledHaving listed
    exact .having (aggregatesAreBare_aggregates compiledAggregates) built

end Query

end Rollup
