import Rollup.Proofs.Sql.Nesting

/-!
# What expressions inherit

A property of expressions is inherited if every form of expression has it as soon as its
operands have it, columns and calls of aggregates apart.  Dialects put the expressions that
they are given into functions, types and fields with bare names and next to literals, so what
they build has every inherited property of what they were given.
-/

namespace Rollup.Sql

/-- Whether expressions have a property as soon as their operands have it, where functions,
types and fields have bare names.  Nothing is said of columns and of calls of aggregates. -/
structure Expr.IsInherited (P : Expr → Prop) : Prop where
  literal : ∀ value, P (.literal value)
  compare : ∀ {left right : Expr} (operator : Operator), P left → P right →
    P (.compare left operator right)
  like : ∀ {expr pattern : Expr} (escape : Option Char), P expr → P pattern →
    P (.like expr pattern escape)
  all : ∀ {exprs : List Expr}, (∀ expr ∈ exprs, P expr) → P (.all exprs)
  any : ∀ {exprs : List Expr}, (∀ expr ∈ exprs, P expr) → P (.any exprs)
  not : ∀ {expr : Expr}, P expr → P (.not expr)
  arithmetic : ∀ {left right : Expr} (operator : ArithmeticOperator), P left → P right →
    P (.arithmetic operator left right)
  cast : ∀ {expr : Expr} {typeName : String}, IsBareName typeName → P expr →
    P (.cast expr typeName)
  call : ∀ {function : String} {arguments : List Expr}, IsBareName function →
    (∀ argument ∈ arguments, P argument) → P (.call function arguments)
  extract : ∀ {field : String} {expr : Expr}, IsBareName field → P expr →
    P (.extract field expr)
  case : ∀ {branches : List (Expr × Expr)} {otherwise : Option Expr},
    (∀ branch ∈ branches, P branch.1 ∧ P branch.2) → (∀ expr ∈ otherwise, P expr) →
      P (.case branches otherwise)

/-- Bare names are inherited. -/
theorem Expr.namesAreBare_isInherited : IsInherited NamesAreBare where
  literal _ := List.forall_mem_nil _
  compare _ left right := forall_bareNames_compare.mpr ⟨left, right⟩
  like _ expr pattern := forall_bareNames_like.mpr ⟨expr, pattern⟩
  all each := forall_bareNames_all.mpr each
  any each := forall_bareNames_any.mpr each
  not negated := forall_bareNames_not.mpr negated
  arithmetic _ left right := forall_bareNames_arithmetic.mpr ⟨left, right⟩
  cast named inner := forall_bareNames_cast.mpr ⟨inner, named⟩
  call named each := forall_bareNames_call.mpr ⟨each, named⟩
  extract named inner := forall_bareNames_extract.mpr ⟨inner, named⟩
  case each last := forall_bareNames_case.mpr ⟨each, last⟩

/-! ## Types of dialects -/

namespace Dialect

variable (dialect : Dialect)

theorem isBareName_textType : IsBareName dialect.textType := by
  have each : ∀ typeName ∈ ["VARCHAR", "TEXT", "CHAR"], IsBareName typeName := by decide
  refine each dialect.textType ?_
  cases dialect <;> simp [textType]

theorem isBareName_floatType : IsBareName dialect.floatType := by
  have each : ∀ typeName ∈ ["DOUBLE PRECISION", "REAL", "DOUBLE"], IsBareName typeName := by
    decide
  refine each dialect.floatType ?_
  cases dialect <;> simp [floatType]

theorem isBareName_integerType : IsBareName dialect.integerType := by
  have each : ∀ typeName ∈ ["SIGNED", "INTEGER", "BIGINT"], IsBareName typeName := by decide
  refine each dialect.integerType ?_
  cases dialect <;> simp [integerType]

theorem isBareName_aggregateType (isFloat : Bool) :
    IsBareName (dialect.aggregateType isFloat) := by
  unfold aggregateType
  split
  · exact dialect.isBareName_floatType
  · exact dialect.isBareName_integerType

end Dialect

/-! ## Expressions of dialects -/

namespace Expr.IsInherited

variable {P : Expr → Prop} (inherited : IsInherited P) {expr : Expr}
include inherited

/-- A call on one expression. -/
theorem callOn {function : String} (named : IsBareName function) (holds : P expr) :
    P (.call function [expr]) :=
  inherited.call named (List.forall_mem_singleton.mpr holds)

/-- A call on an expression and a literal. -/
theorem callWith {function : String} (named : IsBareName function) (holds : P expr)
    (value : Literal) : P (.call function [expr, .literal value]) :=
  inherited.call named (List.forall_mem_cons.mpr
    ⟨holds, List.forall_mem_singleton.mpr (inherited.literal value)⟩)

theorem lower (holds : P expr) : P (.lower expr) :=
  inherited.callOn (by decide) holds

theorem textCast (dialect : Dialect) (holds : P expr) : P (.cast expr dialect.textType) :=
  inherited.cast dialect.isBareName_textType holds

/-! ### Conditions on a column -/

theorem equalityOperand (dialect : Dialect) (holds : P expr) :
    P (dialect.equalityOperand expr) := by
  cases dialect with
  | presto format => exact inherited.textCast (.presto format) holds
  | _ => exact holds

theorem searchOperand (dialect : Dialect) (holds : P expr) : P (dialect.searchOperand expr) := by
  cases dialect with
  | ansi => exact holds
  | mysql => exact holds
  | postgres => exact inherited.textCast .postgres holds
  | sqlite => exact inherited.textCast .sqlite holds
  | presto format => exact inherited.textCast (.presto format) holds

theorem equals (dialect : Dialect) (holds : P expr) (value : String) :
    P (dialect.equals expr value) :=
  inherited.compare .equal (inherited.equalityOperand dialect holds) (inherited.literal _)

theorem contains (dialect : Dialect) (holds : P expr) (text : String) :
    P (dialect.contains expr text) := by
  have searched := inherited.searchOperand dialect holds
  unfold Dialect.contains
  split
  · exact inherited.compare .greater (inherited.callWith (by decide) searched _)
      (inherited.literal _)
  · exact inherited.like _ searched (inherited.literal _)

theorem containsInsensitive (dialect : Dialect) (holds : P expr) (text : String) :
    P (dialect.containsInsensitive expr text) :=
  inherited.like _ (inherited.lower (inherited.searchOperand dialect holds))
    (inherited.lower (inherited.literal _))

theorem matchesRegex (dialect : Dialect) (holds : P expr) {pattern : String} {condition : Expr}
    (built : dialect.matchesRegex expr pattern = .ok condition) : P condition := by
  have searched := inherited.searchOperand dialect holds
  cases dialect with
  | ansi =>
      cases built
      exact inherited.callWith (by decide) searched _
  | postgres =>
      cases built
      exact inherited.compare .tilde searched (inherited.literal _)
  | mysql =>
      cases built
      exact inherited.compare .regexp searched (inherited.literal _)
  | sqlite => cases built
  | presto format =>
      cases built
      exact inherited.callWith (by decide) searched _

/-! ### Aggregates -/

theorem projectAggregate (dialect : Dialect) (holds : P expr) (isFloat : Bool) :
    P (dialect.projectAggregate expr isFloat) := by
  have cast : P (.cast expr (dialect.aggregateType isFloat)) :=
    inherited.cast (dialect.isBareName_aggregateType isFloat) holds
  cases dialect with
  | postgres => exact cast
  | mysql => exact cast
  | _ => exact holds

/-! ### Time -/

theorem timestampColumn (dialect : Dialect) (holds : P expr) :
    P (dialect.timestampColumn expr) := by
  unfold Dialect.timestampColumn
  split
  · exact inherited.callWith (by decide) holds _
  · exact holds

theorem timestampLiteral (dialect : Dialect) (instant : Instant) :
    P (dialect.timestampLiteral instant) := by
  unfold Dialect.timestampLiteral
  split
  all_goals exact inherited.literal _

theorem mysqlTimePart (holds : P expr) (part : TimePart) :
    P (Dialect.mysqlTimePart expr part) := by
  cases part with
  | isoWeek => exact inherited.callWith (by decide) holds _
  | isoYear =>
      have yearWeek : P (.call "YEARWEEK" [expr, .integer 3]) :=
        inherited.callWith (by decide) holds _
      have quotient := inherited.arithmetic .divide yearWeek (inherited.literal (.integer 100))
      exact inherited.cast (by decide) (inherited.callOn (by decide) quotient)
  | _ => exact inherited.callOn (by decide) holds

theorem sqliteFormatted (format : String) (holds : P expr) :
    P (Dialect.sqliteFormatted format expr) :=
  inherited.cast (by decide) (inherited.call (by decide) (List.forall_mem_cons.mpr
    ⟨inherited.literal _, List.forall_mem_singleton.mpr holds⟩))

theorem sqliteTimePart (holds : P expr) (part : TimePart) :
    P (Dialect.sqliteTimePart expr part) := by
  cases part with
  | quarter =>
      have raised := inherited.arithmetic .add (inherited.sqliteFormatted "%m" holds)
        (inherited.literal (.integer 2))
      exact inherited.arithmetic .divide raised (inherited.literal (.integer 3))
  | _ => exact inherited.sqliteFormatted _ holds

theorem extractPart (holds : P expr) (part : TimePart) :
    P (.extract (extractField part) expr) := by
  refine inherited.extract ?_ holds
  cases part <;> decide

/-- Every part of a timestamp has the inherited properties of the timestamp. -/
theorem timePart (dialect : Dialect) (holds : P expr) (part : TimePart) :
    P (dialect.timePart expr part) := by
  cases dialect with
  | ansi => exact inherited.extractPart holds part
  | postgres => exact inherited.cast (by decide) (inherited.extractPart holds part)
  | mysql => exact inherited.mysqlTimePart holds part
  | sqlite => exact inherited.sqliteTimePart holds part
  | presto format => cases part <;> exact inherited.callOn (by decide) holds

end Expr.IsInherited

end Rollup.Sql
