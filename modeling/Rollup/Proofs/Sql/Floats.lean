import Mathlib.Data.List.Flatten
import Rollup.Proofs.Sql.Legible

/-!
# The doubles of statements

The doubles among the literals of an expression, in the order in which they are written.
Dialects write none of their own: what they build around expressions has the doubles of these
and no others.
-/

namespace Rollup.Sql

/-! ## Doubles of a tree -/

/-- The double of a literal, if it is one. -/
def Literal.floats : Literal → List Double
  | .float value => [value]
  | _ => []

namespace Expr

/-- The double of a node. -/
def ownFloats : Expr → List Double
  | .literal value => value.floats
  | _ => []

/-- The doubles among the literals of an expression. -/
def floats (expr : Expr) : List Double :=
  expr.collect ownFloats

section

variable {left right expr pattern : Expr} {exprs : List Expr}

@[simp]
theorem floats_column (name : String) : (column name).floats = [] :=
  rfl

@[simp]
theorem floats_literal (value : Literal) : (literal value).floats = value.floats :=
  rfl

@[simp]
theorem floats_text (value : String) : (text value).floats = [] :=
  rfl

@[simp]
theorem floats_integer (value : Int) : (integer value).floats = [] :=
  rfl

@[simp]
theorem floats_float (value : Double) : (float value).floats = [value] :=
  rfl

@[simp]
theorem floats_compare (operator : Operator) :
    (compare left operator right).floats = left.floats ++ right.floats :=
  List.append_nil _

@[simp]
theorem floats_like (escape : Option Char) :
    (like expr pattern escape).floats = expr.floats ++ pattern.floats :=
  List.append_nil _

theorem collectList_ownFloats_append : collectList ownFloats exprs ++ [] = exprs.flatMap floats :=
  (List.append_nil _).trans (collectList_eq_flatMap _ _)

@[simp]
theorem floats_all : (all exprs).floats = exprs.flatMap floats :=
  collectList_ownFloats_append

@[simp]
theorem floats_any : (any exprs).floats = exprs.flatMap floats :=
  collectList_ownFloats_append

@[simp]
theorem floats_not : (not expr).floats = expr.floats :=
  List.append_nil _

@[simp]
theorem floats_arithmetic (operator : ArithmeticOperator) :
    (arithmetic operator left right).floats = left.floats ++ right.floats :=
  List.append_nil _

@[simp]
theorem floats_cast (typeName : String) : (cast expr typeName).floats = expr.floats :=
  List.append_nil _

@[simp]
theorem floats_call (function : String) : (call function exprs).floats = exprs.flatMap floats :=
  collectList_ownFloats_append

@[simp]
theorem floats_lower : (lower expr).floats = expr.floats := by
  rw [lower, floats_call, List.flatMap_singleton]

@[simp]
theorem floats_extract (field : String) : (extract field expr).floats = expr.floats :=
  List.append_nil _

@[simp]
theorem floats_aggregate (function : AggregateFunction) (argument : Option Expr) :
    (aggregate function argument).floats = argument.elim [] floats := by
  cases argument with
  | none => rfl
  | some argument => exact List.append_nil _

@[simp]
theorem floats_case (branches : List (Expr × Expr)) (otherwise : Option Expr) :
    (case branches otherwise).floats =
      (branches.flatMap fun branch => branch.1.floats ++ branch.2.floats) ++
        otherwise.elim [] floats := by
  cases otherwise with
  | none =>
      exact congrArg (· ++ []) (collectBranches_eq_flatMap _ _)
  | some otherwise =>
      exact (List.append_nil _).trans
        (congrArg (· ++ otherwise.floats) (collectBranches_eq_flatMap _ _))

end

end Expr

/-- The doubles of a statement and of the statements inside it. -/
def SelectFrom.floats (select : Select) : List Double :=
  select.exprs.flatMap Expr.floats

/-! ## Expressions of dialects -/

namespace Dialect

variable (dialect : Dialect) (expr : Expr)

@[simp]
theorem floats_equalityOperand : (dialect.equalityOperand expr).floats = expr.floats := by
  cases dialect <;> simp [equalityOperand]

@[simp]
theorem floats_searchOperand : (dialect.searchOperand expr).floats = expr.floats := by
  cases dialect <;> simp [searchOperand]

@[simp]
theorem floats_equals (value : String) : (dialect.equals expr value).floats = expr.floats := by
  simp [equals]

@[simp]
theorem floats_contains (text : String) :
    (dialect.contains expr text).floats = expr.floats := by
  unfold contains
  split <;> simp

@[simp]
theorem floats_containsInsensitive (text : String) :
    (dialect.containsInsensitive expr text).floats = expr.floats := by
  simp [containsInsensitive]

theorem floats_matchesRegex {pattern : String} {condition : Expr}
    (built : dialect.matchesRegex expr pattern = .ok condition) :
    condition.floats = expr.floats := by
  cases dialect <;> cases built <;> simp

@[simp]
theorem floats_projectAggregate (isFloat : Bool) :
    (dialect.projectAggregate expr isFloat).floats = expr.floats := by
  cases dialect <;> simp [projectAggregate]

@[simp]
theorem floats_timestampColumn : (dialect.timestampColumn expr).floats = expr.floats := by
  unfold timestampColumn
  split <;> simp

@[simp]
theorem floats_timestampText : (dialect.timestampText expr).floats = expr.floats := by
  simp [timestampText]

@[simp]
theorem floats_timestampLiteral (instant : Instant) :
    (dialect.timestampLiteral instant).floats = [] := by
  cases dialect <;> rfl

@[simp]
theorem floats_timePart (part : TimePart) : (dialect.timePart expr part).floats = expr.floats := by
  cases dialect <;> cases part <;>
    simp [timePart, mysqlTimePart, sqliteTimePart, sqliteFormatted, prestoTimePart]

end Dialect

/-! ## Written doubles -/

/-- The tokens of some doubles. -/
def floatTokens (values : List Double) : List Token :=
  values.map fun value => .verbatim value.literalText

theorem floatTokens_append (first second : List Double) :
    floatTokens (first ++ second) = floatTokens first ++ floatTokens second :=
  List.map_append

theorem floatTokens_flatMap {α : Type} (found : α → List Double) (items : List α) :
    floatTokens (items.flatMap found) = items.flatMap fun item => floatTokens (found item) :=
  List.map_flatMap

theorem flatten_sublist_joinTokens (separator : String) (lists : List (List Token)) :
    lists.flatten.Sublist (joinTokens separator lists) := by
  induction lists with
  | nil => exact .slnil
  | cons first rest inductionHypothesis =>
      cases rest with
      | nil =>
          rw [List.flatten_singleton]
          exact .refl _
      | cons second rest =>
          rw [joinTokens_cons_cons, List.flatten_cons]
          exact (List.Sublist.refl first).append (inductionHypothesis.cons _)

theorem flatten_sublist_junctionTokens (separator neutral : String)
    (operands : List (List Token)) :
    operands.flatten.Sublist (junctionTokens separator neutral operands) := by
  match operands with
  | [] => exact List.nil_sublist _
  | [operand] =>
      rw [List.flatten_singleton]
      exact .refl _
  | first :: second :: rest =>
      rw [junctionTokens_cons_cons]
      exact ((flatten_sublist_joinTokens _ _).cons _).trans (List.sublist_append_left _ _)

/-- Items that have the doubles found in them among their tokens have them there together. -/
theorem floatTokens_flatMap_sublist {α : Type} {items : List α} {found : α → List Double}
    {tokens : α → List Token}
    (each : ∀ item ∈ items, (floatTokens (found item)).Sublist (tokens item)) :
    (floatTokens (items.flatMap found)).Sublist (items.map tokens).flatten := by
  rw [floatTokens_flatMap, ← List.flatMap_def]
  exact List.Sublist.flatMap_right items each

namespace Expr

/-- The doubles of an expression are written in their order, each in a place of its own. -/
theorem floatTokens_sublist (expr : Expr) : (floatTokens expr.floats).Sublist expr.tokens := by
  induction expr using Expr.induction with
  | column name => exact List.nil_sublist _
  | literal value =>
      cases value with
      | float value => exact .refl _
      | _ => exact List.nil_sublist _
  | compare left operator right leftWritten rightWritten =>
      rw [floats_compare, floatTokens_append]
      exact leftWritten.append (rightWritten.cons _)
  | like expr pattern escape exprWritten patternWritten =>
      rw [floats_like, floatTokens_append]
      exact (exprWritten.append (patternWritten.cons _)).trans (List.sublist_append_left _ _)
  | all exprs each =>
      rw [floats_all, tokens, tokensOfList_eq_map]
      exact (floatTokens_flatMap_sublist each).trans (flatten_sublist_junctionTokens _ _ _)
  | any exprs each =>
      rw [floats_any, tokens, tokensOfList_eq_map]
      exact (floatTokens_flatMap_sublist each).trans (flatten_sublist_junctionTokens _ _ _)
  | not expr written =>
      rw [floats_not, tokens]
      split
      · exact written.cons _
      · exact (written.cons _).trans (List.sublist_append_left _ _)
  | arithmetic operator left right leftWritten rightWritten =>
      rw [floats_arithmetic, floatTokens_append]
      exact ((leftWritten.append (rightWritten.cons _)).cons _).trans
        (List.sublist_append_left _ _)
  | cast expr typeName written =>
      rw [floats_cast]
      exact (written.cons _).trans (List.sublist_append_left _ _)
  | call function arguments each =>
      rw [floats_call, tokens, tokensOfList_eq_map]
      have joined := (floatTokens_flatMap_sublist each).trans (flatten_sublist_joinTokens ", " _)
      exact (joined.cons _).trans (List.sublist_append_left _ _)
  | extract field expr written =>
      rw [floats_extract]
      exact (written.cons _).trans (List.sublist_append_left _ _)
  | aggregate function argument written =>
      cases argument with
      | none => exact List.nil_sublist _
      | some argument =>
          rw [floats_aggregate]
          exact ((written argument rfl).cons _).trans (List.sublist_append_left _ _)
  | case branches otherwise each written =>
      have chosen : (floatTokens
          (branches.flatMap fun branch => branch.1.floats ++ branch.2.floats)).Sublist
            (tokensOfBranches branches) := by
        rw [tokensOfBranches_eq_flatMap, floatTokens_flatMap]
        refine List.Sublist.flatMap_right branches fun branch member => ?_
        rw [floatTokens_append]
        exact ((each branch member).1.append ((each branch member).2.cons _)).cons _
      rw [floats_case, floatTokens_append]
      cases otherwise with
      | none =>
          exact (chosen.cons _).append (List.nil_sublist _)
      | some otherwise =>
          exact ((chosen.append ((written otherwise rfl).cons _)).cons _).trans
            (List.sublist_append_left _ _)

end Expr

theorem Projection.floatTokens_sublist (projection : Projection) :
    (floatTokens (projection.exprs.flatMap Expr.floats)).Sublist projection.tokens := by
  rcases projection with ⟨value, _ | name⟩ | relation
  · rw [exprs, List.flatMap_singleton]
    exact value.floatTokens_sublist
  · rw [exprs, List.flatMap_singleton]
    exact value.floatTokens_sublist.trans (List.sublist_append_left _ _)
  · exact List.nil_sublist _

theorem SortKey.floatTokens_sublist (ordering : NullOrdering) (key : SortKey) :
    (floatTokens key.expr.floats).Sublist (key.tokens ordering) := by
  have written := key.expr.floatTokens_sublist
  cases ordering with
  | keyword => exact written.trans (List.sublist_append_left _ _)
  | emulated =>
      exact (written.trans (List.sublist_append_left _ _)).trans (List.sublist_append_left _ _)

theorem floatTokens_sublist_clauseTokens (keyword : String) (clause : Option Expr) :
    (floatTokens (clause.toList.flatMap Expr.floats)).Sublist (clauseTokens keyword clause) := by
  cases clause with
  | none => exact List.nil_sublist _
  | some expr =>
      rw [Option.toList_some, List.flatMap_singleton]
      exact expr.floatTokens_sublist.cons _

theorem flatten_sublist_listClauseTokens (keyword : String) (items : List (List Token)) :
    items.flatten.Sublist (listClauseTokens keyword items) := by
  cases items with
  | nil => exact List.nil_sublist _
  | cons first rest => exact (flatten_sublist_joinTokens _ _).cons _

/-- The doubles of a statement are written in their order if those of its source are. -/
theorem floatTokens_sublist_selectTokens (dialect : Dialect) (level : Nat)
    {source : List Token} {sourceExprs : List Expr} (projections : List Projection)
    (filter : Option Expr) (grouping : List Expr) (having : Option Expr) (order : List SortKey)
    (limit : Option Nat)
    (written : (floatTokens (sourceExprs.flatMap Expr.floats)).Sublist source) :
    (floatTokens ((selectExprs sourceExprs projections filter grouping having order).flatMap
        Expr.floats)).Sublist
      (selectTokens dialect level source projections filter grouping having order limit) := by
  have projected : (floatTokens ((projections.flatMap Projection.exprs).flatMap
      Expr.floats)).Sublist (joinTokens ", " (projections.map Projection.tokens)) := by
    rw [List.flatMap_assoc]
    exact (floatTokens_flatMap_sublist fun projection _ => projection.floatTokens_sublist).trans
      (flatten_sublist_joinTokens _ _)
  have grouped (keyword : String) : (floatTokens (grouping.flatMap Expr.floats)).Sublist
      (listClauseTokens keyword (grouping.map Expr.tokens)) :=
    (floatTokens_flatMap_sublist fun expr _ => expr.floatTokens_sublist).trans
      (flatten_sublist_listClauseTokens _ _)
  have sorted (keyword : String) : (floatTokens ((order.map SortKey.expr).flatMap
      Expr.floats)).Sublist (listClauseTokens keyword
        (order.map (SortKey.tokens dialect.nullOrdering))) := by
    rw [List.flatMap_map]
    exact (floatTokens_flatMap_sublist fun key _ => key.floatTokens_sublist _).trans
      (flatten_sublist_listClauseTokens _ _)
  simp only [selectExprs, List.flatMap_append, floatTokens_append]
  refine List.Sublist.trans ?_ (List.sublist_append_left _ _)
  have sourced := (projected.append (written.cons
    (.verbatim ("\n" ++ indentation level ++ "FROM ")))).cons
      (.verbatim (indentation level ++ "SELECT "))
  exact ((((sourced.append (floatTokens_sublist_clauseTokens _ filter)).append
    (grouped _)).append (floatTokens_sublist_clauseTokens _ having)).append (sorted _))

theorem Relation.floatTokens_sublist (dialect : Dialect) (level : Nat) :
    ∀ relation : Relation,
      (floatTokens (relation.exprs.flatMap Expr.floats)).Sublist (relation.tokens dialect level)
  | .table parts => List.nil_sublist _
  | .subquery ⟨projections, source, filter, grouping, having, order, limit⟩ name => by
      have inner := Relation.floatTokens_sublist dialect (level + 1) source
      exact ((floatTokens_sublist_selectTokens dialect (level + 1) projections filter grouping
        having order limit inner).cons _).trans (List.sublist_append_left _ _)

/-- The doubles of a statement are written in their order, each in a place of its own. -/
theorem SelectFrom.floatTokens_sublist (dialect : Dialect) (select : Select) :
    (floatTokens select.floats).Sublist (select.tokens dialect) :=
  floatTokens_sublist_selectTokens dialect 0 select.projections select.filter select.grouping
    select.having select.order select.limit (select.source.floatTokens_sublist dialect 0)

end Rollup.Sql
