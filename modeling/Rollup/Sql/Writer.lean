import Rollup.Double.Notation
import Rollup.Instant.Notation
import Rollup.Sql.Dialect
import Rollup.Sql.Select

/-!
# Written statements

The tokens of expressions and statements.  Parentheses stand where a connective or
an operation of arithmetic has two operands or more; comparisons have none of their
own.
-/

namespace Rollup.Sql

/-! ## Expressions -/

/-- The tokens of a literal. -/
def Literal.tokens : Literal → List Token
  | .integer value => [.verbatim (Text.integerText value)]
  | .float value => [.verbatim value.literalText]
  | .text value => [.string value]
  | .timestamp instant => [.verbatim "TIMESTAMP ", .string instant.secondText]

/-- The tokens of a connective over operands that are written already.  One operand
stands alone, and none is the connective's neutral truth value. -/
def junctionTokens (separator neutral : String) : List (List Token) → List Token
  | [] => [.verbatim neutral]
  | [operand] => operand
  | operands => .verbatim "(" :: joinTokens separator operands ++ [.verbatim ")"]

/-- Whether an expression is a connective, which brings its own parentheses. -/
def Expr.isJunction : Expr → Bool
  | .all _ => true
  | .any _ => true
  | _ => false

/-- What stands before the argument of an aggregate. -/
def AggregateFunction.opening : AggregateFunction → String
  | .sum => "SUM("
  | .min => "MIN("
  | .max => "MAX("
  | .count => "COUNT("
  | .countDistinct => "COUNT(DISTINCT "

mutual

/-- The tokens of an expression. -/
def Expr.tokens : Expr → List Token
  | .column name => [.identifier name]
  | .literal value => value.tokens
  | .compare left operator right =>
      left.tokens ++ .verbatim (" " ++ operator.sign ++ " ") :: right.tokens
  | .like expr pattern escape =>
      expr.tokens ++ .verbatim " LIKE " :: pattern.tokens ++
        match escape with
        | some c => [.verbatim " ESCAPE ", .string (String.singleton c)]
        | none => []
  | .all exprs => junctionTokens " AND " "TRUE" (Expr.tokensOfList exprs)
  | .any exprs => junctionTokens " OR " "FALSE" (Expr.tokensOfList exprs)
  | .not expr =>
      if expr.isJunction then .verbatim "NOT " :: expr.tokens
      else .verbatim "NOT (" :: expr.tokens ++ [.verbatim ")"]
  | .arithmetic operator left right =>
      .verbatim "(" :: left.tokens ++ .verbatim (" " ++ operator.sign ++ " ") :: right.tokens ++
        [.verbatim ")"]
  | .cast expr typeName =>
      .verbatim "CAST(" :: expr.tokens ++ [.verbatim (" AS " ++ typeName ++ ")")]
  | .call function arguments =>
      .verbatim (function ++ "(") :: joinTokens ", " (Expr.tokensOfList arguments) ++
        [.verbatim ")"]
  | .extract field expr =>
      .verbatim ("EXTRACT(" ++ field ++ " FROM ") :: expr.tokens ++ [.verbatim ")"]
  | .aggregate function none => [.verbatim (function.opening ++ "*)")]
  | .aggregate function (some argument) =>
      .verbatim function.opening :: argument.tokens ++ [.verbatim ")"]
  | .case branches none =>
      .verbatim "CASE" :: Expr.tokensOfBranches branches ++ [.verbatim " END"]
  | .case branches (some otherwise) =>
      .verbatim "CASE" :: Expr.tokensOfBranches branches ++
        .verbatim " ELSE " :: otherwise.tokens ++ [.verbatim " END"]
termination_by structural expr => expr

/-- The tokens of each of some expressions. -/
def Expr.tokensOfList : List Expr → List (List Token)
  | [] => []
  | expr :: rest => expr.tokens :: Expr.tokensOfList rest
termination_by structural exprs => exprs

/-- The tokens of the branches of a `CASE`. -/
def Expr.tokensOfBranches : List (Expr × Expr) → List Token
  | [] => []
  | (condition, result) :: rest =>
      .verbatim " WHEN " :: condition.tokens ++ .verbatim " THEN " :: result.tokens ++
        Expr.tokensOfBranches rest
termination_by structural branches => branches

end

/-- The text of an expression in a dialect. -/
def Expr.render (dialect : Dialect) (expr : Expr) : String :=
  dialect.write expr.tokens

/-! ## Statements -/

/-- The keyword of a direction. -/
def directionKeyword : SortDirection → String
  | .ascending => "ASC"
  | .descending => "DESC"

/-- The tokens of a sort.  Where the placement of absent values has no keyword, a
key of its own for absence comes first: absence is true, which sorts last. -/
def SortKey.tokens (ordering : NullOrdering) (key : SortKey) : List Token :=
  let direction := directionKeyword key.direction
  match ordering with
  | .keyword =>
      let nulls := if key.nullsFirst then " NULLS FIRST" else " NULLS LAST"
      key.expr.tokens ++ [.verbatim (" " ++ direction ++ nulls)]
  | .emulated =>
      let nulls := if key.nullsFirst then " IS NULL DESC, " else " IS NULL ASC, "
      key.expr.tokens ++ .verbatim nulls :: key.expr.tokens ++ [.verbatim (" " ++ direction)]

/-- The tokens of an item of a `SELECT` list. -/
def Projection.tokens : Projection → List Token
  | .expr value none => value.tokens
  | .expr value (some name) => value.tokens ++ [.verbatim " AS ", .identifier name]
  | .allOf relation => [.identifier relation, .verbatim ".*"]

/-- The tokens of a clause of one expression, if there is one. -/
def clauseTokens (keyword : String) : Option Expr → List Token
  | none => []
  | some expr => .verbatim keyword :: expr.tokens

/-- The tokens of a clause of listed items, if there are any. -/
def listClauseTokens (keyword : String) : List (List Token) → List Token
  | [] => []
  | items => .verbatim keyword :: joinTokens ", " items

/-- The tokens of a statement at an indentation, its source being written
already. -/
def selectTokens (dialect : Dialect) (level : Nat) (source : List Token)
    (projections : List Projection) (filter : Option Expr) (grouping : List Expr)
    (having : Option Expr) (order : List SortKey) (limit : Option Nat) : List Token :=
  let pad := indentation level
  .verbatim (pad ++ "SELECT ") :: joinTokens ", " (projections.map Projection.tokens) ++
    .verbatim ("\n" ++ pad ++ "FROM ") :: source ++
    clauseTokens ("\n" ++ pad ++ "WHERE ") filter ++
    listClauseTokens ("\n" ++ pad ++ "GROUP BY ") (grouping.map Expr.tokens) ++
    clauseTokens ("\n" ++ pad ++ "HAVING ") having ++
    listClauseTokens ("\n" ++ pad ++ "ORDER BY ")
      (order.map (SortKey.tokens dialect.nullOrdering)) ++
    match limit with
    | none => []
    | some limit => [.verbatim ("\n" ++ pad ++ dialect.limitClause limit)]

/-- The tokens of a source of rows in a statement at an indentation. -/
def Relation.tokens (dialect : Dialect) (level : Nat) : Relation → List Token
  | .table parts => joinTokens "." (parts.map fun part => [.identifier part])
  | .subquery ⟨projections, source, filter, grouping, having, order, limit⟩ name =>
      .verbatim "(\n" ::
        selectTokens dialect (level + 1) (source.tokens dialect (level + 1)) projections filter
          grouping having order limit ++
        [.verbatim ("\n" ++ indentation level ++ ") AS "), .identifier name]
termination_by structural relation => relation

/-- The tokens of a statement. -/
def SelectFrom.tokens (dialect : Dialect) (select : Select) : List Token :=
  selectTokens dialect 0 (select.source.tokens dialect 0) select.projections select.filter
    select.grouping select.having select.order select.limit

/-- The text of a statement in a dialect.  A statement that projects nothing has
none. -/
def SelectFrom.render (dialect : Dialect) (select : Select) : Except Error String :=
  if select.projects then .ok (dialect.write (select.tokens dialect))
  else .error (.invalidQuery .noProjections)

end Rollup.Sql
