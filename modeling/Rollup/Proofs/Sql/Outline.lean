import Mathlib.Data.List.Basic
import Rollup.Proofs.Sql.Lexer
import Rollup.Proofs.Sql.Tree

/-!
# Outlines

A statement without its names and strings.  Two statements of the same outline have the same
tokens but for the payloads of the quoted ones.
-/

namespace Rollup.Sql

/-! ## Trees without names and strings -/

/-- A lexeme without its payload, if it is quoted. -/
def Lexeme.outline : Lexeme → Lexeme
  | .plain c => .plain c
  | .identifier _ => .identifier ""
  | .string _ => .string ""

/-- A token without its payload, if it is quoted. -/
def Token.outline : Token → Token
  | .verbatim text => .verbatim text
  | .identifier _ => .identifier ""
  | .string _ => .string ""

/-- A literal without its text. -/
def Literal.outline : Literal → Literal
  | .integer value => .integer value
  | .float value => .float value
  | .text _ => .text ""
  | .timestamp _ => .timestamp Instant.epoch

namespace Expr

mutual

/-- An expression without its names and strings, all else being kept. -/
def outline : Expr → Expr
  | .column _ => .column ""
  | .literal value => .literal value.outline
  | .compare left operator right => .compare (outline left) operator (outline right)
  | .like expr pattern escape =>
      .like (outline expr) (outline pattern) (escape.map fun _ => likeEscape)
  | .all exprs => .all (outlineList exprs)
  | .any exprs => .any (outlineList exprs)
  | .not expr => .not (outline expr)
  | .arithmetic operator left right => .arithmetic operator (outline left) (outline right)
  | .cast expr typeName => .cast (outline expr) typeName
  | .call function arguments => .call function (outlineList arguments)
  | .extract field expr => .extract field (outline expr)
  | .aggregate function none => .aggregate function none
  | .aggregate function (some argument) => .aggregate function (some (outline argument))
  | .case branches none => .case (outlineBranches branches) none
  | .case branches (some otherwise) =>
      .case (outlineBranches branches) (some (outline otherwise))
termination_by structural expr => expr

/-- Some expressions without their names and strings. -/
def outlineList : List Expr → List Expr
  | [] => []
  | expr :: rest => outline expr :: outlineList rest
termination_by structural exprs => exprs

/-- Some branches without their names and strings. -/
def outlineBranches : List (Expr × Expr) → List (Expr × Expr)
  | [] => []
  | (condition, result) :: rest => (outline condition, outline result) :: outlineBranches rest
termination_by structural branches => branches

end

@[simp]
theorem outlineList_eq_map (exprs : List Expr) : outlineList exprs = exprs.map outline := by
  induction exprs with
  | nil => rfl
  | cons expr rest inductionHypothesis => rw [outlineList, inductionHypothesis, List.map_cons]

@[simp]
theorem outlineBranches_eq_map (branches : List (Expr × Expr)) :
    outlineBranches branches =
      branches.map fun branch => (outline branch.1, outline branch.2) := by
  induction branches with
  | nil => rfl
  | cons branch rest inductionHypothesis =>
      rw [outlineBranches, inductionHypothesis, List.map_cons]

end Expr

/-- An item of a `SELECT` list without its names and strings. -/
def Projection.outline : Projection → Projection
  | .expr value name => .expr value.outline (name.map fun _ => "")
  | .allOf _ => .allOf ""

/-- A sort without its names and strings. -/
def SortKey.outline (key : SortKey) : SortKey :=
  { key with expr := key.expr.outline }

/-- A source of rows without its names and strings. -/
def Relation.outline : Relation → Relation
  | .table parts => .table (parts.map fun _ => "")
  | .subquery ⟨projections, source, filter, grouping, having, order, limit⟩ _ =>
      .subquery ⟨projections.map Projection.outline, source.outline, filter.map Expr.outline,
        grouping.map Expr.outline, having.map Expr.outline, order.map SortKey.outline, limit⟩ ""
termination_by structural relation => relation

/-- A statement without its names and strings: what it shares with every statement of the
same shape. -/
def SelectFrom.outline (select : Select) : Select :=
  ⟨select.projections.map Projection.outline, select.source.outline,
    select.filter.map Expr.outline, select.grouping.map Expr.outline,
    select.having.map Expr.outline, select.order.map SortKey.outline, select.limit⟩

/-! ## Tokens of an outline -/

@[simp]
theorem outline_lexemes (tokens : List Token) :
    (tokens.flatMap Token.lexemes).map Lexeme.outline =
      (tokens.map Token.outline).flatMap Token.lexemes := by
  rw [List.map_flatMap, List.flatMap_map]
  refine List.flatMap_congr fun token _ => ?_
  cases token with
  | verbatim text => simp [Token.lexemes, Token.outline, Lexeme.outline]
  | identifier name => rfl
  | string value => rfl

@[simp]
theorem outline_joinTokens (separator : String) (lists : List (List Token)) :
    (joinTokens separator lists).map Token.outline =
      joinTokens separator (lists.map (List.map Token.outline)) := by
  induction lists with
  | nil => rfl
  | cons first rest inductionHypothesis =>
      cases rest with
      | nil => rfl
      | cons second rest =>
          rw [joinTokens_cons_cons, List.map_append, List.map_cons, inductionHypothesis]
          rfl

@[simp]
theorem outline_junctionTokens (separator neutral : String) (operands : List (List Token)) :
    (junctionTokens separator neutral operands).map Token.outline =
      junctionTokens separator neutral (operands.map (List.map Token.outline)) := by
  match operands with
  | [] => rfl
  | [operand] => rfl
  | first :: second :: rest =>
      rw [junctionTokens_cons_cons, List.map_append, List.map_cons, outline_joinTokens]
      rfl

namespace Expr

@[simp]
theorem isJunction_outline (expr : Expr) : expr.outline.isJunction = expr.isJunction := by
  cases expr with
  | aggregate function argument => cases argument <;> rfl
  | case branches otherwise => cases otherwise <;> rfl
  | _ => rfl

/-- The text of an expression outside quotes is that of its outline. -/
@[simp]
theorem outline_tokens (expr : Expr) :
    expr.outline.tokens.map Token.outline = expr.tokens.map Token.outline := by
  have listed {exprs : List Expr}
      (each : ∀ expr ∈ exprs,
        expr.outline.tokens.map Token.outline = expr.tokens.map Token.outline) :
      ((exprs.map outline).map tokens).map (List.map Token.outline) =
        (exprs.map tokens).map (List.map Token.outline) := by
    simp only [List.map_map]
    exact List.map_congr_left each
  induction expr using Expr.induction with
  | column name => rfl
  | literal value =>
      cases value with
      | timestamp instant =>
          simp [outline, Literal.outline, tokens, Literal.tokens, Token.outline]
      | _ => rfl
  | compare left operator right leftSame rightSame =>
      simp [outline, tokens, leftSame, rightSame]
  | like expr pattern escape exprSame patternSame =>
      cases escape <;> simp [outline, tokens, exprSame, patternSame, Token.outline]
  | all exprs each =>
      simp only [outline, tokens, tokensOfList_eq_map, outlineList_eq_map,
        outline_junctionTokens, listed each]
  | any exprs each =>
      simp only [outline, tokens, tokensOfList_eq_map, outlineList_eq_map,
        outline_junctionTokens, listed each]
  | not expr same =>
      simp only [outline, tokens, isJunction_outline]
      split <;> simp [same]
  | arithmetic operator left right leftSame rightSame =>
      simp [outline, tokens, leftSame, rightSame]
  | cast expr typeName same => simp [outline, tokens, same]
  | call function arguments each =>
      simp [outline, tokens, ← listed each]
  | extract field expr same => simp [outline, tokens, same]
  | aggregate function argument same =>
      cases argument with
      | none => rfl
      | some argument => simp [outline, tokens, same argument rfl]
  | case branches otherwise each same =>
      have branchesSame :
          (branches.flatMap fun branch =>
            (tokensOfBranch (branch.1.outline, branch.2.outline)).map Token.outline) =
          branches.flatMap fun branch => (tokensOfBranch branch).map Token.outline := by
        refine List.flatMap_congr fun branch member => ?_
        simp [tokensOfBranch, each branch member]
      cases otherwise with
      | none => simp [outline, tokens, List.map_flatMap, List.flatMap_map, branchesSame]
      | some otherwise =>
          simp [outline, tokens, List.map_flatMap, List.flatMap_map, branchesSame,
            same otherwise rfl]

end Expr

@[simp]
theorem Projection.outline_tokens (projection : Projection) :
    projection.outline.tokens.map Token.outline = projection.tokens.map Token.outline := by
  rcases projection with ⟨value, _ | name⟩ | relation
  · exact value.outline_tokens
  · simp [outline, tokens, Token.outline]
  · rfl

@[simp]
theorem SortKey.outline_tokens (ordering : NullOrdering) (key : SortKey) :
    (key.outline.tokens ordering).map Token.outline = (key.tokens ordering).map Token.outline := by
  cases ordering with
  | keyword =>
      simp only [tokens, List.map_append, outline, Expr.outline_tokens]
      rfl
  | emulated =>
      simp only [tokens, List.map_append, List.map_cons, outline, Expr.outline_tokens]
      rfl

@[simp]
theorem outline_clauseTokens (keyword : String) (clause : Option Expr) :
    (clauseTokens keyword (clause.map Expr.outline)).map Token.outline =
      (clauseTokens keyword clause).map Token.outline := by
  cases clause with
  | none => rfl
  | some expr => simp [clauseTokens]

@[simp]
theorem outline_listClauseTokens (keyword : String) (items : List (List Token)) :
    (listClauseTokens keyword items).map Token.outline =
      listClauseTokens keyword (items.map (List.map Token.outline)) := by
  cases items with
  | nil => rfl
  | cons first rest =>
      rw [listClauseTokens, List.map_cons, outline_joinTokens]
      · rfl
      · simp

theorem outline_selectTokens (dialect : Dialect) (level : Nat) {source outlined : List Token}
    (same : outlined.map Token.outline = source.map Token.outline)
    (projections : List Projection) (filter : Option Expr) (grouping : List Expr)
    (having : Option Expr) (order : List SortKey) (limit : Option Nat) :
    (selectTokens dialect level outlined (projections.map Projection.outline)
        (filter.map Expr.outline) (grouping.map Expr.outline) (having.map Expr.outline)
        (order.map SortKey.outline) limit).map Token.outline =
      (selectTokens dialect level source projections filter grouping having order limit).map
        Token.outline := by
  simp [selectTokens, Function.comp_def, same]

@[simp]
theorem Relation.outline_tokens (dialect : Dialect) (level : Nat) :
    ∀ relation : Relation, (relation.outline.tokens dialect level).map Token.outline =
      (relation.tokens dialect level).map Token.outline
  | .table parts => by
      simp only [outline, tokens, outline_joinTokens, List.map_map]
      rfl
  | .subquery ⟨projections, source, filter, grouping, having, order, limit⟩ name => by
      have inner := Relation.outline_tokens dialect (level + 1) source
      simp [outline, tokens, outline_selectTokens dialect (level + 1) inner, Token.outline]

/-- The text of a statement outside quotes is that of its outline. -/
@[simp]
theorem SelectFrom.outline_tokens (dialect : Dialect) (select : Select) :
    (select.outline.tokens dialect).map Token.outline =
      (select.tokens dialect).map Token.outline :=
  outline_selectTokens dialect 0 (Relation.outline_tokens dialect 0 select.source) _ _ _ _ _ _

end Rollup.Sql
