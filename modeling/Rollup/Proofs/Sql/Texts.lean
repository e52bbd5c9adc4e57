import Mathlib.Data.List.Basic
import Rollup.Proofs.Sql.Lexer
import Rollup.Proofs.Sql.Tree

/-!
# The names and strings of statements

What a statement holds in quotes, read off its tree: the names of columns, relations and
projections, text literals, escape characters and the texts of timestamps, in the order in
which they are written.  They are the quoted ones among the tokens of the statement.
-/

namespace Rollup.Sql

/-! ## Names and strings of a tree -/

namespace Expr

/-- The name or string of a node. -/
def ownTexts : Expr → List Lexeme
  | .column name => [.identifier name]
  | .literal (.text value) => [.string value]
  | .literal (.timestamp instant) => [.string instant.secondText]
  | .like _ _ (some escape) => [.string (String.singleton escape)]
  | _ => []

/-- The names and strings of an expression. -/
def texts (expr : Expr) : List Lexeme :=
  expr.collect ownTexts

end Expr

/-- The names and strings of an item of a `SELECT` list. -/
def Projection.texts : Projection → List Lexeme
  | .expr value none => value.texts
  | .expr value (some name) => value.texts ++ [.identifier name]
  | .allOf relation => [.identifier relation]

/-- The names and strings of a sort, which stand twice where the placement of absent values
has a key of its own. -/
def SortKey.texts (ordering : NullOrdering) (key : SortKey) : List Lexeme :=
  match ordering with
  | .keyword => key.expr.texts
  | .emulated => key.expr.texts ++ key.expr.texts

/-- The names and strings of a statement, those of its source being given. -/
def selectTexts (ordering : NullOrdering) (source : List Lexeme) (projections : List Projection)
    (filter : Option Expr) (grouping : List Expr) (having : Option Expr)
    (order : List SortKey) : List Lexeme :=
  projections.flatMap Projection.texts ++ source ++ filter.elim [] Expr.texts ++
    grouping.flatMap Expr.texts ++ having.elim [] Expr.texts ++
    order.flatMap (SortKey.texts ordering)

/-- The names and strings of a source of rows. -/
def Relation.texts (ordering : NullOrdering) : Relation → List Lexeme
  | .table parts => parts.map .identifier
  | .subquery ⟨projections, source, filter, grouping, having, order, _⟩ name =>
      selectTexts ordering (source.texts ordering) projections filter grouping having order ++
        [.identifier name]
termination_by structural relation => relation

/-- The names and strings of a statement, in the order in which they are written. -/
def SelectFrom.texts (ordering : NullOrdering) (select : Select) : List Lexeme :=
  selectTexts ordering (select.source.texts ordering) select.projections select.filter
    select.grouping select.having select.order

/-! ## Quoted tokens -/

/-- Whether a lexeme is a quoted token. -/
def Lexeme.isQuoted : Lexeme → Bool
  | .plain _ => false
  | _ => true

/-- A token as a lexer finds it, if it is quoted. -/
def Token.quoted : Token → List Lexeme
  | .verbatim _ => []
  | .identifier name => [.identifier name]
  | .string value => [.string value]

@[simp]
theorem filter_isQuoted_lexemes (tokens : List Token) :
    (tokens.flatMap Token.lexemes).filter Lexeme.isQuoted = tokens.flatMap Token.quoted := by
  induction tokens with
  | nil => rfl
  | cons token rest inductionHypothesis =>
      rw [List.flatMap_cons, List.filter_append, inductionHypothesis, List.flatMap_cons]
      congr 1
      cases token with
      | verbatim text => simp [Token.lexemes, Token.quoted, Lexeme.isQuoted]
      | identifier name => rfl
      | string value => rfl

@[simp]
theorem quoted_joinTokens (separator : String) (lists : List (List Token)) :
    (joinTokens separator lists).flatMap Token.quoted =
      lists.flatMap fun tokens => tokens.flatMap Token.quoted := by
  induction lists with
  | nil => rfl
  | cons first rest inductionHypothesis =>
      cases rest with
      | nil => simp [joinTokens]
      | cons second rest =>
          rw [joinTokens_cons_cons, List.flatMap_append, List.flatMap_cons, inductionHypothesis]
          rfl

@[simp]
theorem quoted_junctionTokens (separator neutral : String) (operands : List (List Token)) :
    (junctionTokens separator neutral operands).flatMap Token.quoted =
      operands.flatMap fun tokens => tokens.flatMap Token.quoted := by
  match operands with
  | [] => rfl
  | [operand] => simp [junctionTokens]
  | first :: second :: rest =>
      rw [junctionTokens_cons_cons, List.cons_append, List.flatMap_cons, List.flatMap_append,
        quoted_joinTokens]
      simp [Token.quoted]

namespace Expr

/-- The quoted tokens of an expression are its names and strings. -/
@[simp]
theorem quoted_tokens (expr : Expr) : expr.tokens.flatMap Token.quoted = expr.texts := by
  have listed {exprs : List Expr}
      (each : ∀ expr ∈ exprs, expr.tokens.flatMap Token.quoted = expr.texts) :
      (exprs.map tokens).flatMap (fun tokens => tokens.flatMap Token.quoted) =
        collectList ownTexts exprs := by
    rw [List.flatMap_map, collectList_eq_flatMap]
    exact List.flatMap_congr each
  induction expr using Expr.induction with
  | column name => rfl
  | literal value => cases value <;> rfl
  | compare left operator right leftRead rightRead =>
      simp [tokens, leftRead, rightRead, Token.quoted, texts, collect, ownTexts]
  | like expr pattern escape exprRead patternRead =>
      cases escape <;>
        simp [tokens, exprRead, patternRead, Token.quoted, texts, collect, ownTexts]
  | all exprs each =>
      simp [tokens, listed each, texts, collect, ownTexts]
  | any exprs each =>
      simp [tokens, listed each, texts, collect, ownTexts]
  | not expr read =>
      rw [tokens]
      split <;> simp [read, Token.quoted, texts, collect, ownTexts]
  | arithmetic operator left right leftRead rightRead =>
      simp [tokens, leftRead, rightRead, Token.quoted, texts, collect, ownTexts]
  | cast expr typeName read => simp [tokens, read, Token.quoted, texts, collect, ownTexts]
  | call function arguments each =>
      simp [tokens, listed each, Token.quoted, texts, collect, ownTexts]
  | extract field expr read => simp [tokens, read, Token.quoted, texts, collect, ownTexts]
  | aggregate function argument read =>
      cases argument with
      | none => rfl
      | some argument =>
          simp [tokens, read argument rfl, Token.quoted, texts, collect, ownTexts]
  | case branches otherwise each read =>
      have branchesRead : (branches.flatMap fun branch =>
            (tokensOfBranch branch).flatMap Token.quoted) =
          branches.flatMap fun branch =>
            collect ownTexts branch.1 ++ collect ownTexts branch.2 := by
        refine List.flatMap_congr fun branch member => ?_
        simp [tokensOfBranch, each branch member, Token.quoted, texts]
      cases otherwise with
      | none =>
          simp [tokens, List.flatMap_assoc, branchesRead, Token.quoted, texts, collect, ownTexts]
      | some otherwise =>
          simp [tokens, List.flatMap_assoc, branchesRead, read otherwise rfl, Token.quoted, texts,
            collect, ownTexts]

end Expr

@[simp]
theorem SortKey.quoted_tokens (ordering : NullOrdering) (key : SortKey) :
    (key.tokens ordering).flatMap Token.quoted = key.texts ordering := by
  cases ordering <;> simp [tokens, texts, Token.quoted]

@[simp]
theorem Projection.quoted_tokens (projection : Projection) :
    projection.tokens.flatMap Token.quoted = projection.texts := by
  rcases projection with ⟨value, _ | name⟩ | relation
  · exact value.quoted_tokens
  · simp [tokens, texts, Token.quoted]
  · rfl

@[simp]
theorem quoted_clauseTokens (keyword : String) (clause : Option Expr) :
    (clauseTokens keyword clause).flatMap Token.quoted = clause.elim [] Expr.texts := by
  cases clause with
  | none => rfl
  | some expr => exact expr.quoted_tokens

@[simp]
theorem quoted_listClauseTokens (keyword : String) (items : List (List Token)) :
    (listClauseTokens keyword items).flatMap Token.quoted =
      items.flatMap fun tokens => tokens.flatMap Token.quoted := by
  cases items with
  | nil => rfl
  | cons first rest => exact quoted_joinTokens _ _

/-- The quoted tokens of a statement, those of its source being known. -/
theorem quoted_selectTokens (dialect : Dialect) (level : Nat) (source : List Token)
    (projections : List Projection) (filter : Option Expr) (grouping : List Expr)
    (having : Option Expr) (order : List SortKey) (limit : Option Nat) :
    (selectTokens dialect level source projections filter grouping having order limit).flatMap
        Token.quoted =
      selectTexts dialect.nullOrdering (source.flatMap Token.quoted) projections filter grouping
        having order := by
  cases limit <;> simp [selectTokens, selectTexts, List.flatMap_map, Token.quoted]

@[simp]
theorem Relation.quoted_tokens (dialect : Dialect) (level : Nat) :
    ∀ relation : Relation,
      (relation.tokens dialect level).flatMap Token.quoted = relation.texts dialect.nullOrdering
  | .table parts => by
      rw [tokens, texts, quoted_joinTokens, List.flatMap_map]
      exact List.map_eq_flatMap.symm
  | .subquery ⟨projections, source, filter, grouping, having, order, limit⟩ name => by
      have inner := Relation.quoted_tokens dialect (level + 1) source
      simp [tokens, texts, quoted_selectTokens, inner, Token.quoted]

/-- The quoted tokens of a statement are its names and strings. -/
@[simp]
theorem SelectFrom.quoted_tokens (dialect : Dialect) (select : Select) :
    (select.tokens dialect).flatMap Token.quoted = select.texts dialect.nullOrdering := by
  rw [tokens, texts, quoted_selectTokens, Relation.quoted_tokens]

end Rollup.Sql
