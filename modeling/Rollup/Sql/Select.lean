import Rollup.Query.Basic
import Rollup.Sql.Expr

/-!
# Statements

A `SELECT` statement over a table or over the rows of another statement.
-/

namespace Rollup.Sql

/-- An item of a `SELECT` list. -/
inductive Projection where
  | expr (value : Expr) (name : Option String)
  /-- Every column of a relation. -/
  | allOf (relation : String)

/-- The name of the column that an item gives: its own name, or that of the column
that it is.  Every column of a relation has no one name. -/
def Projection.name? : Projection → Option String
  | .expr _ (some name) => some name
  | .expr (.column name) none => some name
  | .expr _ none => none
  | .allOf _ => none

/-- A sort by an expression. -/
structure SortKey where
  expr : Expr
  direction : SortDirection
  nullsFirst : Bool := true

/-- The clauses of a statement over a source of rows. -/
structure SelectFrom (Source : Type) where
  projections : List Projection
  source : Source
  filter : Option Expr := none
  grouping : List Expr := []
  having : Option Expr := none
  order : List SortKey := []
  limit : Option Nat := none

/-- A source of rows. -/
inductive Relation where
  /-- A table, by the parts of its qualified name. -/
  | table (parts : List String)
  | subquery (query : SelectFrom Relation) (name : String)

/-- A statement. -/
abbrev Select := SelectFrom Relation

/-- The names of the columns of a statement, in order. -/
def SelectFrom.outputNames {Source : Type} (select : SelectFrom Source) :
    List (Option String) :=
  select.projections.map Projection.name?

/-- Whether the source is a table or a statement that, like its own source,
projects something. -/
def Relation.projects : Relation → Bool
  | .table _ => true
  | .subquery ⟨projections, source, _, _, _, _, _⟩ _ => !projections.isEmpty && source.projects
termination_by structural relation => relation

/-- Whether a statement and the statements inside it project something. -/
def SelectFrom.projects (select : Select) : Bool :=
  !select.projections.isEmpty && select.source.projects

end Rollup.Sql
