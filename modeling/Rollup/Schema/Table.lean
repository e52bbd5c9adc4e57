import Rollup.Text.Blank

/-!
# Tables

A logical table: the physical relation that it reads from, its timestamp column,
and the physical columns behind its logical ones.
-/

namespace Rollup

/-- A logical column and the physical column behind it, which by default has the
same name. -/
structure Column where
  name : String
  physical : Option String := none
  deriving DecidableEq

/-- The physical name of a column. -/
def Column.physicalName (column : Column) : String :=
  column.physical.getD column.name

/-- A logical table.  The relation may be qualified by dots. -/
structure Table where
  name : String
  relation : String
  timestampColumn : String := "__time"
  columns : List Column := []
  deriving DecidableEq

namespace Table

/-- The parts of the relation's name between its dots. -/
def relationParts (table : Table) : List String :=
  (Text.splitAt '.' table.relation.toList).map String.ofList

/-- The first column of a name. -/
def column? (table : Table) (name : String) : Option Column :=
  table.columns.find? fun column => column.name == name

end Table

end Rollup
