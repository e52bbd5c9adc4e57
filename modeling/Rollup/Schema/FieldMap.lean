import Rollup.Schema.Table

/-!
# Field maps

The correspondence between logical names and physical columns.  Each logical name
has one physical column, the last one that it was given; a physical column may
stand behind several logical names.  A name without an entry passes unchanged in
both directions.
-/

namespace Rollup

/-- Logical names with their physical columns, in the order in which they were
given. -/
structure FieldMap where
  entries : List (String × String)

namespace FieldMap

/-- The map of a table's columns. -/
def ofTable (table : Table) : FieldMap :=
  ⟨table.columns.map fun column => (column.name, column.physicalName)⟩

/-- The physical column given last to a logical name. -/
def physical? (fields : FieldMap) (logical : String) : Option String :=
  (fields.entries.reverse.find? fun entry => entry.1 == logical).map Prod.snd

/-- Whether a logical name has an entry. -/
def isMapped (fields : FieldMap) (logical : String) : Bool :=
  (fields.physical? logical).isSome

/-- The physical column of a logical name. -/
def toPhysical (fields : FieldMap) (logical : String) : String :=
  (fields.physical? logical).getD logical

/-- A name put into a list sorted by code points, unless it is there already. -/
def insertName (name : String) : List String → List String
  | [] => [name]
  | first :: rest =>
      if name = first then first :: rest
      else if name < first then name :: first :: rest
      else first :: insertName name rest

/-- The logical names that were given a physical column, sorted and each once; the
name itself when there are none. -/
def toLogical (fields : FieldMap) (physical : String) : List String :=
  match fields.entries.filter fun entry => entry.2 == physical with
  | [] => [physical]
  | found => found.foldl (fun names entry => insertName entry.1 names) []

end FieldMap

end Rollup
