import Mathlib.Data.List.Nodup
import Rollup.Result.Cell
import Rollup.Sql.Select

/-!
# The order of rows

How the sort of a statement orders the rows of its result.  An engine has some order of the
values that are not absent; a sort key puts the absent cells of its column before or behind all
others and turns this order around where it is descending, and the first key that tells two rows
apart decides.
-/

namespace Rollup

/-- Whether an engine that orders values takes two cells for the same: both are absent, or both
are values that it does not tell apart. -/
def Cell.AlikeIn (order : Cell → Cell → Ordering) (first second : Cell) : Prop :=
  match first.isNull, second.isNull with
  | true, true => True
  | false, false => order first second = .eq
  | _, _ => False

namespace Sql

/-- How a sort key orders two cells of its column. -/
def SortKey.compareCells (key : SortKey) (order : Cell → Cell → Ordering)
    (first second : Cell) : Ordering :=
  match first.isNull, second.isNull with
  | true, true => .eq
  | true, false => if key.nullsFirst then .lt else .gt
  | false, true => if key.nullsFirst then .gt else .lt
  | false, false =>
      match key.direction with
      | .ascending => order first second
      | .descending => (order first second).swap

/-- The cell of a row that a sort key looks at: that of the column of its name, which is the
first one of that name. -/
def SortKey.cell (key : SortKey) (names : List String) (row : List Cell) : Cell :=
  match key.expr with
  | .column name => (row[names.idxOf name]?).getD .null
  | _ => .null

/-- How some sort keys order two rows with columns of some names. -/
def compareRows (order : Cell → Cell → Ordering) (names : List String) (first second : List Cell) :
    List SortKey → Ordering
  | [] => .eq
  | key :: rest =>
      (key.compareCells order (key.cell names first) (key.cell names second)).then
        (compareRows order names first second rest)

variable {order : Cell → Cell → Ordering} {names : List String} {first second : List Cell}

theorem SortKey.compareCells_eq_iff {key : SortKey} {cell other : Cell} :
    key.compareCells order cell other = .eq ↔ cell.AlikeIn order other := by
  obtain ⟨expr, direction, nullsFirst⟩ := key
  unfold compareCells Cell.AlikeIn
  cases cell.isNull <;> cases other.isNull <;> cases nullsFirst <;> cases direction <;> simp

/-- Two rows tie exactly if every key takes their cells for the same. -/
theorem compareRows_eq_iff {keys : List SortKey} :
    compareRows order names first second keys = .eq ↔
      ∀ key ∈ keys, (key.cell names first).AlikeIn order (key.cell names second) := by
  induction keys with
  | nil => simp [compareRows]
  | cons key rest inductionHypothesis =>
      rw [compareRows, Ordering.then_eq_eq, SortKey.compareCells_eq_iff, inductionHypothesis,
        List.forall_mem_cons]

/-- A key finds the cell of a column whose name no other column has. -/
theorem SortKey.cell_of_column {key : SortKey} {name : String} {index : Nat} {cell : Cell}
    (named : key.expr = .column name) (apart : names.Nodup) (column : names[index]? = some name)
    {row : List Cell} (placed : row[index]? = some cell) : key.cell names row = cell := by
  obtain ⟨within, rfl⟩ := List.getElem?_eq_some_iff.mp column
  rw [SortKey.cell, named]
  simp only [apart.idxOf_getElem index within, placed, Option.getD_some]

/-- Where columns are called apart, the keys of the first columns find the cells that a row begins
with. -/
theorem map_cell_of_begins {keys : List SortKey} {leading others : List String}
    {cells row : List Cell} (named : keys.map SortKey.expr = leading.map Expr.column)
    (apart : (leading ++ others).Nodup) (counted : cells.length = leading.length)
    (begins : cells <+: row) :
    keys.map (SortKey.cell · (leading ++ others) row) = cells := by
  obtain ⟨rest, rfl⟩ := begins
  have sameLength : keys.length = leading.length := by
    simpa using congrArg List.length named
  refine List.ext_getElem (by rw [List.length_map, sameLength, counted]) fun index within held => ?_
  rw [List.length_map] at within
  have inLeading : index < leading.length := sameLength ▸ within
  have key : keys[index].expr = .column leading[index] := by
    simpa [within, inLeading] using congrArg (·[index]?) named
  have column : (leading ++ others)[index]? = some leading[index] := by
    rw [List.getElem?_append_left inLeading, List.getElem?_eq_getElem inLeading]
  rw [List.getElem_map]
  refine SortKey.cell_of_column key apart column ?_
  rw [List.getElem?_append_left held, List.getElem?_eq_getElem held]

/-- Among rows whose sort keys are integers, the ascending order is the lexicographic one. -/
theorem lt_of_compareRows {keys : List SortKey} {values later : List Long}
    (ascending : ∀ key ∈ keys, key.direction = .ascending)
    (numeric : ∀ value other : Long,
      order (.integer value) (.integer other) = compare value.toInt other.toInt)
    (cells : keys.map (SortKey.cell · names first) = values.map Cell.integer)
    (laterCells : keys.map (SortKey.cell · names second) = later.map Cell.integer)
    (ordered : compareRows order names first second keys = .lt) :
    values.map Int64.toInt < later.map Int64.toInt := by
  induction keys generalizing values later with
  | nil => cases ordered
  | cons key rest inductionHypothesis =>
      obtain ⟨up, others⟩ := List.forall_mem_cons.mp ascending
      obtain ⟨value, values, rfl, same, sameRest⟩ := List.map_eq_cons_iff.mp cells.symm
      obtain ⟨other, later, rfl, sameLater, sameLaterRest⟩ :=
        List.map_eq_cons_iff.mp laterCells.symm
      have decided : key.compareCells order (key.cell names first) (key.cell names second) =
          compare value.toInt other.toInt := by
        change key.compareCells order ((SortKey.cell · names first) key)
          ((SortKey.cell · names second) key) = _
        rw [← same, ← sameLater, ← numeric]
        simp only [SortKey.compareCells, Cell.isNull, up]
      rw [compareRows, decided, Ordering.then_eq_lt, Int.compare_eq_lt, Int.compare_eq_eq]
        at ordered
      rw [List.map_cons, List.map_cons, List.cons_lt_cons_iff]
      exact ordered.imp id (And.imp id
        (inductionHypothesis others sameRest.symm sameLaterRest.symm))

end Sql

end Rollup
