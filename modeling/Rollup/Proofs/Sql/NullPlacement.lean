import Rollup.Proofs.Sql.SortText

/-!
# The placement of absent values

A sort places absent values by keywords or, where a dialect has none, by an item of its own for
absence in front of the value.  Rows are ordered by the items that the text of a sort is read as,
the first that tells two rows apart deciding.  Both texts of a sort order rows alike, wherever an
engine would place absent values of its own accord: the item for absence leaves to the value only
such rows as have both or neither absent.
-/

namespace Rollup.Sql

universe u

/-! ## The order of rows -/

variable {α : Type u}

/-- An order of values in a direction. -/
def directed : SortDirection → Ordering → Ordering
  | .ascending, ordering => ordering
  | .descending, ordering => ordering.swap

/-- How values that may be absent are ordered in a direction, the absent ones before or behind
all others. -/
def comparePlaced (order : α → α → Ordering) (direction : SortDirection) (nullsFirst : Bool) :
    Option α → Option α → Ordering
  | none, none => .eq
  | none, some _ => if nullsFirst then .lt else .gt
  | some _, none => if nullsFirst then .gt else .lt
  | some first, some second => directed direction (order first second)

/-- How an item orders two rows, which give each operand its value.  A test for absence is false
or true, which is more than false; what has no placement is placed by the engine. -/
def SortItem.compare (order : α → α → Ordering) (placesFirst : SortItem → Bool)
    (first second : List Sign → Option α) (item : SortItem) : Ordering :=
  if item.testsNull then
    directed item.direction
      (Ord.compare (first item.operand).isNone (second item.operand).isNone)
  else
    comparePlaced order item.direction (item.nullsFirst.getD (placesFirst item))
      (first item.operand) (second item.operand)

/-- How the items of a sort order two rows: by the first that tells them apart. -/
def compareItems (order : α → α → Ordering) (placesFirst : SortItem → Bool)
    (first second : List Sign → Option α) : List SortItem → Ordering
  | [] => .eq
  | item :: rest =>
      (item.compare order placesFirst first second).then
        (compareItems order placesFirst first second rest)

/-- How sort keys order two rows: by the first that tells them apart. -/
def compareKeys (order : α → α → Ordering) (first second : List Sign → Option α) :
    List SortKey → Ordering
  | [] => .eq
  | key :: rest =>
      (comparePlaced order key.direction key.nullsFirst (first (signsOf key.expr.tokens))
        (second (signsOf key.expr.tokens))).then (compareKeys order first second rest)

variable {order : α → α → Ordering} {placesFirst : SortItem → Bool}
  {first second : List Sign → Option α}

theorem compareItems_append (items others : List SortItem) :
    compareItems order placesFirst first second (items ++ others) =
      (compareItems order placesFirst first second items).then
        (compareItems order placesFirst first second others) := by
  induction items with
  | nil => rfl
  | cons item rest inductionHypothesis =>
      rw [List.cons_append, compareItems, compareItems, inductionHypothesis, Ordering.then_assoc]

/-- A test for absence places the absent values, and leaves only such rows to the value that have
both or neither absent. -/
theorem compare_nullTest_then (direction : SortDirection) (nullsFirst otherwise : Bool)
    (value other : Option α) :
    (directed (if nullsFirst then .descending else .ascending)
        (Ord.compare value.isNone other.isNone)).then
      (comparePlaced order direction otherwise value other) =
        comparePlaced order direction nullsFirst value other := by
  cases value <;> cases other <;> cases nullsFirst <;> rfl

/-- A key orders rows as its items do. -/
theorem compareItems_items (ordering : NullOrdering) (key : SortKey) :
    compareItems order placesFirst first second (key.items ordering) =
      comparePlaced order key.direction key.nullsFirst (first (signsOf key.expr.tokens))
        (second (signsOf key.expr.tokens)) := by
  cases ordering with
  | keyword =>
      rw [SortKey.items, compareItems, compareItems, Ordering.then_eq]
      rfl
  | emulated =>
      rw [SortKey.items, compareItems, compareItems, compareItems, Ordering.then_eq]
      exact compare_nullTest_then key.direction key.nullsFirst _ _ _

theorem compareItems_flatMap (ordering : NullOrdering) (keys : List SortKey) :
    compareItems order placesFirst first second (keys.flatMap (SortKey.items ordering)) =
      compareKeys order first second keys := by
  induction keys with
  | nil => rfl
  | cons key rest inductionHypothesis =>
      rw [List.flatMap_cons, compareItems_append, compareItems_items, inductionHypothesis]
      rfl

/-- The text of a sort is read as the items of its keys, and the items that test for absence order
rows as those do that place absent values by keywords, in the order of the keys. -/
theorem emulation_sorts_alike (keys : List SortKey) :
    ((∀ key ∈ keys, key.expr.NamesAreBare) → ∀ dialect : Dialect,
      dialect.readSort (dialect.sortText keys) =
        some (keys.flatMap (SortKey.items dialect.nullOrdering))) ∧
    ∀ {α : Type u} (order : α → α → Ordering) (placesFirst otherPlacesFirst : SortItem → Bool)
      (first second : List Sign → Option α),
      compareItems order placesFirst first second (keys.flatMap (SortKey.items .emulated)) =
          compareItems order otherPlacesFirst first second
            (keys.flatMap (SortKey.items .keyword)) ∧
        compareItems order placesFirst first second (keys.flatMap (SortKey.items .emulated)) =
          compareKeys order first second keys := by
  constructor
  · intro bare dialect
    exact readSort_sortText dialect bare
  · intro α order placesFirst otherPlacesFirst first second
    rw [compareItems_flatMap, compareItems_flatMap]
    exact ⟨rfl, rfl⟩

/-- A sort by an absent region, which goes last, and by cities, in two dialects. -/
theorem emulation_sorts_alike_of_regions :
    let keys : List SortKey := [⟨.column "region", .descending, false⟩,
      ⟨.call "COALESCE" [.column "city", .text ", "], .ascending, true⟩]
    let absent : List Sign → Option Nat := fun _ => none
    let present : List Sign → Option Nat := fun operand => some operand.length
    Dialect.mysql.readSort ("`region` IS NULL ASC, `region` DESC, " ++
        "COALESCE(`city`, ', ') IS NULL DESC, COALESCE(`city`, ', ') ASC") =
      some (keys.flatMap (SortKey.items .emulated)) ∧
    Dialect.ansi.readSort ("\"region\" DESC NULLS LAST, " ++
        "COALESCE(\"city\", ', ') ASC NULLS FIRST") =
      some (keys.flatMap (SortKey.items .keyword)) ∧
    compareItems compare (fun _ => true) absent present
        (keys.flatMap (SortKey.items .emulated)) = .gt ∧
    compareItems compare (fun _ => false) absent present
        (keys.flatMap (SortKey.items .keyword)) = .gt := by
  intro keys absent present
  have alike := emulation_sorts_alike keys
  have bare : ∀ key ∈ keys, ∀ name ∈ key.expr.bareNames, IsBareName name := by decide
  have ordered := alike.2 compare (fun _ => true) (fun _ => false) absent present
  have last : compareKeys compare absent present keys = .gt := by decide
  refine ⟨alike.1 bare .mysql, alike.1 bare .ansi, ordered.2.trans last, ?_⟩
  rw [← ordered.1, ordered.2]
  exact last

end Rollup.Sql
