import Rollup.Proofs.Steps
import Rollup.Result.Reconciler

/-!
# Cells of a row

What reading a row does, one cell at a time.  Every column puts its own fields and leaves
the others as they are; only time columns give time cells.  Post-aggregations computed
from the row put their fields in the same way.
-/

namespace Rollup

/-! ## Fields -/

namespace Fields

/-- The names of the fields of a record. -/
def names (fields : Fields) : List String :=
  fields.map Prod.fst

/-- The fields with some entries put one after the other. -/
def putAll (fields : Fields) (entries : List (String × Json)) : Fields :=
  entries.foldl (fun fields entry => fields.put entry.1 entry.2) fields

theorem get?_put_of_ne {name other : String} (different : other ≠ name) (value : Json)
    (fields : Fields) : (fields.put name value).get? other = fields.get? other := by
  have missed : (other == name) = false := beq_eq_false_iff_ne.mpr different
  induction fields with
  | nil => simp [put, get?, List.lookup_cons, missed]
  | cons entry rest inductionHypothesis =>
      obtain ⟨first, old⟩ := entry
      by_cases same : first = name
      · simp [put, get?, List.lookup_cons, same, missed]
      · simp only [get?] at inductionHypothesis
        simp [put, get?, List.lookup_cons, same, inductionHypothesis]

@[simp]
theorem mem_names_put_iff {name other : String} {value : Json} {fields : Fields} :
    other ∈ (fields.put name value).names ↔ other = name ∨ other ∈ fields.names := by
  induction fields with
  | nil => simp [put, names]
  | cons entry rest inductionHypothesis =>
      obtain ⟨first, old⟩ := entry
      by_cases same : first = name
      · simp [put, names, same]
      · simp only [names] at inductionHypothesis
        simp only [put, names, if_neg same, List.map_cons, List.mem_cons, inductionHypothesis]
        exact or_left_comm

theorem get?_putAll_of_not_mem {name : String} {entries : List (String × Json)}
    (apart : name ∉ entries.map Prod.fst) (fields : Fields) :
    (fields.putAll entries).get? name = fields.get? name := by
  induction entries generalizing fields with
  | nil => rfl
  | cons entry rest inductionHypothesis =>
      rw [List.map_cons, List.mem_cons, not_or] at apart
      change ((fields.put entry.1 entry.2).putAll rest).get? name = _
      rw [inductionHypothesis apart.2, get?_put_of_ne apart.1]

/-- Entries with one value put it under each of their names. -/
theorem get?_putAll_of_mem {name : String} {names : List String} (named : name ∈ names)
    (value : Json) (fields : Fields) :
    (fields.putAll (names.map fun name => (name, value))).get? name = some value := by
  induction names generalizing fields with
  | nil => cases named
  | cons first rest inductionHypothesis =>
      change ((fields.put first value).putAll (rest.map fun name => (name, value))).get? name = _
      by_cases later : name ∈ rest
      · exact inductionHypothesis later _
      · have own : name = first := (List.mem_cons.mp named).resolve_right later
        have apart : name ∉ (rest.map fun name => (name, value)).map Prod.fst := by
          rw [List.map_map]
          simpa using later
        rw [get?_putAll_of_not_mem apart, own, get?_put_self]

/-- Entries with different names put each value under its name. -/
theorem get?_putAll_of_entry {name : String} {value : Json} {entries : List (String × Json)}
    (distinct : (entries.map Prod.fst).Nodup) (listed : (name, value) ∈ entries)
    (fields : Fields) : (fields.putAll entries).get? name = some value := by
  induction entries generalizing fields with
  | nil => cases listed
  | cons entry rest inductionHypothesis =>
      rw [List.map_cons, List.nodup_cons] at distinct
      change ((fields.put entry.1 entry.2).putAll rest).get? name = some value
      rcases List.mem_cons.mp listed with rfl | later
      · rw [get?_putAll_of_not_mem distinct.1, get?_put_self]
      · exact inductionHypothesis distinct.2 later _

@[simp]
theorem get?_eq_none_iff {name : String} {fields : Fields} :
    fields.get? name = none ↔ name ∉ fields.names := by
  unfold get? names
  rw [List.lookup_eq_none_iff, List.mem_map, not_exists]
  simp only [bne_iff_ne, not_and]
  exact forall₂_congr fun entry _ => ne_comm

@[simp]
theorem mem_names_putAll_iff {name : String} {entries : List (String × Json)} {fields : Fields} :
    name ∈ (fields.putAll entries).names ↔
      name ∈ entries.map Prod.fst ∨ name ∈ fields.names := by
  induction entries generalizing fields with
  | nil => simp [putAll]
  | cons entry rest inductionHypothesis =>
      change name ∈ ((fields.put entry.1 entry.2).putAll rest).names ↔ _
      rw [inductionHypothesis, mem_names_put_iff, List.map_cons, List.mem_cons, or_left_comm,
        or_assoc]

end Fields

/-! ## Columns -/

/-- A cell that is absent is reported as absent. -/
theorem Cell.eq_null_of_toAggregate {isFloat : Bool} {value : Json}
    (coerced : Cell.null.toAggregate isFloat = .ok value) : value = .null := by
  cases isFloat <;> cases coerced <;> rfl

namespace ColumnRole

/-- The names of the fields that a column puts. -/
def names : ColumnRole → List String
  | .time => []
  | .aggregation name _ => [name]
  | .postAggregation name _ => [name]
  | .dimension names => names

/-- The fields that a column puts for a cell. -/
def entries (role : ColumnRole) (cell : Cell) : Except Error (List (String × Json)) :=
  match role with
  | .time => .ok []
  | .aggregation name isFloat => (cell.toAggregate isFloat).map fun value => [(name, value)]
  | .postAggregation name isFloat => (cell.toAggregate isFloat).map fun value => [(name, value)]
  | .dimension names => .ok (names.map fun name => (name, cell.toDimension))

/-- The time cells that a column gives. -/
def times (role : ColumnRole) (cell : Cell) : List Cell :=
  match role with
  | .time => [cell]
  | _ => []

theorem names_of_entries {role : ColumnRole} {cell : Cell} {found : List (String × Json)}
    (read : role.entries cell = .ok found) : found.map Prod.fst = role.names := by
  cases role with
  | time =>
      cases read
      rfl
  | aggregation name isFloat =>
      obtain ⟨value, _, rfl⟩ := map_eq_ok_iff.mp read
      rfl
  | postAggregation name isFloat =>
      obtain ⟨value, _, rfl⟩ := map_eq_ok_iff.mp read
      rfl
  | dimension names =>
      cases read
      rw [List.map_map]
      exact List.map_id _

end ColumnRole

/-! ## Rows -/

namespace RowValues

variable {values next result : RowValues}

/-- A column puts its fields and gives its time cells, and does nothing else to either. -/
theorem add_eq_ok {role : ColumnRole} {cell : Cell} (added : values.add role cell = .ok next) :
    ∃ found, role.entries cell = .ok found ∧ next.fields = values.fields.putAll found ∧
      next.times = values.times ++ role.times cell := by
  cases role with
  | time =>
      cases added
      exact ⟨[], rfl, rfl, rfl⟩
  | aggregation name isFloat =>
      obtain ⟨value, coerced, built⟩ := bind_eq_ok_iff.mp added
      cases built
      exact ⟨_, map_eq_ok_iff.mpr ⟨value, coerced, rfl⟩, rfl, (List.append_nil _).symm⟩
  | postAggregation name isFloat =>
      obtain ⟨value, coerced, built⟩ := bind_eq_ok_iff.mp added
      cases built
      exact ⟨_, map_eq_ok_iff.mpr ⟨value, coerced, rfl⟩, rfl, (List.append_nil _).symm⟩
  | dimension names =>
      cases added
      refine ⟨_, rfl, ?_, (List.append_nil _).symm⟩
      rw [Fields.putAll, List.foldl_map]

/-- The fields of a row are named by its columns. -/
theorem mem_names_addAll_iff {columns : List (ColumnRole × Cell)}
    (added : values.addAll columns = .ok result) {name : String} :
    name ∈ result.fields.names ↔
      (∃ column ∈ columns, name ∈ column.1.names) ∨ name ∈ values.fields.names := by
  induction columns generalizing values with
  | nil =>
      cases added
      simp
  | cons column rest inductionHypothesis =>
      obtain ⟨role, cell⟩ := column
      obtain ⟨next, step, later⟩ := bind_eq_ok_iff.mp added
      obtain ⟨found, read, put, _⟩ := add_eq_ok step
      rw [inductionHypothesis later, put, Fields.mem_names_putAll_iff,
        ColumnRole.names_of_entries read]
      simp only [List.mem_cons, exists_eq_or_imp]
      rw [or_left_comm, or_assoc]

/-- A field that no column names keeps its value. -/
theorem get?_addAll_of_not_named {columns : List (ColumnRole × Cell)}
    (added : values.addAll columns = .ok result) {name : String}
    (apart : ∀ column ∈ columns, name ∉ column.1.names) :
    result.fields.get? name = values.fields.get? name := by
  induction columns generalizing values with
  | nil =>
      cases added
      rfl
  | cons column rest inductionHypothesis =>
      obtain ⟨role, cell⟩ := column
      obtain ⟨firstApart, restApart⟩ := List.forall_mem_cons.mp apart
      obtain ⟨next, step, later⟩ := bind_eq_ok_iff.mp added
      obtain ⟨found, read, put, _⟩ := add_eq_ok step
      rw [inductionHypothesis later restApart, put]
      apply Fields.get?_putAll_of_not_mem
      rw [ColumnRole.names_of_entries read]
      exact firstApart

/-- The time cells of a row are those of its time columns, in order. -/
theorem times_addAll {columns : List (ColumnRole × Cell)}
    (added : values.addAll columns = .ok result) :
    result.times = values.times ++ columns.flatMap fun column => column.1.times column.2 := by
  induction columns generalizing values with
  | nil =>
      cases added
      exact (List.append_nil _).symm
  | cons column rest inductionHypothesis =>
      obtain ⟨role, cell⟩ := column
      obtain ⟨next, step, later⟩ := bind_eq_ok_iff.mp added
      obtain ⟨found, _, _, timed⟩ := add_eq_ok step
      rw [inductionHypothesis later, timed, List.flatMap_cons, List.append_assoc]

/-- A field that a single column names is what this column puts, whatever was there before
it. -/
theorem get?_addAll_of_alone {columns : List (ColumnRole × Cell)}
    (added : values.addAll columns = .ok result) {position : Nat} {name : String}
    {role : ColumnRole} {cell : Cell} (placed : columns[position]? = some (role, cell))
    (alone : ∀ other column, columns[other]? = some column → name ∈ column.1.names →
      other = position) :
    ∃ before found, role.entries cell = .ok found ∧
      result.fields.get? name = (Fields.putAll before found).get? name := by
  induction columns generalizing values position with
  | nil => cases placed
  | cons column rest inductionHypothesis =>
      obtain ⟨next, step, later⟩ := bind_eq_ok_iff.mp added
      cases position with
      | zero =>
          cases placed
          obtain ⟨found, read, put, _⟩ := add_eq_ok step
          refine ⟨values.fields, found, read, ?_⟩
          rw [get?_addAll_of_not_named later ?_, put]
          intro other member named
          obtain ⟨index, found⟩ := List.getElem?_of_mem member
          cases alone (index + 1) other found named
      | succ position =>
          apply inductionHypothesis later placed
          intro other column found named
          exact Nat.succ.inj (alone (other + 1) column found named)

/-- The field of an aggregation that a single column names is the cell of that column,
coerced. -/
theorem get?_addAll_of_aggregation {columns : List (ColumnRole × Cell)}
    (added : values.addAll columns = .ok result) {position : Nat} {name : String} {isFloat : Bool}
    {cell : Cell} (placed : columns[position]? = some (.aggregation name isFloat, cell))
    (alone : ∀ other column, columns[other]? = some column → name ∈ column.1.names →
      other = position) :
    ∃ value, cell.toAggregate isFloat = .ok value ∧ result.fields.get? name = some value := by
  obtain ⟨before, found, read, field⟩ := get?_addAll_of_alone added placed alone
  obtain ⟨value, coerced, rfl⟩ := map_eq_ok_iff.mp read
  exact ⟨value, coerced, field.trans (Fields.get?_put_self name value before)⟩

/-- The field of a dimension that a single column names is the cell of that column, as a
dimension. -/
theorem get?_addAll_of_dimension {columns : List (ColumnRole × Cell)}
    (added : values.addAll columns = .ok result) {position : Nat} {name : String}
    {names : List String} {cell : Cell}
    (placed : columns[position]? = some (.dimension names, cell)) (named : name ∈ names)
    (alone : ∀ other column, columns[other]? = some column → name ∈ column.1.names →
      other = position) :
    result.fields.get? name = some cell.toDimension := by
  obtain ⟨before, found, read, field⟩ := get?_addAll_of_alone added placed alone
  cases read
  exact field.trans (Fields.get?_putAll_of_mem named cell.toDimension before)

/-- A column leaves the texts of the aggregates that it does not name. -/
theorem text?_add_of_not_named {role : ColumnRole} {cell : Cell} {name : String}
    (added : values.add role cell = .ok next) (apart : name ∉ role.names) :
    next.text? name = values.text? name := by
  cases role with
  | time =>
      cases added
      rfl
  | aggregation own isFloat =>
      obtain ⟨value, _, built⟩ := bind_eq_ok_iff.mp added
      cases built
      have missed : (name == own) = false :=
        beq_eq_false_iff_ne.mpr fun same => apart (List.mem_singleton.mpr same)
      simp only [text?, List.lookup_cons, missed]
  | postAggregation own isFloat =>
      obtain ⟨value, _, built⟩ := bind_eq_ok_iff.mp added
      cases built
      rfl
  | dimension names =>
      cases added
      rfl

theorem text?_addAll_of_not_named {columns : List (ColumnRole × Cell)}
    (added : values.addAll columns = .ok result) {name : String}
    (apart : ∀ column ∈ columns, name ∉ column.1.names) :
    result.text? name = values.text? name := by
  induction columns generalizing values with
  | nil =>
      cases added
      rfl
  | cons column rest inductionHypothesis =>
      obtain ⟨firstApart, restApart⟩ := List.forall_mem_cons.mp apart
      obtain ⟨next, step, later⟩ := bind_eq_ok_iff.mp added
      rw [inductionHypothesis later restApart, text?_add_of_not_named step firstApart]

/-- The text of an aggregate that a single column names is that of the cell of the column. -/
theorem text?_addAll_of_aggregation {columns : List (ColumnRole × Cell)}
    (added : values.addAll columns = .ok result) {position : Nat} {name : String} {isFloat : Bool}
    {cell : Cell} (placed : columns[position]? = some (.aggregation name isFloat, cell))
    (alone : ∀ other column, columns[other]? = some column → name ∈ column.1.names →
      other = position) :
    result.text? name = cell.text? := by
  induction columns generalizing values position with
  | nil => cases placed
  | cons column rest inductionHypothesis =>
      obtain ⟨next, step, later⟩ := bind_eq_ok_iff.mp added
      cases position with
      | zero =>
          cases placed
          obtain ⟨value, _, built⟩ := bind_eq_ok_iff.mp step
          cases built
          rw [text?_addAll_of_not_named later ?_]
          · simp only [text?, List.lookup_cons, BEq.rfl, Option.join_some]
          · intro other member named
            obtain ⟨index, found⟩ := List.getElem?_of_mem member
            cases alone (index + 1) other found named
      | succ position =>
          apply inductionHypothesis later placed
          intro other column found named
          exact Nat.succ.inj (alone (other + 1) column found named)

end RowValues

namespace Reconciler

/-- Post-aggregations computed from a row put one field for each name. -/
theorem putPostAggregations_eq_ok {query : Query} {row : String → Option String}
    {posts : List PostAggregation} {fields result : Fields}
    (computed : putPostAggregations query row fields posts = .ok result) :
    ∃ entries, entries.map Prod.fst = posts.filterMap PostAggregation.name? ∧
      result = fields.putAll entries := by
  induction posts generalizing fields with
  | nil =>
      cases computed
      exact ⟨[], rfl, rfl⟩
  | cons post rest inductionHypothesis =>
      rw [putPostAggregations] at computed
      cases named : post.name? with
      | none =>
          rw [named] at computed
          rw [List.filterMap_cons_none named]
          exact inductionHypothesis computed
      | some name =>
          rw [named] at computed
          obtain ⟨value, _, later⟩ := bind_eq_ok_iff.mp computed
          obtain ⟨entries, names, put⟩ := inductionHypothesis later
          refine ⟨(name, reportedNumber (post.isFloat query) value) :: entries, ?_, put⟩
          rw [List.map_cons, names, List.filterMap_cons_some named]

/-- Post-aggregations with names are put exactly when each of them has a value. -/
theorem exists_putPostAggregations_iff {query : Query} {row : String → Option String}
    {posts : List PostAggregation} {fields : Fields}
    (named : ∀ post ∈ posts, post.name?.isSome) :
    (∃ result, putPostAggregations query row fields posts = .ok result) ↔
      ∀ post ∈ posts, ∃ value, post.evaluate row = .ok value := by
  induction posts generalizing fields with
  | nil => exact iff_of_true ⟨fields, rfl⟩ (List.forall_mem_nil _)
  | cons post rest inductionHypothesis =>
      rw [List.forall_mem_cons] at named ⊢
      obtain ⟨name, isName⟩ := Option.isSome_iff_exists.mp named.1
      simp only [putPostAggregations, isName, bind_eq_ok_iff]
      constructor
      · rintro ⟨result, value, found, later⟩
        exact ⟨⟨value, found⟩, (inductionHypothesis named.2).mp ⟨result, later⟩⟩
      · rintro ⟨⟨value, found⟩, others⟩
        obtain ⟨result, later⟩ := (inductionHypothesis named.2).mpr others
        exact ⟨result, value, found, later⟩

/-- The entries of post-aggregations with some values, one for each name. -/
def postEntries (query : Query) (value : PostAggregation → Option Number)
    (posts : List PostAggregation) : List (String × Json) :=
  posts.filterMap fun post =>
    post.name?.map fun name => (name, reportedNumber (post.isFloat query) (value post))

theorem names_postEntries (query : Query) (value : PostAggregation → Option Number)
    (posts : List PostAggregation) :
    (postEntries query value posts).map Prod.fst = posts.filterMap PostAggregation.name? := by
  rw [postEntries, List.map_filterMap]
  congr 1
  funext post
  rw [Option.map_map]
  exact Option.map_id'

/-- Post-aggregations computed from a row put their values, each under its name. -/
theorem putPostAggregations_eq_putAll {query : Query} {row : String → Option String}
    {value : PostAggregation → Option Number} {posts : List PostAggregation}
    (each : ∀ post ∈ posts, post.evaluate row = .ok (value post)) (fields : Fields) :
    putPostAggregations query row fields posts =
      .ok (fields.putAll (postEntries query value posts)) := by
  induction posts generalizing fields with
  | nil => rfl
  | cons post rest inductionHypothesis =>
      obtain ⟨first, others⟩ := List.forall_mem_cons.mp each
      rw [putPostAggregations]
      cases named : post.name? with
      | none =>
          simp only [postEntries, List.filterMap_cons, named, Option.map_none]
          exact inductionHypothesis others fields
      | some name =>
          simp only [postEntries, List.filterMap_cons, named, Option.map_some, first]
          exact inductionHypothesis others _

end Reconciler

end Rollup
