import Rollup.Proofs.Result.Record

/-!
# Dimensions of records

Which dimensions of a query its records have.  A column that is grouped by is reported under
every dimension of the query that has an entry for it, and under its own name only when there
is none.  So a dimension without an entry is hidden when another one has it as its column;
every other dimension comes back, with the cell of its column.
-/

namespace Rollup

open Sql

/-- A dimension is hidden when it has no entry and another dimension of the query has it as
its column. -/
def Query.Hides (query : Query) (fields : FieldMap) (dimension : String) : Prop :=
  ¬ fields.isMapped dimension ∧
    ∃ other ∈ query.groupingDimensions, other ≠ dimension ∧ fields.toPhysical other = dimension

instance (query : Query) (fields : FieldMap) (dimension : String) :
    Decidable (query.Hides fields dimension) :=
  inferInstanceAs (Decidable (_ ∧ ∃ _, _ ∧ _))

namespace Reconciler

variable {reconciler : Reconciler}

/-! ## Names of a column -/

theorem mem_dimensionNames_iff {column name : String} :
    name ∈ reconciler.dimensionNames column ↔
      name ∈ (reconciler.fields.toLogical column).filter reconciler.query.groupsBy ∨
        (reconciler.fields.toLogical column).filter reconciler.query.groupsBy = [] ∧
          name = column := by
  unfold dimensionNames
  cases (reconciler.fields.toLogical column).filter reconciler.query.groupsBy with
  | nil => simp
  | cons first rest => simp

section Functional

variable (functional : reconciler.fields.IsFunctional)
include functional

/-- The names of a column that some dimension of the query has an entry for are those of all
these dimensions. -/
theorem mem_dimensionNames_of_mapped {column name other : String}
    (grouped : other ∈ reconciler.query.groupingDimensions)
    (mapped : reconciler.fields.isMapped other)
    (column_eq : reconciler.fields.toPhysical other = column) :
    name ∈ reconciler.dimensionNames column ↔
      name ∈ reconciler.query.groupingDimensions ∧ reconciler.fields.isMapped name ∧
        reconciler.fields.toPhysical name = column := by
  have entry := functional.entry_iff.mpr ⟨mapped, column_eq⟩
  have kept (name : String) :
      name ∈ (reconciler.fields.toLogical column).filter reconciler.query.groupsBy ↔
        name ∈ reconciler.query.groupingDimensions ∧ reconciler.fields.isMapped name ∧
          reconciler.fields.toPhysical name = column := by
    rw [List.mem_filter, FieldMap.mem_toLogical_iff, functional.entry_iff, Query.groupsBy,
      List.contains_iff_mem]
    constructor
    · rintro ⟨given | ⟨_, absent⟩, listed⟩
      · exact ⟨listed, given⟩
      · exact absurd rfl (absent _ entry)
    · rintro ⟨listed, given⟩
      exact ⟨.inl given, listed⟩
  rw [mem_dimensionNames_iff, kept]
  constructor
  · rintro (reported | ⟨empty, _⟩)
    · exact reported
    · have reported := (kept other).mpr ⟨grouped, mapped, column_eq⟩
      rw [empty] at reported
      cases reported
  · exact .inl

/-- A column that no dimension of the query has an entry for is reported under its own
name. -/
theorem mem_dimensionNames_of_unmapped {column name : String}
    (grouped : column ∈ reconciler.query.groupingDimensions)
    (unmapped : ∀ other ∈ reconciler.query.groupingDimensions, reconciler.fields.isMapped other →
      reconciler.fields.toPhysical other ≠ column) :
    name ∈ reconciler.dimensionNames column ↔ name = column := by
  have kept (name : String)
      (reported : name ∈ (reconciler.fields.toLogical column).filter reconciler.query.groupsBy) :
      name = column := by
    rw [List.mem_filter, FieldMap.mem_toLogical_iff, functional.entry_iff, Query.groupsBy,
      List.contains_iff_mem] at reported
    obtain ⟨⟨mapped, given⟩ | ⟨own, _⟩, listed⟩ := reported
    · exact absurd given (unmapped name listed mapped)
    · exact own
  rw [mem_dimensionNames_iff]
  constructor
  · rintro (reported | ⟨_, own⟩)
    · exact kept name reported
    · exact own
  · rintro rfl
    cases found : (reconciler.fields.toLogical name).filter reconciler.query.groupsBy with
    | nil => exact .inr ⟨rfl, rfl⟩
    | cons first rest =>
        have own := kept first (found ▸ List.mem_cons_self)
        exact .inl (own ▸ List.mem_cons_self)

/-- A column that is grouped by is reported under the dimensions that have it, but for a
hidden one. -/
theorem mem_dimensionNames_of_grouped {column name : String}
    (grouped : column ∈ reconciler.query.dimensionColumns reconciler.fields) :
    name ∈ reconciler.dimensionNames column ↔
      name ∈ reconciler.query.groupingDimensions ∧
        reconciler.fields.toPhysical name = column ∧
        ¬ reconciler.query.Hides reconciler.fields name := by
  by_cases aliased : ∃ other ∈ reconciler.query.groupingDimensions,
      reconciler.fields.isMapped other ∧ reconciler.fields.toPhysical other = column
  · obtain ⟨other, listed, mapped, column_eq⟩ := aliased
    rw [mem_dimensionNames_of_mapped functional listed mapped column_eq]
    refine and_congr_right fun _ => ?_
    constructor
    · rintro ⟨given, same⟩
      exact ⟨same, fun hidden => hidden.1 given⟩
    · rintro ⟨same, shown⟩
      refine ⟨?_, same⟩
      by_contra missing
      have own := FieldMap.toPhysical_of_not_isMapped missing
      refine shown ⟨missing, other, listed, ?_, by rw [column_eq, ← same, own]⟩
      rintro rfl
      exact missing mapped
  · have unmapped : ∀ other ∈ reconciler.query.groupingDimensions,
        reconciler.fields.toPhysical other = column → other = column := by
      intro other listed same
      by_cases mapped : reconciler.fields.isMapped other
      · exact absurd ⟨other, listed, mapped, same⟩ aliased
      · rw [← same, FieldMap.toPhysical_of_not_isMapped mapped]
    obtain ⟨dimension, listed, same⟩ := Query.mem_dimensionColumns_iff.mp grouped
    obtain rfl := unmapped dimension listed same
    rw [mem_dimensionNames_of_unmapped functional listed
      fun other member mapped column_eq => aliased ⟨other, member, mapped, column_eq⟩]
    constructor
    · rintro rfl
      refine ⟨listed, same, ?_⟩
      rintro ⟨_, other, member, different, column_eq⟩
      exact different (unmapped other member column_eq)
    · rintro ⟨member, column_eq, _⟩
      exact unmapped name member column_eq

end Functional

/-! ## Columns of dimensions -/

/-- Only columns behind the time columns are reported under names. -/
theorem column_of_named_role {position : Nat} {role : ColumnRole} {name : String}
    (placed : reconciler.roles[position]? = some role) (named : name ∈ role.names) :
    ∃ index column, position = reconciler.bucketing.timeColumnCount + index ∧
      reconciler.columns[index]? = some column ∧ role = reconciler.roleOf column := by
  have timeLength : (List.replicate reconciler.bucketing.timeColumnCount ColumnRole.time).length =
      reconciler.bucketing.timeColumnCount := List.length_replicate
  by_cases leading : position < reconciler.bucketing.timeColumnCount
  · rw [roles, List.getElem?_append_left (by rwa [timeLength]), List.getElem?_replicate,
      if_pos leading] at placed
    cases placed
    cases named
  · rw [Nat.not_lt] at leading
    rw [roles, List.getElem?_append_right (by rwa [timeLength]), timeLength,
      List.getElem?_map] at placed
    obtain ⟨column, found, rfl⟩ := Option.map_eq_some_iff.mp placed
    exact ⟨_, column, (Nat.add_sub_cancel' leading).symm, found, rfl⟩

section Rows

variable {cells : List Cell} {record : Record}
variable (names : reconciler.query.HasOutputNames reconciler.fields)
  (functional : reconciler.fields.IsFunctional)
  (bound : reconciler.layout = some reconciler.roles)
  (wide : cells.length = reconciler.roles.length)
  (read : reconciler.recordOf cells = .ok record)

include names in
/-- A dimension of the query is reported by a column that is grouped by, or by none. -/
theorem grouped_of_column {column dimension : String}
    (listed : dimension ∈ reconciler.query.groupingDimensions)
    (placed : column ∈ reconciler.columns)
    (named : dimension ∈ (reconciler.roleOf column).names) :
    column ∈ reconciler.query.dimensionColumns reconciler.fields ∧
      dimension ∈ reconciler.dimensionNames column := by
  rcases List.mem_append.mp placed with grouped | output
  · rw [roleOf_dimension names grouped] at named
    exact ⟨grouped, named⟩
  · have isOutput := Query.output_of_column output
    rw [names_roleOf_output isOutput] at named
    obtain rfl := List.mem_singleton.mp named
    exact absurd (Query.mem_groupingNames_of_dimension listed) (names.apart dimension isOutput)

include names functional in
/-- Only its own column, which is among the dimensions and not also among the outputs, is
reported under a dimension of the query. -/
theorem position_of_dimension {dimension : String} {index position : Nat} {role : ColumnRole}
    (listed : dimension ∈ reconciler.query.groupingDimensions)
    (own : (reconciler.query.dimensionColumns reconciler.fields)[index]? =
      some (reconciler.fields.toPhysical dimension))
    (placed : reconciler.roles[position]? = some role) (named : dimension ∈ role.names) :
    position = reconciler.bucketing.timeColumnCount + index := by
  obtain ⟨other, column, rfl, found, rfl⟩ := column_of_named_role placed named
  obtain ⟨grouped, reported⟩ := grouped_of_column names listed (List.mem_of_getElem? found) named
  obtain ⟨_, same, _⟩ := (mem_dimensionNames_of_grouped functional grouped).mp reported
  have within := (List.getElem?_eq_some_iff.mp own).1
  by_cases among : other < (reconciler.query.dimensionColumns reconciler.fields).length
  · rw [columns, Query.rowColumns, List.getElem?_append_left among, ← same] at found
    rw [(List.getElem?_inj within (Query.nodup_dimensionColumns _ _)).mp (own.trans found.symm)]
  · rw [columns, Query.rowColumns,
      List.getElem?_append_right (Nat.le_of_not_lt among)] at found
    exact absurd (Query.mem_groupingNames_of_column grouped)
      (names.apart column (Query.output_of_column (List.mem_of_getElem? found)))

include names functional bound wide read in
/-- A dimension that is not hidden is the cell of its own column. -/
theorem record_get?_dimension {dimension : String} {index : Nat}
    (listed : dimension ∈ reconciler.query.groupingDimensions)
    (own : (reconciler.query.dimensionColumns reconciler.fields)[index]? =
      some (reconciler.fields.toPhysical dimension))
    (shown : ¬ reconciler.query.Hides reconciler.fields dimension) :
    ∃ cell, cells[reconciler.bucketing.timeColumnCount + index]? = some cell ∧
      record.get? dimension = some cell.toDimension := by
  obtain ⟨values, entries, added, entryNames, fields, _⟩ := recordOf_eq_ok bound read
  have grouped := List.mem_of_getElem? own
  have reported := (mem_dimensionNames_of_grouped functional grouped).mpr ⟨listed, rfl, shown⟩
  have role : reconciler.roles[reconciler.bucketing.timeColumnCount + index]? =
      some (.dimension (reconciler.dimensionNames (reconciler.fields.toPhysical dimension))) := by
    have within := (List.getElem?_eq_some_iff.mp own).1
    rw [roles, List.getElem?_append_right (by rw [List.length_replicate]; omega),
      List.length_replicate, Nat.add_sub_cancel_left, List.getElem?_map, columns,
      Query.rowColumns, List.getElem?_append_left within, own, Option.map_some,
      roleOf_dimension names grouped]
  obtain ⟨cell, held⟩ :
      ∃ cell, cells[reconciler.bucketing.timeColumnCount + index]? = some cell :=
    ⟨_, List.getElem?_eq_getElem (wide ▸ (List.getElem?_eq_some_iff.mp role).1)⟩
  have put : values.fields.get? dimension = some cell.toDimension :=
    RowValues.get?_addAll_of_dimension added (List.getElem?_zip_eq_some.mpr ⟨role, held⟩) reported
      fun _ _ found => position_of_dimension names functional listed own
        (List.getElem?_zip_eq_some.mp found).1
  have notComputed : dimension ∉ entries.map Prod.fst := by
    rw [entryNames]
    intro remaining
    have output := (Query.mem_postAggregationNames_iff reconciler.mode).mpr (.inr remaining)
    exact names.apart dimension (List.mem_append_right _ output)
      (Query.mem_groupingNames_of_dimension listed)
  exact ⟨cell, held, by rw [Record.get?, fields, Fields.get?_putAll_of_not_mem notComputed, put]⟩

include names functional bound wide read in
/-- A hidden dimension has no field. -/
theorem record_get?_hidden {dimension : String}
    (listed : dimension ∈ reconciler.query.groupingDimensions)
    (hidden : reconciler.query.Hides reconciler.fields dimension) :
    record.get? dimension = none := by
  rw [Record.get?, Fields.get?_eq_none_iff, mem_names_record_iff bound wide read, not_or]
  constructor
  · intro remaining
    have output := (Query.mem_postAggregationNames_iff reconciler.mode).mpr (.inr remaining)
    exact names.apart dimension (List.mem_append_right _ output)
      (Query.mem_groupingNames_of_dimension listed)
  · rintro ⟨column, placed, named⟩
    obtain ⟨grouped, reported⟩ := grouped_of_column names listed placed named
    exact ((mem_dimensionNames_of_grouped functional grouped).mp reported).2.2 hidden

end Rows

end Reconciler

/-! ## Rows of a compiled query -/

/-- A record has a dimension as the cell of the dimension's own column, or has no field for it
when it is hidden. -/
structure Compiled.ReportsDimension (compiled : Compiled) (query : Query) (fields : FieldMap)
    (cells : List Cell) (record : Record) (dimension : String) : Prop where
  hidden : query.Hides fields dimension → record.get? dimension = none
  shown : ¬ query.Hides fields dimension → ∃ (position : Nat) (cell : Cell),
    compiled.statement.columns[position]? =
      some (.expr (.column (fields.toPhysical dimension)) none) ∧
    cells[position]? = some cell ∧ record.get? dimension = some cell.toDimension

/-- The columns of a compiled query over a table without repeated logical names can be bound,
and every row of them that is taken adds one record.  It has each dimension of the query that
is not hidden, as the cell of the dimension's own column, and none that is hidden. -/
theorem Reconciler.dimensions_read_back (query : Query) (table : Table)
    (distinct : (table.columns.map Column.name).Nodup) (dialect : Dialect)
    (mode : PostAggregationMode) (compiled : Compiled)
    (compiles : query.compile table (.ofTable table) dialect mode = .ok compiled) :
    let fields := FieldMap.ofTable table
    let reconciler : Reconciler :=
      { query, fields, bucketing := compiled.bucketing, mode := compiled.mode }
    ∃ names bound, compiled.statement.columns.map Projection.name? = names.map some ∧
      reconciler.bind names = .ok bound ∧
      ∀ records cells next, cells.length = names.length →
        ({ bound with records } : Reconciler).push cells = .ok next →
        ∃ record, next = { bound with records := records ++ [record] } ∧
          ∀ dimension ∈ query.groupingDimensions,
            compiled.ReportsDimension query fields cells record dimension := by
  intro fields reconciler
  have functional : fields.IsFunctional := FieldMap.isFunctional_ofTable distinct
  obtain ⟨stated, bucketing, sameMode⟩ := Query.compile_eq_ok compiles
  rw [← sameMode] at stated
  have outputNames := (Query.statement_columns stated).1
  have leading : query.granularity.timeColumnNames.length =
      compiled.bucketing.timeColumnCount := by
    rw [bucketing]
    rfl
  refine ⟨query.granularity.timeColumnNames ++ reconciler.columns,
    { reconciler with layout := some reconciler.roles }, Query.statement_names stated,
    Reconciler.bind_eq_ok leading, ?_⟩
  intro records cells next width pushed
  let receiving : Reconciler := { reconciler with layout := some reconciler.roles, records }
  obtain ⟨record, read, built⟩ := bind_eq_ok_iff.mp pushed
  cases built
  have recorded : receiving.recordOf cells = .ok record := read
  have wide : cells.length = receiving.roles.length := by
    rw [width, List.length_append, leading, Reconciler.roles, List.length_append,
      List.length_replicate, List.length_map]
    rfl
  refine ⟨record, rfl, fun dimension listed => ⟨?hidden, ?shown⟩⟩
  case hidden =>
    intro hidden
    exact Reconciler.record_get?_hidden outputNames functional rfl wide recorded listed hidden
  case shown =>
    intro shown
    have grouped : fields.toPhysical dimension ∈ query.dimensionColumns fields :=
      Query.mem_dimensionColumns_iff.mpr ⟨dimension, listed, rfl⟩
    obtain ⟨index, own⟩ := List.getElem?_of_mem grouped
    obtain ⟨cell, held, reported⟩ :=
      Reconciler.record_get?_dimension outputNames functional rfl wide recorded listed own shown
    refine ⟨_, cell, ?_, held, reported⟩
    rw [← Query.statement_columns_getElem?_dimension stated own, leading]

/-- The number of rows of each region and value of another dimension. -/
def Query.rowsByRegionAnd (other : String) : Query where
  dataSource := "sales"
  dimensions := ["region", other]
  aggregations := [.count "rows"]

/-- A row of a region without a country, which is a column of its own. -/
theorem Reconciler.dimensions_read_back_of_country :
    let query := Query.rowsByRegionAnd "country"
    let fields := FieldMap.ofTable .sales
    let cells : List Cell := [.text "US", .null, .integer 3]
    (Table.sales.columns.map Column.name).Nodup ∧
      ∃ compiled, query.compile .sales fields .mysql .sql = .ok compiled ∧
        let reconciler : Reconciler :=
          { query, fields, bucketing := compiled.bucketing, mode := compiled.mode }
        ∃ bound next, reconciler.bind ["region_cd", "country", "rows"] = .ok bound ∧
          bound.push cells = .ok next ∧
          ∃ record, next.records = [record] ∧
            (∀ dimension ∈ ["region", "country"],
              compiled.ReportsDimension query fields cells record dimension) ∧
            ¬ query.Hides fields "region" ∧ ¬ query.Hides fields "country" := by
  intro query fields cells
  have distinct : (Table.sales.columns.map Column.name).Nodup := by decide
  refine ⟨distinct, _, rfl, _, _, rfl, rfl, ?_⟩
  obtain ⟨names, bound, named, columnsBound, rows⟩ :=
    Reconciler.dimensions_read_back query .sales distinct .mysql .sql _ rfl
  have sameNames : ["region_cd", "country", "rows"].map some = names.map some := named
  obtain rfl := (List.map_inj_right fun _ _ => Option.some.inj).mp sameNames
  cases columnsBound
  obtain ⟨record, added, reports⟩ := rows [] cells _ rfl rfl
  exact ⟨record, congrArg Reconciler.records added, reports, by decide, by decide⟩

/-- The region's column, asked for beside the region, does not come back. -/
theorem Reconciler.region_column_not_read_back :
    let query := Query.rowsByRegionAnd "region_cd"
    let fields := FieldMap.ofTable .sales
    (Table.sales.columns.map Column.name).Nodup ∧ "region_cd" ∈ query.groupingDimensions ∧
      ∃ compiled, query.compile .sales fields .ansi .sql = .ok compiled ∧
        compiled.statement.columns.map Projection.name? = [some "region_cd", some "rows"] ∧
        let reconciler : Reconciler :=
          { query, fields, bucketing := compiled.bucketing, mode := compiled.mode }
        ∃ bound next, reconciler.bind ["region_cd", "rows"] = .ok bound ∧
          bound.push [.text "US", .integer 3] = .ok next ∧
          ∃ record, next.records = [record] ∧ record.get? "region_cd" = none := by
  intro query fields
  exact ⟨by decide, by decide, _, rfl, rfl, _, _, rfl, rfl, _, rfl, rfl⟩

end Rollup
