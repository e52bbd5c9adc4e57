import Rollup.Proofs.Plan.Columns
import Rollup.Proofs.Result.Layout

/-!
# Records of a compiled query

A row of a query's statement, read back under the names of its columns, gives a record of
exactly the fields that the query asks for: each aggregation is the cell of its own column,
and the timestamp is built from the time columns.
-/

namespace Rollup

open Sql

namespace Reconciler

variable {reconciler : Reconciler}

/-! ## Columns of a row -/

/-- The names of the columns of a query's statement behind the time columns. -/
def columns (reconciler : Reconciler) : List String :=
  reconciler.query.rowColumns reconciler.fields reconciler.mode

/-- The roles of the columns of a query's statement. -/
def roles (reconciler : Reconciler) : List ColumnRole :=
  List.replicate reconciler.bucketing.timeColumnCount .time ++
    reconciler.columns.map reconciler.roleOf

/-- The position of the column of an aggregation. -/
def aggregationPosition (reconciler : Reconciler) (index : Nat) : Nat :=
  reconciler.bucketing.timeColumnCount +
    (reconciler.query.dimensionColumns reconciler.fields).length + index

/-- The columns of a query's statement can be bound, and get their roles. -/
theorem bind_eq_ok {times : List String}
    (leading : times.length = reconciler.bucketing.timeColumnCount) :
    reconciler.bind (times ++ reconciler.columns) =
      .ok { reconciler with layout := some reconciler.roles } := by
  have wide : ¬ (times ++ reconciler.columns).length < reconciler.bucketing.timeColumnCount := by
    rw [List.length_append, leading]
    omega
  rw [bind, if_neg wide, layoutOf, ← leading, List.drop_left, roles, ← leading]

/-- The columns of a compiled query have names, by which they can be bound. -/
theorem bind_of_compile {query : Query} {table : Table} {fields : FieldMap} {dialect : Dialect}
    {mode : PostAggregationMode} {compiled : Compiled}
    (compiles : query.compile table fields dialect mode = .ok compiled) :
    let reconciler : Reconciler :=
      { query, fields, bucketing := compiled.bucketing, mode := compiled.mode }
    let names := query.granularity.timeColumnNames ++ query.rowColumns fields mode
    compiled.statement.columns.map Projection.name? = names.map some ∧
      reconciler.bind names = .ok { reconciler with layout := some reconciler.roles } := by
  intro reconciler names
  obtain ⟨stated, bucketing, sameMode⟩ := Query.compile_eq_ok compiles
  have leading : query.granularity.timeColumnNames.length =
      compiled.bucketing.timeColumnCount := by
    rw [bucketing]
    rfl
  have sameNames : names = query.granularity.timeColumnNames ++ reconciler.columns :=
    congrArg (query.granularity.timeColumnNames ++ query.rowColumns fields ·) sameMode.symm
  refine ⟨Query.statement_names stated, ?_⟩
  rw [sameNames]
  exact bind_eq_ok leading

section Columns

variable (names : reconciler.query.HasOutputNames reconciler.fields)
include names

/-- A column behind the time columns is reported under dimensions of the query, or is an
output reported under its own name. -/
theorem names_of_column {column : String} (placed : column ∈ reconciler.columns) :
    (reconciler.roleOf column).names ⊆ reconciler.query.groupingDimensions ∨
      (reconciler.roleOf column).names = [column] ∧
        column ∈ reconciler.query.aggregationNames ++
          reconciler.query.computedNames reconciler.mode := by
  rcases List.mem_append.mp placed with grouped | output
  · rw [roleOf_dimension names grouped]
    exact .inl (dimensionNames_subset grouped)
  · exact .inr ⟨names_roleOf_output (Query.output_of_column output), output⟩

/-- Only the column of an aggregation is reported under the name of the aggregation. -/
theorem position_of_aggregation {name : String} {index other : Nat} {role : ColumnRole}
    (listed : reconciler.query.aggregationNames[index]? = some name)
    (placed : reconciler.roles[other]? = some role) (named : name ∈ role.names) :
    other = reconciler.aggregationPosition index := by
  have aggregated : name ∈ reconciler.query.aggregationNames := List.mem_of_getElem? listed
  by_cases leading : other < reconciler.bucketing.timeColumnCount
  · rw [roles, List.getElem?_append_left (by rw [List.length_replicate]; exact leading),
      List.getElem?_replicate, if_pos leading] at placed
    cases placed
    cases named
  · rw [Nat.not_lt] at leading
    rw [roles, List.getElem?_append_right (by rw [List.length_replicate]; exact leading),
      List.length_replicate, List.getElem?_map] at placed
    obtain ⟨column, found, rfl⟩ := Option.map_eq_some_iff.mp placed
    have same : name = column := by
      rcases names_of_column names (List.mem_of_getElem? found) with grouped | ⟨own, _⟩
      · exact absurd (Query.mem_groupingNames_of_dimension (grouped named))
          (names.apart name (List.mem_append_left _ aggregated))
      · rw [own] at named
        exact List.mem_singleton.mp named
    rw [← same] at found
    have position := names.column_of_aggregation listed found
    rw [aggregationPosition]
    omega

/-- The column of an aggregation has its role. -/
theorem role_of_aggregation {index : Nat} {aggregation : Aggregation}
    (listed : reconciler.query.aggregations[index]? = some aggregation) :
    reconciler.roles[reconciler.aggregationPosition index]? =
      some (.aggregation aggregation.name aggregation.kind.isFloat) := by
  have found := Query.aggregation?_of_mem (List.nodup_append.mp names.distinct).1
    (List.mem_of_getElem? listed)
  have behind : (List.replicate reconciler.bucketing.timeColumnCount ColumnRole.time).length ≤
      reconciler.bucketing.timeColumnCount +
        ((reconciler.query.dimensionColumns reconciler.fields).length + index) := by
    rw [List.length_replicate]
    exact Nat.le_add_right _ _
  rw [← roleOf_aggregation found, aggregationPosition, Nat.add_assoc, roles,
    List.getElem?_append_right behind, List.length_replicate, Nat.add_sub_cancel_left,
    List.getElem?_map, columns,
    Query.rowColumns_getElem? (Query.aggregationNames_getElem? listed), Option.map_some]

end Columns

/-! ## Records of rows -/

/-- A record consists of the fields of its row, the post-aggregations computed from the row,
and the timestamp of its time cells. -/
theorem recordOf_eq_ok {cells : List Cell} {layout : List ColumnRole} {record : Record}
    (bound : reconciler.layout = some layout) (read : reconciler.recordOf cells = .ok record) :
    ∃ values entries, RowValues.addAll {} (layout.zip cells) = .ok values ∧
      entries.map Prod.fst = reconciler.query.remainingNames reconciler.mode ∧
      record.fields = values.fields.putAll entries ∧
      timestamp reconciler.bucketing values.times = .ok record.timestamp := by
  rw [recordOf, bound] at read
  simp only [check_eq_ok_iff] at read
  obtain ⟨_, read⟩ := read
  obtain ⟨values, added, read⟩ := bind_eq_ok_iff.mp read
  cases mode : reconciler.mode with
  | sql =>
      rw [mode] at read
      obtain ⟨fields, computed, read⟩ := bind_eq_ok_iff.mp read
      obtain ⟨start, stamped, built⟩ := bind_eq_ok_iff.mp read
      cases computed
      cases built
      exact ⟨values, [], added, rfl, rfl, stamped⟩
  | direct =>
      rw [mode] at read
      obtain ⟨fields, computed, read⟩ := bind_eq_ok_iff.mp read
      obtain ⟨start, stamped, built⟩ := bind_eq_ok_iff.mp read
      cases built
      obtain ⟨entries, entryNames, put⟩ := putPostAggregations_eq_ok computed
      exact ⟨values, entries, added, entryNames, put, stamped⟩

section Rows

variable {cells : List Cell} {record : Record}
variable (names : reconciler.query.HasOutputNames reconciler.fields)
  (bound : reconciler.layout = some reconciler.roles)
  (wide : cells.length = reconciler.roles.length)
  (read : reconciler.recordOf cells = .ok record)

include wide in
theorem mem_zip_roles_iff {name : String} :
    (∃ column ∈ reconciler.roles.zip cells, name ∈ column.1.names) ↔
      ∃ column ∈ reconciler.columns, name ∈ (reconciler.roleOf column).names := by
  constructor
  · rintro ⟨⟨role, cell⟩, member, named⟩
    rcases List.mem_append.mp (List.of_mem_zip member).1 with time | behind
    · rw [List.eq_of_mem_replicate time] at named
      cases named
    · obtain ⟨column, placed, rfl⟩ := List.mem_map.mp behind
      exact ⟨column, placed, named⟩
  · rintro ⟨column, placed, named⟩
    have member : reconciler.roleOf column ∈ (reconciler.roles.zip cells).map Prod.fst := by
      rw [List.map_fst_zip (Nat.le_of_eq wide.symm)]
      exact List.mem_append_right _ (List.mem_map_of_mem placed)
    obtain ⟨pair, paired, same⟩ := List.mem_map.mp member
    exact ⟨pair, paired, same ▸ named⟩

include bound wide read in
/-- The fields of a record are those of its columns and the post-aggregations that the
engine has not computed. -/
theorem mem_names_record_iff {name : String} :
    name ∈ record.fields.names ↔
      name ∈ reconciler.query.remainingNames reconciler.mode ∨
        ∃ column ∈ reconciler.columns, name ∈ (reconciler.roleOf column).names := by
  obtain ⟨values, entries, added, entryNames, fields, _⟩ := recordOf_eq_ok bound read
  rw [fields, Fields.mem_names_putAll_iff, entryNames, RowValues.mem_names_addAll_iff added,
    mem_zip_roles_iff wide]
  simp [Fields.names]

include bound wide read in
/-- A record has every output. -/
theorem output_mem_record {name : String}
    (output : name ∈ reconciler.query.aggregationNames ++ reconciler.query.postAggregationNames) :
    name ∈ record.fields.names := by
  rw [mem_names_record_iff bound wide read]
  have own : name ∈ (reconciler.roleOf name).names := by
    rw [names_roleOf_output output]
    exact List.mem_singleton_self name
  rcases List.mem_append.mp output with aggregated | reported
  · exact .inr ⟨name, List.mem_append_right _ (List.mem_append_left _ aggregated), own⟩
  · rcases (Query.mem_postAggregationNames_iff reconciler.mode).mp reported with
      computed | remaining
    · exact .inr ⟨name, List.mem_append_right _ (List.mem_append_right _ computed), own⟩
    · exact .inl remaining

include names bound wide read in
/-- A record has no fields but outputs and dimensions of the query. -/
theorem record_names_subset :
    record.fields.names ⊆ reconciler.query.groupingDimensions ++
      (reconciler.query.aggregationNames ++ reconciler.query.postAggregationNames) := by
  intro name field
  rcases (mem_names_record_iff bound wide read).mp field with remaining | ⟨column, placed, named⟩
  · exact List.mem_append_right _ (List.mem_append_right _
      ((Query.mem_postAggregationNames_iff reconciler.mode).mpr (.inr remaining)))
  · rcases names_of_column names placed with grouped | ⟨own, output⟩
    · exact List.mem_append_left _ (grouped named)
    · rw [own] at named
      obtain rfl := List.mem_singleton.mp named
      exact List.mem_append_right _ (Query.output_of_column output)

include names wide in
/-- The field and the text of an aggregation are those of the cell in its own column. -/
theorem exists_cell_of_aggregation {values : RowValues}
    (added : RowValues.addAll {} (reconciler.roles.zip cells) = .ok values)
    {index : Nat} {aggregation : Aggregation}
    (listed : reconciler.query.aggregations[index]? = some aggregation) :
    ∃ cell value, cells[reconciler.aggregationPosition index]? = some cell ∧
      cell.toAggregate aggregation.kind.isFloat = .ok value ∧
      values.fields.get? aggregation.name = some value ∧
      values.text? aggregation.name = cell.text? := by
  have role := role_of_aggregation names listed
  have within := (List.getElem?_eq_some_iff.mp role).1
  obtain ⟨cell, held⟩ : ∃ cell, cells[reconciler.aggregationPosition index]? = some cell :=
    ⟨_, List.getElem?_eq_getElem (wide ▸ within)⟩
  have placed : (reconciler.roles.zip cells)[reconciler.aggregationPosition index]? =
      some (.aggregation aggregation.name aggregation.kind.isFloat, cell) :=
    List.getElem?_zip_eq_some.mpr ⟨role, held⟩
  have alone : ∀ other column, (reconciler.roles.zip cells)[other]? = some column →
      aggregation.name ∈ column.1.names → other = reconciler.aggregationPosition index :=
    fun _ _ found => position_of_aggregation names (Query.aggregationNames_getElem? listed)
      (List.getElem?_zip_eq_some.mp found).1
  obtain ⟨value, coerced, put⟩ := RowValues.get?_addAll_of_aggregation added placed alone
  exact ⟨cell, value, held, coerced, put,
    RowValues.text?_addAll_of_aggregation added placed alone⟩

include names bound wide read in
/-- The field of an aggregation is the cell in its own column, coerced. -/
theorem record_get?_aggregation {index : Nat} {aggregation : Aggregation}
    (listed : reconciler.query.aggregations[index]? = some aggregation) :
    ∃ cell value, cells[reconciler.aggregationPosition index]? = some cell ∧
      cell.toAggregate aggregation.kind.isFloat = .ok value ∧
      record.get? aggregation.name = some value := by
  obtain ⟨values, entries, added, entryNames, fields, _⟩ := recordOf_eq_ok bound read
  have named := Query.aggregationNames_getElem? listed
  obtain ⟨cell, value, held, coerced, put, _⟩ := exists_cell_of_aggregation names wide added listed
  have notComputed : aggregation.name ∉ entries.map Prod.fst := by
    rw [entryNames]
    intro remaining
    exact (List.nodup_append.mp names.distinct).2.2 _ (List.mem_of_getElem? named) _
      ((Query.mem_postAggregationNames_iff reconciler.mode).mpr (.inr remaining)) rfl
  refine ⟨cell, value, held, coerced, ?_⟩
  rw [Record.get?, fields, Fields.get?_putAll_of_not_mem notComputed, put]

include bound read in
/-- A record is stamped with the bucket of its first cells, one for each time column. -/
theorem record_timestamp :
    timestamp reconciler.bucketing (cells.take reconciler.bucketing.timeColumnCount) =
      .ok record.timestamp := by
  obtain ⟨values, _, added, _, _, stamped⟩ := recordOf_eq_ok bound read
  rw [RowValues.times_addAll added, roles, times_of_layout] at stamped
  exact stamped

end Rows

end Reconciler

/-! ## Rows of a compiled query -/

/-- A record reports a row of a compiled query: it has the outputs, no other field that is
not a dimension, the cell of each aggregation's own column under its name, and the bucket
of the time cells. -/
structure Compiled.Reports (compiled : Compiled) (query : Query) (table : Table)
    (fields : FieldMap) (dialect : Dialect) (cells : List Cell) (record : Record) : Prop where
  outputs : ∀ name ∈ query.aggregationNames ++ query.postAggregationNames,
    name ∈ record.fields.names
  nothingElse : record.fields.names ⊆ query.groupingDimensions ++
    (query.aggregationNames ++ query.postAggregationNames)
  aggregations : ∀ index aggregation, query.aggregations[index]? = some aggregation →
    ∃ position aggregate cell value, Query.aggregate fields aggregation = .ok aggregate ∧
      position = compiled.bucketing.timeColumnCount + (query.dimensionColumns fields).length +
        index ∧
      compiled.statement.columns[position]? =
        some (.expr (dialect.projectAggregate aggregate.call aggregation.kind.isFloat)
          (some aggregation.name)) ∧
      cells[position]? = some cell ∧ cell.toAggregate aggregation.kind.isFloat = .ok value ∧
      record.get? aggregation.name = some value ∧ (cell = .null → value = .null)
  timeColumns : compiled.statement.columns.take compiled.bucketing.timeColumnCount =
    query.timeProjections dialect (dialect.timestampColumn (.column table.timestampColumn))
  timestamp : Reconciler.timestamp compiled.bucketing
    (cells.take compiled.bucketing.timeColumnCount) = .ok record.timestamp

/-- A reconciler whose columns are those of a statement reads every row of it back. -/
theorem Compiled.reports_of_recordOf {compiled : Compiled} {table : Table} {dialect : Dialect}
    {reconciler : Reconciler} {cells : List Cell} {record : Record}
    (stated : reconciler.query.statement table reconciler.fields dialect reconciler.mode =
      .ok compiled.statement)
    (bucketing : reconciler.bucketing = compiled.bucketing)
    (leading : reconciler.query.granularity.timeColumnNames.length =
      reconciler.bucketing.timeColumnCount)
    (bound : reconciler.layout = some reconciler.roles)
    (wide : cells.length = reconciler.roles.length)
    (read : reconciler.recordOf cells = .ok record) :
    compiled.Reports reconciler.query table reconciler.fields dialect cells record := by
  have names := (Query.statement_columns stated).1
  refine ⟨?outputs, ?nothingElse, ?aggregations, ?timeColumns, ?timestamp⟩
  case outputs =>
    intro name output
    exact Reconciler.output_mem_record bound wide read output
  case nothingElse => exact Reconciler.record_names_subset names bound wide read
  case aggregations =>
    intro index aggregation listed
    obtain ⟨aggregate, compiledAggregate, placed⟩ :=
      Query.statement_columns_getElem? stated listed
    obtain ⟨cell, value, held, coerced, reported⟩ :=
      Reconciler.record_get?_aggregation names bound wide read listed
    rw [leading, bucketing] at placed
    rw [Reconciler.aggregationPosition, bucketing] at held
    refine ⟨_, aggregate, cell, value, compiledAggregate, rfl, placed, held, coerced, reported, ?_⟩
    rintro rfl
    exact Cell.eq_null_of_toAggregate coerced
  case timeColumns =>
    rw [← bucketing, ← leading]
    exact Query.statement_columns_take stated
  case timestamp =>
    rw [← bucketing]
    exact Reconciler.record_timestamp bound read

/-- The columns of a compiled query have names and can be bound by them.  However many rows
came before, every row with one cell for each column that is taken adds one record, which
reports it. -/
theorem Reconciler.rows_read_back (query : Query) (table : Table) (fields : FieldMap)
    (dialect : Dialect) (mode : PostAggregationMode) (compiled : Compiled)
    (compiles : query.compile table fields dialect mode = .ok compiled) :
    let reconciler : Reconciler :=
      { query, fields, bucketing := compiled.bucketing, mode := compiled.mode }
    ∃ names bound, compiled.statement.columns.map Projection.name? = names.map some ∧
      reconciler.bind names = .ok bound ∧
      ∀ records cells next, cells.length = names.length →
        ({ bound with records } : Reconciler).push cells = .ok next →
        ∃ record, next = { bound with records := records ++ [record] } ∧
          compiled.Reports query table fields dialect cells record := by
  intro reconciler
  obtain ⟨stated, bucketing, sameMode⟩ := Query.compile_eq_ok compiles
  rw [← sameMode] at stated
  have leading : query.granularity.timeColumnNames.length =
      compiled.bucketing.timeColumnCount := by
    rw [bucketing]
    rfl
  refine ⟨query.granularity.timeColumnNames ++ reconciler.columns,
    { reconciler with layout := some reconciler.roles }, Query.statement_names stated,
    Reconciler.bind_eq_ok leading, ?_⟩
  intro records cells next width pushed
  let receiving : Reconciler := { reconciler with layout := some reconciler.roles, records }
  obtain ⟨record, read, built⟩ := bind_eq_ok_iff.mp pushed
  cases built
  have wide : cells.length = receiving.roles.length := by
    rw [width, List.length_append, leading, Reconciler.roles, List.length_append,
      List.length_replicate, List.length_map]
    rfl
  have recorded : receiving.recordOf cells = .ok record := read
  exact ⟨record, rfl, Compiled.reports_of_recordOf stated rfl leading rfl wide recorded⟩

/-- The daily average of the amounts of each region. -/
def Query.dailyAverage : Query where
  dataSource := "sales"
  dimensions := ["region"]
  granularity := .day
  aggregations := [.count "rows", .ofField .longSum "total" "amount"]
  postAggregations := [.arithmetic "average" .divide [.field "total", .field "rows"]]

/-- Sales by region, whose column has another name. -/
def Table.sales : Table where
  name := "sales"
  relation := "sales"
  columns := [⟨"region", some "region_cd"⟩]

/-- A row of one day and region, whose amounts are all absent. -/
theorem Reconciler.rows_read_back_of_dailyAverage :
    let fields := FieldMap.ofTable .sales
    let cells : List Cell := [.integer 2024, .integer 60, .text "US", .integer 3, .null, .null]
    ∃ compiled, Query.dailyAverage.compile .sales fields .sqlite .sql = .ok compiled ∧
      let reconciler : Reconciler :=
        { query := .dailyAverage, fields, bucketing := compiled.bucketing, mode := compiled.mode }
      ∃ names bound, compiled.statement.columns.map Projection.name? = names.map some ∧
        reconciler.bind names = .ok bound ∧
        ∃ next, bound.push cells = .ok next ∧
          ∃ record, next.records = [record] ∧
            compiled.Reports .dailyAverage .sales fields .sqlite cells record := by
  refine ⟨_, rfl, ["__year", "__dayofyear", "region_cd", "rows", "total", "average"], _, rfl, rfl,
    _, rfl, ?_⟩
  obtain ⟨names, bound, named, columnsBound, rows⟩ :=
    Reconciler.rows_read_back .dailyAverage .sales (.ofTable .sales) .sqlite .sql _ rfl
  have sameNames : ["__year", "__dayofyear", "region_cd", "rows", "total", "average"].map some =
      names.map some := named
  obtain rfl := (List.map_inj_right fun _ _ => Option.some.inj).mp sameNames
  cases columnsBound
  obtain ⟨record, added, reports⟩ :=
    rows [] [.integer 2024, .integer 60, .text "US", .integer 3, .null, .null] _ rfl rfl
  exact ⟨record, congrArg Reconciler.records added, reports⟩

end Rollup
