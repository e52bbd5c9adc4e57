import Mathlib.Data.List.Nodup
import Rollup.Proofs.Plan.Modes

/-!
# Columns told apart

The time columns of a statement have different names, and so have the columns behind them:
dimensions that share a physical column share a projection, and the names of outputs are
checked against each other and against the names of grouping columns.  Grouping columns are
not checked against each other.  So a name stands for two columns where a dimension lies in a
physical column that is called like a time column, and for one everywhere else.
-/

namespace Rollup

theorem Granularity.nodup_timeColumnNames (granularity : Granularity) :
    granularity.timeColumnNames.Nodup := by
  cases granularity <;> decide

namespace Query

open Sql

variable {query : Query} {table : Table} {fields : FieldMap} {dialect : Dialect}
  {mode : PostAggregationMode} {statement : Select}

/-- The names of the columns of a statement: time columns, dimensions, outputs. -/
def columnNames (query : Query) (fields : FieldMap) (mode : PostAggregationMode) : List String :=
  query.granularity.timeColumnNames ++ query.rowColumns fields mode

/-- A name of an output column is no name of a dimension's column or of a time column. -/
theorem HasOutputNames.not_mem_grouping (names : query.HasOutputNames fields) {name : String}
    (placed : name ∈ query.aggregationNames ++ query.computedNames mode) :
    name ∉ query.dimensionColumns fields ∧ name ∉ query.granularity.timeColumnNames := by
  have apart := names.apart name (output_of_column placed)
  exact ⟨fun grouped => apart (mem_groupingNames_of_column grouped),
    fun timed => apart (List.mem_append_right _ timed)⟩

theorem HasOutputNames.nodup_rowColumns (names : query.HasOutputNames fields)
    (mode : PostAggregationMode) : (query.rowColumns fields mode).Nodup := by
  refine List.nodup_append.mpr
    ⟨query.nodup_dimensionColumns fields, names.distinctColumns mode, ?_⟩
  rintro column grouped _ placed rfl
  exact (names.not_mem_grouping placed).1 grouped

/-- Behind the time columns, only the column of a dimension can be called like one of
them. -/
theorem HasOutputNames.mem_rowColumns_iff (names : query.HasOutputNames fields) {name : String}
    (timed : name ∈ query.granularity.timeColumnNames) :
    name ∈ query.rowColumns fields mode ↔ name ∈ query.dimensionColumns fields := by
  rw [rowColumns, List.mem_append, or_iff_left]
  exact fun placed => (names.not_mem_grouping placed).2 timed

/-- How many columns a name stands for. -/
theorem HasOutputNames.count_columnNames (names : query.HasOutputNames fields) {name : String}
    (listed : name ∈ query.columnNames fields mode) :
    (query.columnNames fields mode).count name =
      if name ∈ query.granularity.timeColumnNames ∧ name ∈ query.dimensionColumns fields then 2
      else 1 := by
  have inTime := query.granularity.nodup_timeColumnNames.count (a := name)
  have inRow := (names.nodup_rowColumns mode).count (a := name)
  rw [columnNames, List.count_append, inTime, inRow]
  by_cases timed : name ∈ query.granularity.timeColumnNames
  · by_cases grouped : name ∈ query.dimensionColumns fields
    · simp [timed, grouped, names.mem_rowColumns_iff timed]
    · simp [timed, grouped, names.mem_rowColumns_iff timed]
  · have behind : name ∈ query.rowColumns fields mode :=
      (List.mem_append.mp listed).resolve_left timed
    simp [timed, behind]

theorem HasOutputNames.nodup_columnNames_iff (names : query.HasOutputNames fields) :
    (query.columnNames fields mode).Nodup ↔
      ∀ dimension ∈ query.groupingDimensions,
        fields.toPhysical dimension ∉ query.granularity.timeColumnNames := by
  rw [columnNames, List.nodup_append]
  constructor
  · rintro ⟨_, _, apart⟩ dimension grouped timed
    have column : fields.toPhysical dimension ∈ query.dimensionColumns fields :=
      mem_dimensionColumns_iff.mpr ⟨dimension, grouped, rfl⟩
    exact apart _ timed _ ((names.mem_rowColumns_iff timed).mpr column) rfl
  · intro apart
    refine ⟨query.granularity.nodup_timeColumnNames, names.nodup_rowColumns mode, ?_⟩
    rintro name timed _ behind rfl
    obtain ⟨dimension, grouped, rfl⟩ :=
      mem_dimensionColumns_iff.mp ((names.mem_rowColumns_iff timed).mp behind)
    exact apart dimension grouped timed

/-- Every column of a statement has a name, a statement around another one giving the columns
of that one and those of its own.  A name stands for two columns if it is that of a time
column and of the physical column of a dimension, and otherwise for one.  So the columns are
told apart by their names exactly where no dimension lies in a physical column that is called
like a time column of the query. -/
theorem columns_told_apart
    (compiled : query.statement table fields dialect mode = .ok statement) :
    ∃ names : List String, statement.columns.map Projection.name? = names.map some ∧
      (∀ name ∈ names, names.count name =
        if name ∈ query.granularity.timeColumnNames ∧ name ∈ query.dimensionColumns fields then 2
        else 1) ∧
      (names.Nodup ↔ ∀ dimension ∈ query.groupingDimensions,
        fields.toPhysical dimension ∉ query.granularity.timeColumnNames) := by
  have names := (statement_columns compiled).1
  exact ⟨query.columnNames fields mode, statement_names compiled,
    fun name listed => names.count_columnNames listed, names.nodup_columnNames_iff⟩

/-- The columns of the statement inside and the average around it are told apart. -/
theorem columns_told_apart_of_topDailyAverages :
    let table : Table := ⟨"sales", "sales", "ts", [⟨"region", some "region_cd"⟩]⟩
    let fields := FieldMap.ofTable table
    ∃ statement, topDailyAverages.statement table fields .sqlite .sql = .ok statement ∧
      ∃ names : List String, statement.columns.map Projection.name? = names.map some ∧
        names = ["__year", "__dayofyear", "region_cd", "rows", "total", "average"] ∧
        names.Nodup := by
  intro table fields
  have compiled : topDailyAverages.statement table fields .sqlite .sql = .ok _ := rfl
  obtain ⟨names, columns, _, apart⟩ := columns_told_apart compiled
  refine ⟨_, compiled, names, columns, ?_, apart.mpr (by decide)⟩
  exact List.map_injective_iff.mpr (fun _ _ => Option.some.inj) columns.symm

/-- The totals of each calendar year and each fiscal year. -/
def fiscalTotals : Query where
  dataSource := "sales"
  dimensions := ["fiscal_year"]
  granularity := .year
  aggregations := [.ofField .longSum "total" "amount"]

/-- A fiscal year in a column that is called like the time column of years is not told apart
from the calendar year, and the one sort by the name they share stands for both. -/
theorem fiscal_year_not_told_apart :
    let table : Table := ⟨"sales", "sales", "ts", [⟨"fiscal_year", some "__year"⟩]⟩
    ∃ statement, fiscalTotals.statement table (FieldMap.ofTable table) .ansi .sql = .ok statement ∧
      statement.columns.map Projection.name? = [some "__year", some "__year", some "total"] ∧
      ¬ (statement.columns.map Projection.name?).Nodup ∧
      statement.order.map SortKey.expr = [.column "__year"] := by
  refine ⟨_, rfl, rfl, ?_, rfl⟩
  decide

end Query

end Rollup
