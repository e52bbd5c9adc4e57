import Mathlib.Data.List.Chain
import Rollup.Proofs.Plan.Sorting
import Rollup.Proofs.Result.Calls
import Rollup.Proofs.Result.Record
import Rollup.Proofs.Time.Order

/-!
# Timeseries

A timeseries groups by time only, and without an explicit sort it is sorted by the time columns,
the coarsest part first.  So rows that come in the order of the statement give records in the
order of time, no two of them for the same bucket.
-/

namespace Rollup

open Sql

namespace Query

variable {query : Query} {table : Table} {fields : FieldMap} {dialect : Dialect}
  {mode : PostAggregationMode} {statement : Select}

/-- A timeseries that has a statement groups by no dimension. -/
theorem groupingDimensions_of_timeseries (timeseries : query.type = .timeseries)
    (compiled : query.statement table fields dialect mode = .ok statement) :
    query.groupingDimensions = [] := by
  obtain ⟨inner, compiledInner, _⟩ := statement_eq_or_isAround compiled
  have checked := (aggregateStatement_eq_ok_iff.mp compiledInner).1
  simp only [check, andThen_eq_ok_iff, checkType, timeseries] at checked
  have none : query.dimensions.isEmpty = true := by
    by_contra some
    rw [if_neg some] at checked
    cases checked.1
  simpa [groupingDimensions, timeseries] using none

/-- Without dimensions and an explicit sort, a statement is sorted by its time columns. -/
theorem order_of_timeColumns (ungrouped : query.groupingDimensions = [])
    (unsorted : query.sortColumns = [])
    (compiled : query.statement table fields dialect mode = .ok statement) :
    statement.order = query.granularity.timeColumnNames.map fun column =>
      { expr := .column column, direction := .ascending } := by
  have explicit : query.explicitSorts fields = [] := by rw [explicitSorts, unsorted, List.map_nil]
  have sorted : query.sortedColumns fields = query.granularity.timeColumnNames := by
    rw [sortedColumns_eq, explicit, groupingColumns, ungrouped, List.map_nil, List.map_nil,
      List.nil_append, List.eraseDups_nil, List.nil_append]
    cases query.granularity <;> decide
  rw [(sortKeys_eq (sortKeys_of_statement compiled)).1, sorted]
  refine List.map_congr_left fun column _ => ?_
  rw [directionOf, explicit]
  rfl

end Query

namespace Reconciler

variable {reconciler : Reconciler}

/-- The records of some rows are put behind the others; a row without a record leaves none. -/
theorem records_leftBy_push (reconciler : Reconciler) (rows : List (List Cell)) :
    (reconciler.leftBy (rows.map .push)).records =
      reconciler.records ++ rows.filterMap fun row => (reconciler.recordOf row).toOption := by
  induction rows generalizing reconciler with
  | nil => exact (List.append_nil _).symm
  | cons row rest inductionHypothesis =>
      rw [List.map_cons, leftBy_cons, inductionHypothesis]
      cases made : reconciler.recordOf row with
      | ok record =>
          have taken : Call.next (.push row) reconciler =
              .ok { reconciler with records := reconciler.records ++ [record] } :=
            push_eq_ok_iff.mpr ⟨record, made, rfl⟩
          rw [leftBy_of_next taken, List.filterMap_cons_some (by rw [made]; rfl),
            List.append_assoc]
          rfl
      | error error =>
          have refused : Call.next (.push row) reconciler = .error error := by
            rw [Call.next, push, made]
            rfl
          rw [leftBy_of_error refused, List.filterMap_cons_none (by rw [made]; rfl)]

@[simp]
theorem timeValues_integers (values : List Long) :
    timeValues (values.map Cell.integer) = .ok (values.map Int64.toInt) := by
  induction values with
  | nil => rfl
  | cons value rest inductionHypothesis =>
      rw [List.map_cons, timeValues, inductionHypothesis]
      rfl

/-- A row that begins with the integers of some parts has the start of their bucket. -/
theorem start_of_recordOf {cells : List Cell} {record : Record} {parts : List Long}
    (bound : reconciler.layout = some reconciler.roles)
    (timed : reconciler.bucketing.granularity.timeParts ≠ [])
    (counted : parts.length = reconciler.bucketing.timeColumnCount)
    (begins : parts.map Cell.integer <+: cells)
    (read : reconciler.recordOf cells = .ok record) :
    reconciler.bucketing.start (parts.map Int64.toInt) = .ok record.timestamp := by
  have stamped := record_timestamp bound read
  have taken : cells.take reconciler.bucketing.timeColumnCount = parts.map Cell.integer := by
    rw [← counted, ← List.length_map Cell.integer, ← List.prefix_iff_eq_take.mp begins]
  have inParts : reconciler.bucketing.granularity.groupsByTimestamp = false := by
    cases granularity : reconciler.bucketing.granularity with
    | none => exact absurd (congrArg Granularity.timeParts granularity) timed
    | _ => rfl
  rw [taken, timestamp, inParts, if_neg Bool.false_ne_true, timeValues_integers] at stamped
  exact stamped

/-- The numbers in the first cells of a row, where these are integers. -/
def leadingNumbers (count : Nat) (row : List Cell) : List Int :=
  (row.take count).map fun
    | .integer value => value.toInt
    | _ => 0

theorem leadingNumbers_eq {parts : List Long} {row : List Cell} {count : Nat}
    (counted : parts.length = count) (begins : parts.map Cell.integer <+: row) :
    leadingNumbers count row = parts.map Int64.toInt := by
  rw [leadingNumbers, ← counted, ← List.length_map Cell.integer,
    ← List.prefix_iff_eq_take.mp begins, List.map_map]
  rfl

/-- Rows in ascending order of their integer time cells give records in the order of time. -/
theorem pairwise_timestamps {rows : List (List Cell)} {keys : List SortKey}
    {order : Cell → Cell → Ordering} {others : List String}
    (bound : reconciler.layout = some reconciler.roles)
    (timed : reconciler.bucketing.granularity.timeParts ≠ [])
    (sorted : keys = reconciler.bucketing.granularity.timeColumnNames.map fun column =>
      { expr := .column column, direction := .ascending })
    (apart : (reconciler.bucketing.granularity.timeColumnNames ++ others).Nodup)
    (numeric : ∀ value other : Long,
      order (.integer value) (.integer other) = compare value.toInt other.toInt)
    (leading : ∀ row ∈ rows, ∃ parts : List Long,
      parts.length = reconciler.bucketing.timeColumnCount ∧ parts.map Cell.integer <+: row)
    (increasing : rows.IsChain fun row next =>
      compareRows order (reconciler.bucketing.granularity.timeColumnNames ++ others) row next
        keys = .lt) :
    (rows.filterMap fun row => (reconciler.recordOf row).toOption).Pairwise fun record next =>
      record.timestamp.isBefore next.timestamp = true := by
  have ascending : ∀ key ∈ keys, key.direction = .ascending := by
    rw [sorted]
    exact List.forall_mem_map.mpr fun _ _ => rfl
  have named : keys.map SortKey.expr =
      reconciler.bucketing.granularity.timeColumnNames.map Expr.column := by
    rw [sorted, List.map_map]
    rfl
  have chain : (rows.map (leadingNumbers reconciler.bucketing.timeColumnCount)).IsChain
      (· < ·) := by
    refine (List.isChain_map _).mpr (increasing.imp_of_mem_imp ?_)
    intro row next listed later before
    obtain ⟨parts, counted, begins⟩ := leading row listed
    obtain ⟨nextParts, nextCounted, nextBegins⟩ := leading next later
    rw [leadingNumbers_eq counted begins, leadingNumbers_eq nextCounted nextBegins]
    exact lt_of_compareRows ascending numeric
      (map_cell_of_begins named apart ((List.length_map _).trans counted) begins)
      (map_cell_of_begins named apart ((List.length_map _).trans nextCounted) nextBegins) before
  rw [List.pairwise_filterMap]
  refine (List.pairwise_map.mp chain.pairwise).imp_of_mem fun listed later ordered => ?_
  intro record made next nextMade
  obtain ⟨parts, counted, begins⟩ := leading _ listed
  obtain ⟨nextParts, nextCounted, nextBegins⟩ := leading _ later
  rw [leadingNumbers_eq counted begins, leadingNumbers_eq nextCounted nextBegins] at ordered
  exact Bucketing.isBefore_of_lt timed
    (start_of_recordOf bound timed counted begins (toOption_eq_some_iff.mp made))
    (start_of_recordOf bound timed nextCounted nextBegins (toOption_eq_some_iff.mp nextMade))
    ordered

/-- Greater parts are those of later buckets, whatever the size of the buckets.  So a timeseries
without an explicit sort, bound to the columns of its statement, gives records in the order of
time, each bucket no more than once, if its rows come in the order of the statement: if their time
cells are integers, which the engine orders as numbers, and each row comes strictly before the
next one.  Rows that cannot be read leave no record. -/
theorem timeseries_in_time_order :
    (∀ bucketing : Bucketing, bucketing.granularity.timeParts ≠ [] →
      ∀ values others start later, bucketing.start values = .ok start →
        bucketing.start others = .ok later → values < others → start.isBefore later = true) ∧
    ∀ (query : Query) table fields dialect mode compiled,
      query.compile table fields dialect mode = .ok compiled → query.type = .timeseries →
      query.granularity.timeParts ≠ [] → query.sortColumns = [] →
      let reconciler : Reconciler :=
        { query, fields, bucketing := compiled.bucketing, mode := compiled.mode }
      ∃ names : List String, compiled.statement.columns.map Projection.name? = names.map some ∧
        ∀ order : Cell → Cell → Ordering,
          (∀ value other : Long,
            order (.integer value) (.integer other) = compare value.toInt other.toInt) →
          ∀ rows : List (List Cell),
            (∀ row ∈ rows, ∃ parts : List Long,
              parts.length = compiled.bucketing.timeColumnCount ∧
                parts.map Cell.integer <+: row) →
            (rows.IsChain fun row next =>
              compareRows order names row next compiled.statement.order = .lt) →
            (reconciler.leftBy (.bind names :: rows.map .push)).records.Pairwise
              fun record next => record.timestamp.isBefore next.timestamp = true := by
  refine ⟨fun bucketing timed values others start later => Bucketing.isBefore_of_lt timed, ?_⟩
  intro query table fields dialect mode compiled compiles timeseries timed unsorted reconciler
  obtain ⟨stated, bucketing, _⟩ := Query.compile_eq_ok compiles
  obtain ⟨named, columnsBound⟩ := bind_of_compile compiles
  have ungrouped := Query.groupingDimensions_of_timeseries timeseries stated
  have apart : (query.granularity.timeColumnNames ++ query.rowColumns fields mode).Nodup := by
    refine (Query.statement_columns stated).1.nodup_columnNames_iff.mpr ?_
    rw [ungrouped]
    exact List.forall_mem_nil _
  refine ⟨_, named, fun order numeric rows leading increasing => ?_⟩
  let receiving : Reconciler := { reconciler with layout := some reconciler.roles }
  have sameSize : receiving.bucketing.granularity = query.granularity :=
    congrArg Bucketing.granularity bucketing
  have left : reconciler.leftBy [.bind (query.granularity.timeColumnNames ++
      query.rowColumns fields mode)] = receiving := leftBy_of_next columnsBound
  rw [leftBy_cons, left, records_leftBy_push, List.nil_append]
  rw [← sameSize] at timed apart increasing
  have sorted := Query.order_of_timeColumns ungrouped unsorted stated
  rw [← sameSize] at sorted
  exact pairwise_timestamps rfl timed sorted apart numeric leading increasing

/-- The totals of each week. -/
def weeklyTotals : Query where
  type := .timeseries
  dataSource := "sales"
  granularity := .week
  aggregations := [.ofField .longSum "total" "amount"]

/-- The first week of a year comes after the last one of the year before, which has the number 53
in it. -/
theorem timeseries_in_time_order_of_weeklyTotals :
    let table : Table := ⟨"sales", "sales", "ts", []⟩
    let order : Cell → Cell → Ordering := fun
      | .integer value, .integer other => compare value.toInt other.toInt
      | _, _ => .eq
    let rows : List (List Cell) := [[.integer 2020, .integer 52, .integer 5],
      [.integer 2020, .integer 53, .null], [.integer 2021, .integer 1, .integer 7]]
    ∃ compiled, weeklyTotals.compile table (.ofTable table) .mysql .direct = .ok compiled ∧
      (rows.IsChain fun row next => compareRows order ["__isoyear", "__isoweek", "total"] row next
        compiled.statement.order = .lt) ∧
      let reconciler : Reconciler :=
        { query := weeklyTotals, fields := .ofTable table, bucketing := compiled.bucketing,
          mode := compiled.mode }
      let records := (reconciler.leftBy
        (.bind ["__isoyear", "__isoweek", "total"] :: rows.map .push)).records
      records.map Record.timestamp =
          [.ofSecond 1608508800, .ofSecond 1609113600, .ofSecond 1609718400] ∧
        records.Pairwise fun record next => record.timestamp.isBefore next.timestamp = true := by
  intro table order rows
  obtain ⟨compiled, compiles⟩ : ∃ compiled,
      weeklyTotals.compile table (.ofTable table) .mysql .direct = .ok compiled := ⟨_, rfl⟩
  obtain ⟨stated, bucketing, mode⟩ := Query.compile_eq_ok compiles
  have increasing : rows.IsChain fun row next =>
      compareRows order ["__isoyear", "__isoweek", "total"] row next compiled.statement.order =
        .lt := by
    rw [Query.order_of_timeColumns rfl rfl stated]
    decide
  refine ⟨compiled, compiles, increasing, ?_, ?_⟩
  · rw [bucketing, mode]
    decide +kernel
  obtain ⟨names, named, ordered⟩ := timeseries_in_time_order.2 weeklyTotals table (.ofTable table)
    .mysql .direct compiled compiles rfl (by decide) rfl
  have sameNames : ["__isoyear", "__isoweek", "total"].map some = names.map some :=
    (Query.statement_names stated).symm.trans named
  obtain rfl := (List.map_inj_right fun _ _ => Option.some.inj).mp sameNames
  refine ordered order (fun _ _ => rfl) rows ?_ increasing
  rw [bucketing]
  refine List.forall_mem_cons.mpr ⟨⟨[2020, 52], rfl, [.integer 5], rfl⟩, ?_⟩
  refine List.forall_mem_cons.mpr ⟨⟨[2020, 53], rfl, [.null], rfl⟩, ?_⟩
  exact List.forall_mem_singleton.mpr ⟨[2021, 1], rfl, [.integer 7], rfl⟩

end Reconciler

end Rollup
