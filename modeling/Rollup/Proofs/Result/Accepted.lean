import Rollup.Proofs.Formula.Faults
import Rollup.Proofs.Plan.AggregatesOnly
import Rollup.Proofs.Result.Computed

/-!
# Rows that are accepted

A reconciler that computes post-aggregations refuses some rows that it takes for the same
query without them.  Whatever is read as an aggregate has a text, and each text but those of
truth values is read back as a number: longs, doubles, and texts that were read as either.  So
a row is refused for its post-aggregations exactly if one of them refers to an aggregation whose
cell holds a truth value.
-/

namespace Rollup

open Sql

/-! ## Cells that are read twice -/

namespace Cell

/-- A text that is read as an aggregate is that of a number. -/
theorem exists_ofText?_of_toAggregate {isFloat : Bool} {shown : String} {value : Json}
    (coerced : (Cell.text shown).toAggregate isFloat = .ok value) :
    ∃ number, Number.ofText? shown = some number := by
  cases long : Long.ofText? (Text.trim shown.toList) with
  | some whole => exact ⟨.integer whole, by simp only [Number.ofText?, long]⟩
  | none =>
      cases double : Double.ofText? (Text.trim shown.toList) with
      | some nearest =>
          exact ⟨.float nearest, by simp [Number.ofText?, long, double]⟩
      | none =>
          cases isFloat
          all_goals simp [toAggregate, toLong, toDouble, long, double, Except.map] at coerced

/-- A cell that is read as an aggregate is absent or has the text of a number, unless it holds
a truth value. -/
theorem reads_iff_of_toAggregate {cell : Cell} {isFloat : Bool} {value : Json}
    (coerced : cell.toAggregate isFloat = .ok value) :
    (∀ text, cell.text? = some text → ∃ number, Number.ofText? text = some number) ↔
      ¬ ∃ truth, cell = .boolean truth := by
  have numbers (numeric : cell.IsNumeric) :
      ∀ text, cell.text? = some text → ∃ number, Number.ofText? text = some number := by
    intro text shown
    rcases text?_of_isNumeric numeric with ⟨absent, _⟩ | ⟨_, number, present, read, _⟩
    · cases absent.symm.trans shown
    · cases present.symm.trans shown
      exact ⟨number, read⟩
  cases cell with
  | null => exact iff_of_true (numbers trivial) fun ⟨_, same⟩ => by cases same
  | integer value => exact iff_of_true (numbers trivial) fun ⟨_, same⟩ => by cases same
  | float value => exact iff_of_true (numbers trivial) fun ⟨_, same⟩ => by cases same
  | text shown =>
      refine iff_of_true (fun text same => ?_) fun ⟨_, same⟩ => by cases same
      cases same
      exact exists_ofText?_of_toAggregate coerced
  | boolean truth =>
      refine iff_of_false (fun read => ?_) fun notBoolean => notBoolean ⟨truth, rfl⟩
      obtain ⟨number, found⟩ := read _ rfl
      have unread : Number.ofText? (Cell.boolean truth).display = none := by
        cases truth <;> decide
      cases unread.symm.trans found

end Cell

namespace Reconciler

variable {reconciler : Reconciler}

/-! ## Post-aggregations of a row -/

/-- Whether a row has a truth value in the column of an aggregation of a name. -/
def HasTruthFor (reconciler : Reconciler) (cells : List Cell) (name : String) : Prop :=
  ∃ index aggregation truth, reconciler.query.aggregations[index]? = some aggregation ∧
    aggregation.name = name ∧
    cells[reconciler.aggregationPosition index]? = some (.boolean truth)

section Rows

variable {cells : List Cell} {values : RowValues}
variable (names : reconciler.query.HasOutputNames reconciler.fields)

section Values

variable (wide : cells.length = reconciler.roles.length)
  (added : RowValues.addAll {} (reconciler.roles.zip cells) = .ok values)
include names wide added

/-- The text of an aggregation is read as a number, if there is one, unless the cell in its
column holds a truth value. -/
theorem reads_iff_of_listed {index : Nat} {aggregation : Aggregation}
    (listed : reconciler.query.aggregations[index]? = some aggregation) :
    ∃ cell, cells[reconciler.aggregationPosition index]? = some cell ∧
      (Number.arithmetic.Reads values.text? aggregation.name ↔
        ¬ ∃ truth, cell = .boolean truth) := by
  obtain ⟨cell, _, held, coerced, _, shown⟩ := exists_cell_of_aggregation names wide added listed
  refine ⟨cell, held, ?_⟩
  rw [Arithmetic.Reads, shown]
  exact Cell.reads_iff_of_toAggregate coerced

theorem reads_iff {name : String} (known : (reconciler.query.aggregation? name).isSome) :
    Number.arithmetic.Reads values.text? name ↔ ¬ reconciler.HasTruthFor cells name := by
  constructor
  · rintro readable ⟨index, aggregation, truth, listed, rfl, held⟩
    obtain ⟨cell, heldCell, iff⟩ := reads_iff_of_listed names wide added listed
    cases held.symm.trans heldCell
    exact iff.mp readable ⟨truth, rfl⟩
  · intro noTruth
    obtain ⟨aggregation, found⟩ := Option.isSome_iff_exists.mp known
    obtain ⟨index, listed⟩ := List.getElem?_of_mem (List.mem_of_find?_eq_some found)
    obtain rfl : aggregation.name = name := by simpa using List.find?_some found
    obtain ⟨cell, held, iff⟩ := reads_iff_of_listed names wide added listed
    refine iff.mpr ?_
    rintro ⟨truth, rfl⟩
    exact noTruth ⟨index, aggregation, truth, listed, rfl, held⟩

/-- The post-aggregations of a row can be computed exactly if none of them refers to an
aggregation whose cell holds a truth value. -/
theorem exists_computed_iff
    (checked : ∀ post ∈ reconciler.query.postAggregations,
      post.validate reconciler.query = .ok ()) :
    (∃ fields, putPostAggregations reconciler.query values.text? values.fields
        reconciler.query.postAggregations = .ok fields) ↔
      ∀ post ∈ reconciler.query.postAggregations, ∀ name ∈ post.references,
        ¬ reconciler.HasTruthFor cells name := by
  rw [exists_putPostAggregations_iff names.postsNamed]
  refine forall₂_congr fun post listed => ?_
  refine (Number.arithmetic.exists_evaluate_iff (checked post listed)).trans ?_
  refine forall₂_congr fun name referred => reads_iff names wide added ?_
  exact PostAggregation.isSome_aggregation?_of_mem_references (checked post listed) name referred

end Values

/-! ## Records with and without post-aggregations -/

include names in
/-- Without post-aggregations the columns of a statement have the same roles. -/
theorem roles_aggregatesOnly (direct : reconciler.mode = .direct)
    (onlyNames : reconciler.query.aggregatesOnly.HasOutputNames reconciler.fields) :
    ({ reconciler with query := reconciler.query.aggregatesOnly } : Reconciler).roles =
      reconciler.roles := by
  let plain : Reconciler := { reconciler with query := reconciler.query.aggregatesOnly }
  have sameColumns : plain.columns = reconciler.columns := by
    rw [columns, columns, Query.rowColumns, Query.rowColumns, direct]
    rfl
  have sameRoles : ∀ column ∈ reconciler.columns,
      plain.roleOf column = reconciler.roleOf column := by
    intro column placed
    rw [columns, Query.rowColumns, direct, Query.computedNames, List.append_nil] at placed
    rcases List.mem_append.mp placed with grouped | aggregated
    · rw [roleOf_dimension names grouped]
      exact roleOf_dimension onlyNames grouped
    · cases found : reconciler.query.aggregation? column with
      | none => exact absurd aggregated (Query.aggregation?_eq_none_iff.mp found)
      | some aggregation =>
          rw [roleOf_aggregation found]
          exact roleOf_aggregation found
  change plain.roles = reconciler.roles
  rw [roles, roles, sameColumns, List.map_congr_left sameRoles]

include names in
/-- A row has a record exactly if it has one without the post-aggregations and none of them
refers to an aggregation whose cell holds a truth value. -/
theorem exists_recordOf_iff (direct : reconciler.mode = .direct)
    (bound : reconciler.layout = some reconciler.roles)
    (checked : ∀ post ∈ reconciler.query.postAggregations,
      post.validate reconciler.query = .ok ()) :
    (∃ record, reconciler.recordOf cells = .ok record) ↔
      (∃ record, ({ reconciler with query := reconciler.query.aggregatesOnly } :
          Reconciler).recordOf cells = .ok record) ∧
        ∀ post ∈ reconciler.query.postAggregations, ∀ name ∈ post.references,
          ¬ reconciler.HasTruthFor cells name := by
  let plain : Reconciler := { reconciler with query := reconciler.query.aggregatesOnly }
  have plainly {record : Record} : plain.recordOf cells = .ok record ↔ _ :=
    recordOf_eq_ok_iff_of_direct direct bound
  constructor
  · rintro ⟨record, read⟩
    obtain ⟨wide, values, added, computed, stamped⟩ :=
      (recordOf_eq_ok_iff_of_direct direct bound).mp read
    refine ⟨⟨⟨record.timestamp, values.fields⟩, ?_⟩, ?_⟩
    · exact plainly.mpr ⟨wide, values, added, rfl, stamped⟩
    · exact (exists_computed_iff names wide added checked).mp ⟨record.fields, computed⟩
  · rintro ⟨⟨record, read⟩, noTruth⟩
    obtain ⟨wide, values, added, _, stamped⟩ := plainly.mp read
    obtain ⟨fields, computed⟩ := (exists_computed_iff names wide added checked).mpr noTruth
    exact ⟨⟨record.timestamp, fields⟩, (recordOf_eq_ok_iff_of_direct direct bound).mpr
      ⟨wide, values, added, computed, stamped⟩⟩

end Rows

/-- A row is taken exactly if it has a record. -/
theorem exists_push_iff {cells : List Cell} :
    (∃ next, reconciler.push cells = .ok next) ↔
      ∃ record, reconciler.recordOf cells = .ok record := by
  constructor
  · rintro ⟨next, pushed⟩
    obtain ⟨record, read, _⟩ := push_eq_ok_iff.mp pushed
    exact ⟨record, read⟩
  · rintro ⟨record, read⟩
    exact ⟨_, push_eq_ok_iff.mpr ⟨record, read, rfl⟩⟩

/-! ## Rows of a compiled query -/

/-- A query compiled for whoever reads the rows compiles alike without its post-aggregations,
and with them and without them its columns can be bound by their names.  However many rows came
before, a row is then taken exactly if it is taken without the post-aggregations and none of
them refers to an aggregation whose cell holds a truth value.  So no row is refused for a
post-aggregation that is absent, a long, a double or a text. -/
theorem rows_accepted (query : Query) (table : Table) (fields : FieldMap) (dialect : Dialect)
    (compiled : Compiled)
    (compiles : query.compile table fields dialect .direct = .ok compiled) :
    let reconciler : Reconciler :=
      { query, fields, bucketing := compiled.bucketing, mode := compiled.mode }
    let plain : Reconciler := { reconciler with query := query.aggregatesOnly }
    query.aggregatesOnly.compile table fields dialect .direct = .ok compiled ∧
      ∃ names bound plainBound, compiled.statement.columns.map Projection.name? = names.map some ∧
        reconciler.bind names = .ok bound ∧ plain.bind names = .ok plainBound ∧
        ∀ records plainRecords cells,
          (∃ next, ({ bound with records } : Reconciler).push cells = .ok next) ↔
            (∃ next, ({ plainBound with records := plainRecords } : Reconciler).push cells =
              .ok next) ∧
            ∀ post ∈ query.postAggregations, ∀ name ∈ post.references,
              ¬ reconciler.HasTruthFor cells name := by
  intro reconciler plain
  have plainCompiles := Query.compile_aggregatesOnly compiles
  obtain ⟨direct, outputNames, checked⟩ := checked_of_compile compiles
  have sameRoles : plain.roles = reconciler.roles :=
    roles_aggregatesOnly outputNames direct (checked_of_compile plainCompiles).2.1
  obtain ⟨named, columnsBound⟩ := bind_of_compile compiles
  have plainBound : plain.bind _ = .ok { plain with layout := some plain.roles } :=
    (bind_of_compile plainCompiles).2
  rw [sameRoles] at plainBound
  refine ⟨plainCompiles, _, _, _, named, columnsBound, plainBound, ?_⟩
  intro records plainRecords cells
  let receiving : Reconciler := { reconciler with layout := some reconciler.roles, records }
  let plainReceiving : Reconciler :=
    { plain with layout := some reconciler.roles, records := plainRecords }
  have recorded : (∃ record, receiving.recordOf cells = .ok record) ↔ _ :=
    exists_recordOf_iff outputNames direct rfl checked
  change (∃ next, receiving.push cells = .ok next) ↔
    (∃ next, plainReceiving.push cells = .ok next) ∧ _
  rw [exists_push_iff, exists_push_iff]
  exact recorded

/-- A revenue that is delivered as a text with blanks around it is read both as an aggregate
and as an operand. -/
theorem rows_accepted_of_padded_text :
    let query := Query.raisedRevenues
    let fields := FieldMap.ofTable .sales
    let cells : List Cell := [.text "US", .text " 2.5 "]
    ∃ compiled, query.compile .sales fields .ansi .direct = .ok compiled ∧
      let reconciler : Reconciler :=
        { query, fields, bucketing := compiled.bucketing, mode := compiled.mode }
      let plain : Reconciler := { reconciler with query := query.aggregatesOnly }
      ∃ bound plainBound, reconciler.bind ["region_cd", "revenue"] = .ok bound ∧
        plain.bind ["region_cd", "revenue"] = .ok plainBound ∧
        (∃ next, plainBound.push cells = .ok next) ∧
        (∀ post ∈ query.postAggregations, ∀ name ∈ post.references,
          ¬ reconciler.HasTruthFor cells name) ∧
        ∃ next, bound.push cells = .ok next := by
  intro query fields cells
  obtain ⟨_, names, bound, plainBound, named, columnsBound, plainColumnsBound, rows⟩ :=
    rows_accepted query .sales fields .ansi _ rfl
  have sameNames : ["region_cd", "revenue"].map some = names.map some := named
  obtain rfl := (List.map_inj_right fun _ _ => Option.some.inj).mp sameNames
  cases columnsBound
  cases plainColumnsBound
  refine ⟨_, rfl, _, _, rfl, rfl, ⟨_, rfl⟩, ?noTruth, (rows [] [] cells).mpr ⟨⟨_, rfl⟩, ?noTruth⟩⟩
  rintro post _ name _ ⟨index, aggregation, truth, listed, _, held⟩
  match index with
  | 0 => cases held
  | _ + 1 => cases listed

/-- A revenue that is a truth value counts as one as an aggregate, but is no operand: its text
is not read as a number. -/
theorem truth_refused_as_operand :
    let query := Query.raisedRevenues
    let fields := FieldMap.ofTable .sales
    let cells : List Cell := [.text "US", .boolean true]
    ∃ compiled, query.compile .sales fields .ansi .direct = .ok compiled ∧
      let reconciler : Reconciler :=
        { query, fields, bucketing := compiled.bucketing, mode := compiled.mode }
      let plain : Reconciler := { reconciler with query := query.aggregatesOnly }
      ∃ bound plainBound, reconciler.bind ["region_cd", "revenue"] = .ok bound ∧
        plain.bind ["region_cd", "revenue"] = .ok plainBound ∧
        (∃ next record, plainBound.push cells = .ok next ∧ next.records = [record] ∧
          record.get? "revenue" = some (.float (Double.ofInt 1))) ∧
        bound.push cells = .error (.execution (.notNumeric "true" "revenue")) := by
  intro query fields cells
  exact ⟨_, rfl, _, _, rfl, rfl, ⟨_, _, rfl, rfl, rfl⟩, rfl⟩

end Reconciler

end Rollup
