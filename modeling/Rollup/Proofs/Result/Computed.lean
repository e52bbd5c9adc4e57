import Rollup.Proofs.Formula.Faults
import Rollup.Proofs.Formula.Values
import Rollup.Proofs.Number.Displayed
import Rollup.Proofs.Plan.Modes
import Rollup.Proofs.Result.Calls
import Rollup.Proofs.Result.Record

/-!
# Post-aggregations computed from rows

A reconciler that computes post-aggregations itself reads the numbers that the database has
delivered from the texts of the cells.  Each is read as it is, but for doubles that are
whole numbers: those below `2 ^ 63` are read as longs, and are then computed with exactly.
-/

namespace Rollup

open Sql

/-! ## Delivered numbers -/

/-- The text of a long is read as the long. -/
@[simp]
theorem Number.ofText?_longText (value : Long) :
    Number.ofText? value.text = some (.integer value) := by
  have long : Long.ofText? (Text.integerText value.toInt).toList = some value := by
    rw [Long.ofText?, Text.integer?_integerText]
    exact Long.ofInt?_toInt value
  simp only [Number.ofText?, Long.text, Text.trim_integerText, long]

namespace Cell

@[simp]
theorem text?_integer (value : Long) : (integer value).text? = some value.text :=
  rfl

/-- The number of a cell that holds one. -/
def number? : Cell → Option Number
  | .integer value => some (.integer value)
  | .float value => some (.float value)
  | _ => none

/-- Whether a cell is absent or a number. -/
def IsNumeric : Cell → Prop
  | .boolean _ | .text _ => False
  | _ => True

/-- The number that a cell is computed with: its own, or a long for a double that is
displayed like one. -/
inductive ComputedAs (cell : Cell) : Option Number → Prop
  | itself (notWhole : ∀ value, cell = .float value → ¬ value.IsWhole) :
      ComputedAs cell cell.number?
  | whole {value : Double} {long : Long} (held : cell = .float value)
      (displayed : value.DisplayedAs (.integer long)) : ComputedAs cell (some (.integer long))

/-- A numeric cell is absent, or has a text that is read as the number that the cell is
computed with. -/
theorem text?_of_isNumeric {cell : Cell} (numeric : cell.IsNumeric) :
    (cell.text? = none ∧ cell.ComputedAs none) ∨
      ∃ text number, cell.text? = some text ∧ Number.ofText? text = some number ∧
        cell.ComputedAs (some number) := by
  cases cell with
  | null => exact .inl ⟨rfl, .itself fun _ held => by cases held⟩
  | boolean value => cases numeric
  | text value => cases numeric
  | integer value =>
      exact .inr ⟨value.text, .integer value, rfl, Number.ofText?_longText value,
        .itself fun _ held => by cases held⟩
  | float value =>
      obtain ⟨number, read, displayed⟩ := Number.exists_ofText?_displayText value
      refine .inr ⟨value.displayText, number, rfl, read, ?_⟩
      cases displayed with
      | long whole shown exact nearest => exact .whole rfl (.long whole shown exact nearest)
      | itself notWhole =>
          refine .itself fun other held => ?_
          cases held
          exact notWhole

/-- A numeric cell is computed with as its text is read. -/
theorem computedAs_of_isNumeric {cell : Cell} (numeric : cell.IsNumeric) :
    cell.ComputedAs (cell.text?.bind Number.ofText?) := by
  rcases text?_of_isNumeric numeric with ⟨absent, computedAs⟩ |
    ⟨text, number, present, read, computedAs⟩
  · rwa [absent, Option.bind_none]
  · rwa [present, Option.bind_some, read]

end Cell

namespace Reconciler

variable {reconciler : Reconciler}

/-! ## Records with computed post-aggregations -/

/-- Whether a row has numbers, or nothing, in the columns of the aggregations. -/
def DeliversNumbers (reconciler : Reconciler) (cells : List Cell) : Prop :=
  ∀ index aggregation, reconciler.query.aggregations[index]? = some aggregation →
    ∀ cell, cells[reconciler.aggregationPosition index]? = some cell → cell.IsNumeric

/-- Whether some numbers are those that the cells of the aggregations are computed with. -/
def ComputesWith (reconciler : Reconciler) (cells : List Cell)
    (computed : String → Option Number) : Prop :=
  ∀ index aggregation, reconciler.query.aggregations[index]? = some aggregation →
    ∃ cell, cells[reconciler.aggregationPosition index]? = some cell ∧
      cell.ComputedAs (computed aggregation.name)

/-- Whether a row has a cell in the column of an aggregation of a name. -/
def HasCellFor (reconciler : Reconciler) (cells : List Cell) (name : String) (cell : Cell) :
    Prop :=
  ∃ index aggregation, reconciler.query.aggregations[index]? = some aggregation ∧
    aggregation.name = name ∧ cells[reconciler.aggregationPosition index]? = some cell

/-- A record of a reconciler that computes post-aggregations has one cell for each column,
the post-aggregations computed from the texts of its aggregates, and the timestamp of its time
cells, and every row with these has a record. -/
theorem recordOf_eq_ok_iff_of_direct {cells : List Cell} {layout : List ColumnRole}
    {record : Record} (direct : reconciler.mode = .direct)
    (bound : reconciler.layout = some layout) :
    reconciler.recordOf cells = .ok record ↔
      cells.length = layout.length ∧
        ∃ values, RowValues.addAll {} (layout.zip cells) = .ok values ∧
          putPostAggregations reconciler.query values.text? values.fields
            reconciler.query.postAggregations = .ok record.fields ∧
          timestamp reconciler.bucketing values.times = .ok record.timestamp := by
  rw [recordOf, bound]
  simp only [check_eq_ok_iff, not_not, direct]
  refine and_congr_right' ?_
  constructor
  · intro read
    obtain ⟨values, added, read⟩ := bind_eq_ok_iff.mp read
    obtain ⟨fields, computed, read⟩ := bind_eq_ok_iff.mp read
    obtain ⟨start, stamped, built⟩ := bind_eq_ok_iff.mp read
    cases built
    exact ⟨values, added, computed, stamped⟩
  · rintro ⟨values, added, computed, stamped⟩
    refine bind_eq_ok_iff.mpr ⟨values, added, bind_eq_ok_iff.mpr ⟨record.fields, computed, ?_⟩⟩
    exact bind_eq_ok_iff.mpr ⟨record.timestamp, stamped, rfl⟩

section Rows

variable {cells : List Cell} {record : Record} {values : RowValues}
variable (names : reconciler.query.HasOutputNames reconciler.fields)

include names in
/-- The text of an aggregation is that of the cell in its column. -/
theorem text?_of_hasCellFor (wide : cells.length = reconciler.roles.length)
    (added : RowValues.addAll {} (reconciler.roles.zip cells) = .ok values)
    {name : String} {cell : Cell} (held : reconciler.HasCellFor cells name cell) :
    values.text? name = cell.text? := by
  obtain ⟨index, aggregation, listed, rfl, atPosition⟩ := held
  obtain ⟨own, _, ownAtPosition, _, _, shown⟩ :=
    exists_cell_of_aggregation names wide added listed
  cases atPosition.symm.trans ownAtPosition
  exact shown

include names in
/-- A record reports the value of each post-aggregation that is computed from the texts of the
aggregates. -/
theorem record_get?_evaluated (bound : reconciler.layout = some reconciler.roles)
    (direct : reconciler.mode = .direct) (read : reconciler.recordOf cells = .ok record) :
    ∃ values, cells.length = reconciler.roles.length ∧
      RowValues.addAll {} (reconciler.roles.zip cells) = .ok values ∧
      ∀ post ∈ reconciler.query.postAggregations, ∃ name value, post.name? = some name ∧
        post.evaluate values.text? = .ok value ∧
        record.get? name = some (reportedNumber (post.isFloat reconciler.query) value) := by
  obtain ⟨wide, values, added, put, _⟩ := (recordOf_eq_ok_iff_of_direct direct bound).mp read
  refine ⟨values, wide, added, fun post listed => ?_⟩
  let value (post : PostAggregation) := (post.evaluate values.text?).toOption.join
  have evaluated : ∀ post ∈ reconciler.query.postAggregations,
      post.evaluate values.text? = .ok (value post) := by
    intro post listed
    obtain ⟨number, found⟩ :=
      (exists_putPostAggregations_iff names.postsNamed).mp ⟨_, put⟩ post listed
    simp only [value, found, Except.toOption, Option.join_some]
  obtain ⟨name, named⟩ := Option.isSome_iff_exists.mp (names.postsNamed post listed)
  refine ⟨name, value post, named, evaluated post listed, ?_⟩
  rw [putPostAggregations_eq_putAll evaluated] at put
  rw [Record.get?, ← Except.ok.inj put]
  apply Fields.get?_putAll_of_entry
  · rw [names_postEntries]
    exact (List.nodup_append.mp names.distinct).2.1
  · apply List.mem_filterMap.mpr
    refine ⟨post, listed, ?_⟩
    rw [named]
    rfl

include names in
/-- A record reports each post-aggregation of what is read from the texts of the cells. -/
theorem record_get?_valueOf (bound : reconciler.layout = some reconciler.roles)
    (direct : reconciler.mode = .direct)
    (checked : ∀ post ∈ reconciler.query.postAggregations,
      post.validate reconciler.query = .ok ())
    (read : reconciler.recordOf cells = .ok record) :
    ∃ computed : String → Option Number,
      (∀ name cell, reconciler.HasCellFor cells name cell →
        computed name = cell.text?.bind Number.ofText?) ∧
      ∀ post ∈ reconciler.query.postAggregations, ∃ name, post.name? = some name ∧
        record.get? name = some (reportedNumber (post.isFloat reconciler.query)
          (Number.arithmetic.valueOf computed post)) := by
  obtain ⟨values, wide, added, reported⟩ := record_get?_evaluated names bound direct read
  refine ⟨fun name => (values.text? name).bind Number.ofText?, ?_, fun post listed => ?_⟩
  · intro name cell held
    exact congrArg (Option.bind · Number.ofText?) (text?_of_hasCellFor names wide added held)
  · obtain ⟨name, value, named, evaluated, reports⟩ := reported post listed
    have readable :=
      (Number.arithmetic.exists_evaluate_iff (checked post listed)).mp ⟨value, evaluated⟩
    have computed := Number.arithmetic.evaluate_eq_valueOf (checked post listed) readable
    obtain rfl := Except.ok.inj (evaluated.symm.trans computed)
    exact ⟨name, named, reports⟩

include names in
/-- A record reports each post-aggregation of the numbers that the cells of the aggregations
are computed with. -/
theorem record_get?_postAggregation (bound : reconciler.layout = some reconciler.roles)
    (direct : reconciler.mode = .direct)
    (checked : ∀ post ∈ reconciler.query.postAggregations,
      post.validate reconciler.query = .ok ())
    (numeric : reconciler.DeliversNumbers cells)
    (read : reconciler.recordOf cells = .ok record) :
    ∃ computed, reconciler.ComputesWith cells computed ∧
      ∀ post ∈ reconciler.query.postAggregations, ∃ name, post.name? = some name ∧
        record.get? name = some (reportedNumber (post.isFloat reconciler.query)
          (Number.arithmetic.valueOf computed post)) := by
  obtain ⟨computed, texts, reported⟩ := record_get?_valueOf names bound direct checked read
  refine ⟨computed, fun index aggregation listed => ?_, reported⟩
  have wide := ((recordOf_eq_ok_iff_of_direct direct bound).mp read).1
  obtain ⟨cell, _, held, _⟩ := record_get?_aggregation names bound wide read listed
  refine ⟨cell, held, ?_⟩
  rw [texts aggregation.name cell ⟨index, aggregation, listed, rfl, held⟩]
  exact Cell.computedAs_of_isNumeric (numeric index aggregation listed cell held)

end Rows

/-! ## Rows of a compiled query -/

/-- A compiled query keeps its mode, has output names of its own, and its post-aggregations
are checked. -/
theorem checked_of_compile {query : Query} {table : Table} {fields : FieldMap}
    {dialect : Dialect} {mode : PostAggregationMode} {compiled : Compiled}
    (compiles : query.compile table fields dialect mode = .ok compiled) :
    compiled.mode = mode ∧ query.HasOutputNames fields ∧
      ∀ post ∈ query.postAggregations, post.validate query = .ok () := by
  obtain ⟨stated, _, sameMode⟩ := Query.compile_eq_ok compiles
  obtain ⟨inner, compiledInner, _⟩ := bind_eq_ok_iff.mp stated
  exact ⟨sameMode, (Query.statement_columns stated).1,
    Query.validate_of_aggregateStatement compiledInner⟩

/-- The columns of a query compiled for whoever reads the rows can be bound by their names.
However many rows came before, every row with numbers in the columns of the aggregations that
is taken adds one record, which reports each post-aggregation of the numbers that these cells
are computed with: the delivered ones, but longs for the doubles that are whole numbers below
`2 ^ 63`. -/
theorem postAggregations_computed (query : Query) (table : Table) (fields : FieldMap)
    (dialect : Dialect) (compiled : Compiled)
    (compiles : query.compile table fields dialect .direct = .ok compiled) :
    let reconciler : Reconciler :=
      { query, fields, bucketing := compiled.bucketing, mode := compiled.mode }
    ∃ names bound, compiled.statement.columns.map Projection.name? = names.map some ∧
      reconciler.bind names = .ok bound ∧
      ∀ records cells next, reconciler.DeliversNumbers cells →
        ({ bound with records } : Reconciler).push cells = .ok next →
        ∃ record, next = { bound with records := records ++ [record] } ∧
          ∃ computed, reconciler.ComputesWith cells computed ∧
            ∀ post ∈ query.postAggregations, ∃ name, post.name? = some name ∧
              record.get? name = some (reportedNumber (post.isFloat query)
                (Number.arithmetic.valueOf computed post)) := by
  intro reconciler
  obtain ⟨direct, outputNames, checked⟩ := checked_of_compile compiles
  obtain ⟨named, columnsBound⟩ := bind_of_compile compiles
  refine ⟨_, _, named, columnsBound, fun records cells next numeric pushed => ?_⟩
  let receiving : Reconciler := { reconciler with layout := some reconciler.roles, records }
  obtain ⟨record, read, rfl⟩ := push_eq_ok_iff.mp pushed
  have delivered : receiving.DeliversNumbers cells := numeric
  have recorded : receiving.recordOf cells = .ok record := read
  obtain ⟨computed, used, reported⟩ :=
    record_get?_postAggregation outputNames rfl direct checked delivered recorded
  exact ⟨record, rfl, computed, used, reported⟩

end Reconciler

/-- The sum of the revenue and two ones. -/
def PostAggregation.raisedRevenue : PostAggregation :=
  .arithmetic "raised" .add
    [.field "revenue", .constant "one" (.integer 1), .constant "one" (.integer 1)]

/-- The revenue of each region, a double, and the sum of it and two ones. -/
def Query.raisedRevenues : Query where
  dataSource := "sales"
  dimensions := ["region"]
  aggregations := [.ofField .doubleSum "revenue" "amount"]
  postAggregations := [.raisedRevenue]

/-- A revenue with a fraction is computed with as it is delivered. -/
theorem Reconciler.postAggregations_computed_of_fraction :
    let query := Query.raisedRevenues
    let fields := FieldMap.ofTable .sales
    ∃ compiled, query.compile .sales fields .ansi .direct = .ok compiled ∧
      let reconciler : Reconciler :=
        { query, fields, bucketing := compiled.bucketing, mode := compiled.mode }
      ∃ bound next, reconciler.bind ["region_cd", "revenue"] = .ok bound ∧
        bound.push [.text "US", .float (Double.ofRatio false 5 2)] = .ok next ∧
        ∃ record computed, next.records = [record] ∧
          computed "revenue" = some (.float (Double.ofRatio false 5 2)) ∧
          record.get? "raised" = some (reportedNumber true
            (Number.arithmetic.valueOf computed .raisedRevenue)) := by
  intro query fields
  refine ⟨_, rfl, _, _, rfl, rfl, ?_⟩
  obtain ⟨names, bound, named, columnsBound, rows⟩ :=
    Reconciler.postAggregations_computed query .sales fields .ansi _ rfl
  have sameNames : ["region_cd", "revenue"].map some = names.map some := named
  obtain rfl := (List.map_inj_right fun _ _ => Option.some.inj).mp sameNames
  cases columnsBound
  have numeric : ∀ index aggregation, query.aggregations[index]? = some aggregation →
      ∀ cell, [Cell.text "US", .float (Double.ofRatio false 5 2)][1 + index]? = some cell →
        cell.IsNumeric := by
    intro index aggregation listed cell held
    match index with
    | 0 =>
        cases held
        trivial
    | _ + 1 => cases listed
  obtain ⟨record, added, computed, cells, posts⟩ :=
    rows [] [.text "US", .float (Double.ofRatio false 5 2)] _ numeric rfl
  obtain ⟨name, isName, reported⟩ := posts _ (List.mem_singleton_self _)
  cases isName
  obtain ⟨cell, held, computedAs⟩ := cells 0 _ rfl
  cases held
  refine ⟨record, computed, congrArg Reconciler.records added, ?_, reported⟩
  change Cell.ComputedAs _ (computed "revenue") at computedAs
  generalize computed "revenue" = number at computedAs ⊢
  cases computedAs with
  | itself => rfl
  | whole same displayed =>
      cases same
      cases displayed with
      | long _ shown => cases shown

/-- A revenue of `2 ^ 53` is computed with as a long.  Its sum with two ones is exact, while
that of the delivered double is rounded back to it, one by one. -/
theorem Reconciler.whole_revenue_computed_exactly :
    let query := Query.raisedRevenues
    let fields := FieldMap.ofTable .sales
    ∃ compiled, query.compile .sales fields .ansi .direct = .ok compiled ∧
      let reconciler : Reconciler :=
        { query, fields, bucketing := compiled.bucketing, mode := compiled.mode }
      ∃ bound next, reconciler.bind ["region_cd", "revenue"] = .ok bound ∧
        bound.push [.text "US", .float (Double.ofInt 9007199254740992)] = .ok next ∧
        ∃ record reported, next.records = [record] ∧ record.get? "raised" = some reported ∧
          reported ≠ reportedNumber true (Number.arithmetic.valueOf
            (fun _ => (Cell.float (Double.ofInt 9007199254740992)).number?) .raisedRevenue) := by
  intro query fields
  refine ⟨_, rfl, _, _, rfl, rfl, _, .float (Double.ofInt 9007199254740994), rfl, rfl, ?_⟩
  have delivered : Number.arithmetic.valueOf
      (fun _ => (Cell.float (Double.ofInt 9007199254740992)).number?) .raisedRevenue =
        some (.float (Double.ofInt 9007199254740992)) := by decide +kernel
  rw [delivered]
  intro same
  have same : Double.ofInt 9007199254740994 = Double.ofInt 9007199254740992 := Json.float.inj same
  revert same
  decide +kernel

end Rollup
