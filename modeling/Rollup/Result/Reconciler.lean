import Rollup.Plan.Statement
import Rollup.Result.Cell
import Rollup.Result.Response

/-!
# Reconciling rows

The way back from the rows of a statement to the records of a query.  The columns
of a result are first bound: each gets its role from its name, but for the time
columns, which come first.  Every row then gives one record.  A step that fails
leaves everything as it was.
-/

namespace Rollup

/-- What a column of a result carries. -/
inductive ColumnRole where
  /-- A part of the timestamp, or the timestamp itself. -/
  | time
  | aggregation (name : String) (isFloat : Bool)
  | postAggregation (name : String) (isFloat : Bool)
  /-- A physical column, under the names of all dimensions that it is behind. -/
  | dimension (names : List String)
  deriving DecidableEq

/-- The values of a row sorted by the roles of their columns: the time cells, the
fields of the record, and the text of each aggregate, the latest first. -/
structure RowValues where
  times : List Cell := []
  fields : Fields := []
  aggregates : List (String × Option String) := []

namespace RowValues

/-- The values with one more cell, read by the role of its column. -/
def add (values : RowValues) (role : ColumnRole) (cell : Cell) : Except Error RowValues :=
  match role with
  | .time => .ok { values with times := values.times ++ [cell] }
  | .aggregation name isFloat => do
      let value ← cell.toAggregate isFloat
      return { values with
        fields := values.fields.put name value
        aggregates := (name, cell.text?) :: values.aggregates }
  | .postAggregation name isFloat => do
      let value ← cell.toAggregate isFloat
      return { values with fields := values.fields.put name value }
  | .dimension names =>
      let value := cell.toDimension
      .ok { values with
        fields := names.foldl (fun fields name => fields.put name value) values.fields }

/-- The values with the cells of some columns. -/
def addAll : RowValues → List (ColumnRole × Cell) → Except Error RowValues
  | values, [] => .ok values
  | values, (role, cell) :: rest => do addAll (← values.add role cell) rest

/-- The text of an aggregate. -/
def text? (values : RowValues) (name : String) : Option String :=
  (values.aggregates.lookup name).join

end RowValues

/-- The value of a post-aggregation as it is reported. -/
def reportedNumber (isFloat : Bool) : Option Number → Json
  | none => .null
  | some number =>
      if isFloat then Json.ofDouble number.toDouble
      else
        match number with
        | .integer value => .integer value.toInt
        | .float value => .integer value.truncate.toInt

/-- The state of reconciling the result of a query. -/
structure Reconciler where
  query : Query
  fields : FieldMap
  bucketing : Bucketing
  mode : PostAggregationMode
  layout : Option (List ColumnRole) := none
  records : List Record := []

namespace Reconciler

/-- Whether the columns of the result are bound. -/
def isBound (reconciler : Reconciler) : Bool :=
  reconciler.layout.isSome

/-- The names under which a physical column is reported: the dimensions of the
query that it is behind, or its own name when there are none. -/
def dimensionNames (reconciler : Reconciler) (column : String) : List String :=
  match (reconciler.fields.toLogical column).filter reconciler.query.groupsBy with
  | [] => [column]
  | names => names

/-- The role of a column behind the time columns, by its name. -/
def roleOf (reconciler : Reconciler) (column : String) : ColumnRole :=
  match reconciler.query.aggregation? column with
  | some aggregation => .aggregation column aggregation.kind.isFloat
  | none =>
      match reconciler.query.postAggregation? column with
      | some post => .postAggregation column (post.isFloat reconciler.query)
      | none => .dimension (reconciler.dimensionNames column)

/-- The roles of all columns, in order. -/
def layoutOf (reconciler : Reconciler) (columns : List String) : List ColumnRole :=
  let leading := reconciler.bucketing.timeColumnCount
  List.replicate leading .time ++ (columns.drop leading).map reconciler.roleOf

/-- Binds the columns of the result. -/
def bind (reconciler : Reconciler) (columns : List String) : Except Error Reconciler :=
  let leading := reconciler.bucketing.timeColumnCount
  if columns.length < leading then
    .error (.execution
      (.columnCount columns.length reconciler.bucketing.granularity leading))
  else .ok { reconciler with layout := some (reconciler.layoutOf columns) }

/-- The long values of time cells, none of which may be absent. -/
def timeValues : List Cell → Except Error (List Int)
  | [] => .ok []
  | cell :: rest => do
      match ← cell.toLong with
      | none => throw (.execution .missingTimePart)
      | some value => return value.toInt :: (← timeValues rest)

/-- The start of the bucket that the time cells of a row name. -/
def timestamp (bucketing : Bucketing) (times : List Cell) : Except Error Instant :=
  if bucketing.granularity.groupsByTimestamp then
    match times.head?.bind Cell.text? with
    | none => .error (.execution .missingTimestamp)
    | some text =>
        match Instant.ofText? text with
        | some instant => .ok instant
        | none => .error (.execution (.unreadableTimestamp text))
  else do bucketing.start (← timeValues times)

/-- The fields with the values of post-aggregations, computed from the aggregates
of the row. -/
def putPostAggregations (query : Query) (row : String → Option String) :
    Fields → List PostAggregation → Except Error Fields
  | fields, [] => .ok fields
  | fields, post :: rest =>
      match post.name? with
      | none => putPostAggregations query row fields rest
      | some name => do
          let value ← post.evaluate row
          putPostAggregations query row
            (fields.put name (reportedNumber (post.isFloat query) value)) rest

/-- The record of a row. -/
def recordOf (reconciler : Reconciler) (cells : List Cell) : Except Error Record := do
  match reconciler.layout with
  | none => throw (.execution .unboundRow)
  | some layout =>
      if cells.length ≠ layout.length then
        throw (.execution (.rowWidth cells.length layout.length))
      let values ← RowValues.addAll {} (layout.zip cells)
      let fields ←
        match reconciler.mode with
        | .sql => .ok values.fields
        | .direct =>
            putPostAggregations reconciler.query values.text? values.fields
              reconciler.query.postAggregations
      return { timestamp := ← timestamp reconciler.bucketing values.times, fields }

/-- Adds the record of a row. -/
def push (reconciler : Reconciler) (cells : List Cell) : Except Error Reconciler := do
  let record ← reconciler.recordOf cells
  return { reconciler with records := reconciler.records ++ [record] }

/-- The response of the records so far. -/
def finish (reconciler : Reconciler) : Response :=
  ⟨reconciler.query.type, reconciler.records⟩

end Reconciler

end Rollup
