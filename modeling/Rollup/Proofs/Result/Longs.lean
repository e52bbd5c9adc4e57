import Rollup.Proofs.Formula.Longs
import Rollup.Proofs.Result.Computed

/-!
# Post-aggregations reported as longs

A reconciler that computes post-aggregations reports as longs those that are not reported as
doubles.  Each is the integer that it denotes over the delivered longs, provided that all its
partial results are longs, and is null without one of them.  Where the integer is no long, the
computation falls back to a double, which is cut to a long on the way into the record.
-/

namespace Rollup

open Sql

namespace Reconciler

variable {reconciler : Reconciler} {cells : List Cell}

/-- Whether a row has longs in the columns of the aggregations that a post-aggregation refers
to. -/
def DeliversLongs (reconciler : Reconciler) (cells : List Cell) (post : PostAggregation)
    (values : String → Long) : Prop :=
  ∀ aggregation ∈ post.references,
    reconciler.HasCellFor cells aggregation (.integer (values aggregation))

/-- Whether a row has nothing in the column of an aggregation that a post-aggregation refers
to. -/
def LacksOperand (reconciler : Reconciler) (cells : List Cell) (post : PostAggregation) : Prop :=
  ∃ aggregation ∈ post.references, reconciler.HasCellFor cells aggregation .null

/-- A record reports a post-aggregation that is no double as null without one of its operands,
and otherwise as its value over the delivered longs, cut to a long if it is a double. -/
theorem record_get?_long {record : Record}
    (names : reconciler.query.HasOutputNames reconciler.fields)
    (bound : reconciler.layout = some reconciler.roles) (direct : reconciler.mode = .direct)
    (checked : ∀ post ∈ reconciler.query.postAggregations,
      post.validate reconciler.query = .ok ())
    (read : reconciler.recordOf cells = .ok record) {post : PostAggregation}
    (listed : post ∈ reconciler.query.postAggregations)
    (long : post.isFloat reconciler.query = false) :
    ∃ name, post.name? = some name ∧
      (reconciler.LacksOperand cells post → record.get? name = some .null) ∧
      ∀ values, reconciler.DeliversLongs cells post values →
        record.get? name = some (reportedNumber false
          (Number.arithmetic.valueOf (fun name => some (.integer (values name))) post)) := by
  obtain ⟨computed, texts, reported⟩ := record_get?_valueOf names bound direct checked read
  obtain ⟨name, named, reports⟩ := reported post listed
  rw [long] at reports
  refine ⟨name, named, ?lacking, ?delivered⟩
  case lacking =>
    rintro ⟨aggregation, referred, absent⟩
    have noValue := PostAggregation.valueOf_eq_none (checked post listed) long
      ⟨aggregation, referred, texts aggregation .null absent⟩
    rw [reports, noValue]
    rfl
  case delivered =>
    intro values delivers
    have sameValue : Number.arithmetic.valueOf computed post =
        Number.arithmetic.valueOf (fun name => some (.integer (values name))) post := by
      apply Arithmetic.valueOf_congr
      intro aggregation referred
      rw [texts aggregation _ (delivers aggregation referred), Cell.text?_integer,
        Option.bind_some, Number.ofText?_longText]
    rw [reports, sameValue]

/-! ## Rows of a compiled query -/

/-- The columns of a query compiled for whoever reads the rows can be bound by their names, and
every row that is taken adds one record, with its post-aggregations that are no doubles computed
from the delivered longs. -/
theorem longs_reported {query : Query} {table : Table} {fields : FieldMap} {dialect : Dialect}
    {compiled : Compiled} (compiles : query.compile table fields dialect .direct = .ok compiled) :
    let reconciler : Reconciler :=
      { query, fields, bucketing := compiled.bucketing, mode := compiled.mode }
    ∃ names bound, compiled.statement.columns.map Projection.name? = names.map some ∧
      reconciler.bind names = .ok bound ∧
      ∀ records cells next, ({ bound with records } : Reconciler).push cells = .ok next →
        ∃ record, next = { bound with records := records ++ [record] } ∧
          ∀ post ∈ query.postAggregations, post.isFloat query = false →
            ∃ name, post.name? = some name ∧
              (reconciler.LacksOperand cells post → record.get? name = some .null) ∧
              ∀ values, reconciler.DeliversLongs cells post values →
                record.get? name = some (reportedNumber false
                  (Number.arithmetic.valueOf (fun name => some (.integer (values name))) post)) := by
  intro reconciler
  obtain ⟨direct, outputNames, checked⟩ := checked_of_compile compiles
  obtain ⟨named, columnsBound⟩ := bind_of_compile compiles
  refine ⟨_, _, named, columnsBound, fun records cells next pushed => ?_⟩
  let receiving : Reconciler := { reconciler with layout := some reconciler.roles, records }
  obtain ⟨record, read, rfl⟩ := push_eq_ok_iff.mp pushed
  have recorded : receiving.recordOf cells = .ok record := read
  refine ⟨record, rfl, fun post listed long => ?_⟩
  exact record_get?_long outputNames rfl direct checked recorded listed long

/-- The columns of a query compiled for whoever reads the rows can be bound by their names.
However many rows came before, every row that is taken adds one record.  It reports a
post-aggregation that is no double as null if an aggregation that it refers to is absent, and
over longs, as long as all partial results are longs, as the integer that it denotes. -/
theorem longs_computed_exactly (query : Query) (table : Table) (fields : FieldMap)
    (dialect : Dialect) (compiled : Compiled)
    (compiles : query.compile table fields dialect .direct = .ok compiled) :
    let reconciler : Reconciler :=
      { query, fields, bucketing := compiled.bucketing, mode := compiled.mode }
    ∃ names bound, compiled.statement.columns.map Projection.name? = names.map some ∧
      reconciler.bind names = .ok bound ∧
      ∀ records cells next, ({ bound with records } : Reconciler).push cells = .ok next →
        ∃ record, next = { bound with records := records ++ [record] } ∧
          ∀ post ∈ query.postAggregations, post.isFloat query = false →
            ∃ name, post.name? = some name ∧
              (reconciler.LacksOperand cells post → record.get? name = some .null) ∧
              ∀ values, reconciler.DeliversLongs cells post values → post.StaysLong values →
                record.get? name = some (.integer (post.integerOf values)) := by
  intro reconciler
  have checked := (checked_of_compile compiles).2.2
  obtain ⟨names, bound, named, columnsBound, rows⟩ := longs_reported compiles
  refine ⟨names, bound, named, columnsBound, fun records cells next pushed => ?_⟩
  obtain ⟨record, added, reported⟩ := rows records cells next pushed
  refine ⟨record, added, fun post listed long => ?_⟩
  obtain ⟨name, isName, lacking, delivered⟩ := reported post listed long
  refine ⟨name, isName, lacking, fun values delivers stays => ?_⟩
  obtain ⟨number, computed, tracks⟩ :=
    PostAggregation.exists_valueOf_tracks (checked post listed) long values
  obtain ⟨value, rfl, exact⟩ := tracks.eq_integer stays
  rw [delivered values delivers, computed, ← exact]
  rfl

/-- The columns of a query compiled for whoever reads the rows can be bound by their names.
However many rows came before, every row that is taken adds one record.  If a post-aggregation
that is no double denotes an integer over longs that is no long itself, its value falls back to
a double, but the record reports the long that the double is cut to: another integer. -/
theorem overflow_reported_as_long (query : Query) (table : Table) (fields : FieldMap)
    (dialect : Dialect) (compiled : Compiled)
    (compiles : query.compile table fields dialect .direct = .ok compiled) :
    let reconciler : Reconciler :=
      { query, fields, bucketing := compiled.bucketing, mode := compiled.mode }
    ∃ names bound, compiled.statement.columns.map Projection.name? = names.map some ∧
      reconciler.bind names = .ok bound ∧
      ∀ records cells next, ({ bound with records } : Reconciler).push cells = .ok next →
        ∃ record, next = { bound with records := records ++ [record] } ∧
          ∀ post ∈ query.postAggregations, post.isFloat query = false →
            ∀ values, reconciler.DeliversLongs cells post values →
              ¬ Long.Fits (post.integerOf values) →
              ∃ name fallback, post.name? = some name ∧
                Number.arithmetic.valueOf (fun name => some (.integer (values name))) post =
                  some (.float fallback) ∧
                record.get? name = some (.integer fallback.truncate.toInt) ∧
                fallback.truncate.toInt ≠ post.integerOf values := by
  intro reconciler
  have checked := (checked_of_compile compiles).2.2
  obtain ⟨names, bound, named, columnsBound, rows⟩ := longs_reported compiles
  refine ⟨names, bound, named, columnsBound, fun records cells next pushed => ?_⟩
  obtain ⟨record, added, reported⟩ := rows records cells next pushed
  refine ⟨record, added, fun post listed long values delivers beyond => ?_⟩
  obtain ⟨name, isName, _, delivered⟩ := reported post listed long
  obtain ⟨number, computed, tracks⟩ :=
    PostAggregation.exists_valueOf_tracks (checked post listed) long values
  obtain ⟨fallback, rfl⟩ := tracks.eq_float beyond
  refine ⟨name, fallback, isName, computed, ?_, ?_⟩
  · rw [delivered values delivers, computed]
    rfl
  · intro same
    exact beyond (same ▸ Long.fits_toInt _)

end Reconciler

/-- The clicks less the negated views, less five. -/
def PostAggregation.balance : PostAggregation :=
  .arithmetic "balance" .add
    [.arithmetic "seen" .subtract
      [.field "clicks",
        .arithmetic "negated" .multiply [.field "views", .constant "sign" (.integer (-1))]],
      .constant "loss" (.integer (-5))]

/-- The clicks and views of each region and their balance. -/
def Query.balances : Query where
  dataSource := "sales"
  dimensions := ["region"]
  aggregations := [.ofField .longSum "clicks" "clicks", .ofField .longSum "views" "views"]
  postAggregations := [.balance]

/-- A row of clicks and views delivers them to their balance. -/
theorem Query.balances_deliversLongs (values : String → Long) :
    ({ query := .balances, fields := .ofTable .sales, bucketing := .ofQuery .balances,
       mode := .direct } : Reconciler).DeliversLongs
      [.text "US", .integer (values "clicks"), .integer (values "views")] .balance values := by
  intro aggregation referred
  have listed : aggregation ∈ ["clicks", "views"] := referred
  rw [List.mem_pair] at listed
  rcases listed with rfl | rfl
  · exact ⟨0, _, rfl, rfl, rfl⟩
  · exact ⟨1, _, rfl, rfl, rfl⟩

/-- Some clicks, and as many views as of anything else. -/
def Query.counts (clicks views : Long) (name : String) : Long :=
  if name = "clicks" then clicks else views

/-- The clicks may be the least of all longs, and so may their balance.  Without clicks there is
no balance. -/
theorem Reconciler.longs_computed_exactly_of_least :
    let query := Query.balances
    let fields := FieldMap.ofTable .sales
    let balance := PostAggregation.balance
    let values := Query.counts Long.least 5
    let cells : List Cell := [.text "US", .integer Long.least, .integer 5]
    let lackingCells : List Cell := [.text "US", .null, .integer 5]
    balance.StaysLong values ∧
      ∃ compiled, query.compile .sales fields .ansi .direct = .ok compiled ∧
        let reconciler : Reconciler :=
          { query, fields, bucketing := compiled.bucketing, mode := compiled.mode }
        reconciler.DeliversLongs cells balance values ∧
          reconciler.LacksOperand lackingCells balance ∧
          ∃ bound next other, reconciler.bind ["region_cd", "clicks", "views"] = .ok bound ∧
            bound.push cells = .ok next ∧ bound.push lackingCells = .ok other ∧
            ∃ record lacking, next.records = [record] ∧ other.records = [lacking] ∧
              record.get? "balance" = some (.integer (-9223372036854775808)) ∧
              lacking.get? "balance" = some .null := by
  intro query fields balance values cells lackingCells
  obtain ⟨names, bound, named, columnsBound, rows⟩ :=
    Reconciler.longs_computed_exactly query .sales fields .ansi _ rfl
  have sameNames : ["region_cd", "clicks", "views"].map some = names.map some := named
  obtain rfl := (List.map_inj_right fun _ _ => Option.some.inj).mp sameNames
  cases columnsBound
  obtain ⟨record, added, reported⟩ := rows [] cells _ rfl
  obtain ⟨lacking, lackingAdded, lackingReported⟩ := rows [] lackingCells _ rfl
  obtain ⟨_, isName, _, exact⟩ := reported balance (List.mem_singleton_self _) rfl
  cases isName
  obtain ⟨_, isName, lacks, _⟩ := lackingReported balance (List.mem_singleton_self _) rfl
  cases isName
  have stays : balance.StaysLong (Query.counts Long.least 5) := by decide
  have delivers := Query.balances_deliversLongs values
  have lacksClicks := lacks ⟨"clicks", List.mem_cons_self, 0, _, rfl, rfl, rfl⟩
  exact ⟨stays, _, rfl, delivers, ⟨"clicks", List.mem_cons_self, 0, _, rfl, rfl, rfl⟩, _, _, _,
    rfl, rfl, rfl, record, lacking, congrArg Reconciler.records added,
    congrArg Reconciler.records lackingAdded, exact values delivers stays, lacksClicks⟩

/-- A balance that is fifteen below the least of all longs is reported as the least. -/
theorem Reconciler.overflow_reported_as_long_below_least :
    let query := Query.balances
    let fields := FieldMap.ofTable .sales
    let balance := PostAggregation.balance
    let values := Query.counts Long.least (-10)
    let cells : List Cell := [.text "US", .integer Long.least, .integer (-10)]
    ¬ Long.Fits (balance.integerOf values) ∧
      ∃ compiled, query.compile .sales fields .ansi .direct = .ok compiled ∧
        let reconciler : Reconciler :=
          { query, fields, bucketing := compiled.bucketing, mode := compiled.mode }
        reconciler.DeliversLongs cells balance values ∧
          ∃ bound next, reconciler.bind ["region_cd", "clicks", "views"] = .ok bound ∧
            bound.push cells = .ok next ∧
            ∃ record, next.records = [record] ∧
              record.get? "balance" = some (.integer (-9223372036854775808)) := by
  intro query fields balance values cells
  obtain ⟨names, bound, named, columnsBound, rows⟩ :=
    Reconciler.overflow_reported_as_long query .sales fields .ansi _ rfl
  have sameNames : ["region_cd", "clicks", "views"].map some = names.map some := named
  obtain rfl := (List.map_inj_right fun _ _ => Option.some.inj).mp sameNames
  cases columnsBound
  have beyond : ¬ Long.Fits (balance.integerOf (Query.counts Long.least (-10))) := by decide
  have delivers := Query.balances_deliversLongs values
  obtain ⟨record, added, reported⟩ := rows [] cells _ rfl
  obtain ⟨_, fallback, isName, computed, reports, _⟩ :=
    reported balance (List.mem_singleton_self _) rfl values delivers beyond
  cases isName
  have lowest : Number.arithmetic.valueOf
      (fun name => some (.integer (Query.counts Long.least (-10) name))) .balance =
        some (.float (Double.ofInt (-9223372036854775808))) := by decide +kernel
  cases Number.float.inj (Option.some.inj (computed.symm.trans lowest))
  exact ⟨beyond, _, rfl, delivers, _, _, rfl, rfl, record, congrArg Reconciler.records added,
    reports⟩

/-- A balance of `2 ^ 63`, one more than the greatest of all longs, is reported as the greatest,
although the double that the computation falls back to is exact. -/
theorem Reconciler.overflow_loses_exact_double :
    let query := Query.balances
    let fields := FieldMap.ofTable .sales
    let balance := PostAggregation.balance
    let values := Query.counts Long.greatest 6
    let cells : List Cell := [.text "US", .integer Long.greatest, .integer 6]
    balance.isFloat query = false ∧
      balance.integerOf values = 9223372036854775808 ∧
      Number.arithmetic.valueOf (fun name => some (.integer (values name))) balance =
        some (.float (Double.ofInt 9223372036854775808)) ∧
      ∃ compiled, query.compile .sales fields .ansi .direct = .ok compiled ∧
        let reconciler : Reconciler :=
          { query, fields, bucketing := compiled.bucketing, mode := compiled.mode }
        reconciler.DeliversLongs cells balance values ∧
          ∃ bound next, reconciler.bind ["region_cd", "clicks", "views"] = .ok bound ∧
            bound.push cells = .ok next ∧
            ∃ record, next.records = [record] ∧
              record.get? "balance" = some (.integer 9223372036854775807) := by
  intro query fields balance values cells
  have compiles : query.compile .sales fields .ansi .direct = .ok _ := rfl
  obtain ⟨names, bound, named, columnsBound, rows⟩ := Reconciler.longs_reported compiles
  have sameNames : ["region_cd", "clicks", "views"].map some = names.map some := named
  obtain rfl := (List.map_inj_right fun _ _ => Option.some.inj).mp sameNames
  cases columnsBound
  have delivers := Query.balances_deliversLongs values
  have fallback : Number.arithmetic.valueOf
      (fun name => some (.integer (Query.counts Long.greatest 6 name))) .balance =
        some (.float (Double.ofInt 9223372036854775808)) := by decide +kernel
  have cut : (Double.ofInt 9223372036854775808).truncate = Long.greatest := by decide +kernel
  obtain ⟨record, added, reported⟩ := rows [] cells _ rfl
  obtain ⟨_, isName, _, delivered⟩ := reported balance (List.mem_singleton_self _) rfl
  cases isName
  have reports : record.get? "balance" = _ := delivered values delivers
  rw [fallback, reportedNumber, if_neg Bool.false_ne_true, cut] at reports
  exact ⟨rfl, rfl, fallback, _, compiles, delivers, _, _, rfl, rfl, record,
    congrArg Reconciler.records added, reports⟩

end Rollup
