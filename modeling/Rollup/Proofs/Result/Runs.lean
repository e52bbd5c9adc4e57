import Mathlib.Data.List.Chain
import Rollup.Proofs.Plan.Columns
import Rollup.Proofs.Result.Calls
import Rollup.Proofs.Result.Record

/-!
# Entries of the greatest groups

The response to a query for the greatest groups has an entry for each run of records of the
same instant.  The entries grow record by record, and at each stage they hold the records so
far: none is lost, repeated, put out of order or put under another instant.  A query of this
type that compiles has one bucket only, and so no more than one entry.
-/

namespace Rollup

open Sql

namespace Response

/-- An entry in the document of a response: the start of a bucket and the fields of each
record. -/
def entry (run : Instant × List Fields) : Json :=
  .object [("timestamp", .text run.1.millisecondText),
    ("result", .list (run.2.map Json.object))]

/-- The entries with one more record, which goes into the last of them if that is of the same
instant. -/
def extendRuns (entries : List (Instant × List Fields)) (record : Record) :
    List (Instant × List Fields) :=
  match entries.getLast? with
  | none => [(record.timestamp, [record.fields])]
  | some (timestamp, rows) =>
      if timestamp = record.timestamp then
        entries.dropLast ++ [(timestamp, rows ++ [record.fields])]
      else entries ++ [(record.timestamp, [record.fields])]

/-- Entries that hold some records in order, each of them under its own instant.  None is
empty, and none is of the same instant as the next one. -/
structure IsGrouping (records : List Record) (entries : List (Instant × List Fields)) :
    Prop where
  inhabited : ∀ entry ∈ entries, entry.2 ≠ []
  inOrder : (entries.flatMap fun entry => entry.2.map (Prod.mk entry.1)) =
    records.map fun record => (record.timestamp, record.fields)
  apart : (entries.map Prod.fst).IsChain (· ≠ ·)

/-- Whether all that lies between two occurrences of an instant is that instant. -/
def IsContiguous (instants : List Instant) : Prop :=
  ∀ outer inner, [outer, inner, outer].Sublist instants → inner = outer

variable {records : List Record} {entries : List (Instant × List Fields)}

/-! ## One more record -/

theorem extendRuns_same (before : List (Instant × List Fields)) (rows : List Fields)
    (record : Record) :
    extendRuns (before ++ [(record.timestamp, rows)]) record =
      before ++ [(record.timestamp, rows ++ [record.fields])] := by
  rw [extendRuns, List.getLast?_concat, List.dropLast_concat]
  exact if_pos rfl

theorem extendRuns_other {last : Instant × List Fields} {record : Record}
    (different : last.1 ≠ record.timestamp) (before : List (Instant × List Fields)) :
    extendRuns (before ++ [last]) record =
      before ++ [last] ++ [(record.timestamp, [record.fields])] := by
  rw [extendRuns, List.getLast?_concat]
  exact if_neg different

/-- Only the last entry and what is behind it changes. -/
theorem extendRuns_cons_cons (first second : Instant × List Fields)
    (rest : List (Instant × List Fields)) (record : Record) :
    extendRuns (first :: second :: rest) record = first :: extendRuns (second :: rest) record := by
  rcases (second :: rest).eq_nil_or_concat' with none | ⟨before, ⟨timestamp, rows⟩, ends⟩
  · cases none
  rw [ends, ← List.cons_append]
  by_cases same : timestamp = record.timestamp
  · subst same
    rw [extendRuns_same, extendRuns_same, List.cons_append]
  · rw [extendRuns_other same, extendRuns_other same, List.cons_append, List.cons_append]

/-- The runs of records grow at their end. -/
@[simp]
theorem runs_append_singleton (records : List Record) (record : Record) :
    runs (records ++ [record]) = extendRuns (runs records) record := by
  induction records with
  | nil => rfl
  | cons first rest inductionHypothesis =>
      rw [List.cons_append, runs, inductionHypothesis, runs]
      match runs rest with
      | [] =>
          by_cases same : record.timestamp = first.timestamp
          · simp [extendRuns, same]
          · simp [extendRuns, same, Ne.symm same]
      | [(timestamp, rows)] =>
          by_cases last : timestamp = record.timestamp <;>
            by_cases same : timestamp = first.timestamp <;>
              simp_all [extendRuns]
      | run :: next :: others =>
          rw [extendRuns_cons_cons]
          by_cases same : run.1 = first.timestamp
          · simp only [same, if_true, extendRuns_cons_cons]
          · simp only [same, if_false, extendRuns_cons_cons]

/-- Entries that hold some records in order hold one more when it is added to them. -/
theorem IsGrouping.extend (grouping : IsGrouping records entries) (record : Record) :
    IsGrouping (records ++ [record]) (extendRuns entries record) := by
  obtain ⟨inhabited, inOrder, apart⟩ := grouping
  rcases entries.eq_nil_or_concat' with rfl | ⟨before, ⟨timestamp, rows⟩, rfl⟩
  · refine ⟨?_, ?_, .singleton _⟩
    · exact List.forall_mem_singleton.mpr (List.cons_ne_nil _ _)
    · rw [List.map_append, ← inOrder]
      rfl
  by_cases same : timestamp = record.timestamp
  · subst same
    rw [extendRuns_same]
    rw [List.forall_mem_append] at inhabited
    refine ⟨?_, ?_, ?_⟩
    · refine List.forall_mem_append.mpr ⟨inhabited.1, List.forall_mem_singleton.mpr ?_⟩
      exact List.append_ne_nil_of_right_ne_nil _ (List.cons_ne_nil _ _)
    · rw [List.map_append, ← inOrder]
      simp
    · rw [List.map_append] at apart ⊢
      exact apart
  · rw [extendRuns_other same]
    refine ⟨?_, ?_, ?_⟩
    · refine List.forall_mem_append.mpr ⟨inhabited, List.forall_mem_singleton.mpr ?_⟩
      exact List.cons_ne_nil _ _
    · rw [List.map_append, ← inOrder, List.flatMap_append]
      rfl
    · rw [List.map_append, List.isChain_append]
      refine ⟨apart, .singleton _, ?_⟩
      intro last lastIs next nextIs
      rw [List.map_append, List.map_singleton, List.getLast?_concat] at lastIs
      cases lastIs
      cases nextIs
      exact same

/-- The runs of records hold them in order. -/
theorem isGrouping_runs (records : List Record) : IsGrouping records (runs records) := by
  induction records using List.reverseRecOn with
  | nil => exact ⟨List.forall_mem_nil _, rfl, .nil⟩
  | append_singleton before record inductionHypothesis =>
      rw [runs_append_singleton]
      exact inductionHypothesis.extend record

/-! ## The instants of the entries -/

namespace IsGrouping

/-- The fields of all entries are those of the records. -/
theorem fields_eq (grouping : IsGrouping records entries) :
    entries.flatMap Prod.snd = records.map Record.fields := by
  have fields := congrArg (List.map Prod.snd) grouping.inOrder
  rw [List.map_flatMap, List.map_map] at fields
  simpa [Function.comp_def] using fields

/-- The entries are of instants of the records, in the order of these. -/
theorem sublist_instants (grouping : IsGrouping records entries) :
    (entries.map Prod.fst).Sublist (records.map Record.timestamp) := by
  have instants := congrArg (List.map Prod.fst) grouping.inOrder
  rw [List.map_flatMap, List.map_map] at instants
  change _ = records.map Record.timestamp at instants
  rw [← instants]
  have inhabited := grouping.inhabited
  clear grouping instants
  induction entries with
  | nil => exact .slnil
  | cons entry rest inductionHypothesis =>
      obtain ⟨some, others⟩ := List.forall_mem_cons.mp inhabited
      obtain ⟨fields, more, rows⟩ := List.exists_cons_of_ne_nil some
      rw [List.map_cons, List.flatMap_cons, rows]
      exact ((inductionHypothesis others).trans (List.sublist_append_right _ _)).cons_cons _

/-- Each record has an entry of its instant. -/
theorem instant_mem (grouping : IsGrouping records entries) {record : Record}
    (listed : record ∈ records) : record.timestamp ∈ entries.map Prod.fst := by
  have held : (record.timestamp, record.fields) ∈
      records.map fun record => (record.timestamp, record.fields) :=
    List.mem_map_of_mem listed
  rw [← grouping.inOrder, List.mem_flatMap] at held
  obtain ⟨entry, member, row⟩ := held
  obtain ⟨_, _, same⟩ := List.mem_map.mp row
  exact List.mem_map.mpr ⟨entry, member, congrArg Prod.fst same⟩

/-- There is at most one entry of records that all are of one instant. -/
theorem length_le_one (grouping : IsGrouping records entries) {origin : Instant}
    (same : ∀ record ∈ records, record.timestamp = origin) : entries.length ≤ 1 := by
  have ofOrigin : ∀ instant ∈ entries.map Prod.fst, instant = origin := by
    intro instant listed
    obtain ⟨record, member, rfl⟩ := List.mem_map.mp (grouping.sublist_instants.subset listed)
    exact same record member
  match entries, grouping.apart, ofOrigin with
  | [], _, _ => exact Nat.zero_le 1
  | [_], _, _ => exact Nat.le_refl 1
  | first :: second :: _, apart, ofOrigin =>
      have different : first.1 ≠ second.1 := (List.isChain_cons_cons.mp apart).1
      refine absurd ?_ different
      rw [ofOrigin first.1 (by simp), ofOrigin second.1 (by simp)]

end IsGrouping

/-- Instants that differ from their neighbours are distinct where they are contiguous. -/
theorem nodup_of_isContiguous {instants : List Instant} (apart : instants.IsChain (· ≠ ·))
    (contiguous : IsContiguous instants) : instants.Nodup := by
  induction instants with
  | nil => exact .nil
  | cons first rest inductionHypothesis =>
      have restContiguous : IsContiguous rest :=
        fun outer inner within => contiguous outer inner (within.cons first)
      refine List.nodup_cons.mpr ⟨fun again => ?_, inductionHypothesis apart.tail restContiguous⟩
      match rest, apart, again with
      | second :: others, apart, again =>
          have different : first ≠ second := (List.isChain_cons_cons.mp apart).1
          have later : first ∈ others := (List.mem_cons.mp again).resolve_left different
          have around : [first, second, first].Sublist (first :: second :: others) :=
            ((List.singleton_sublist.mpr later).cons_cons second).cons_cons first
          exact different (contiguous first second around).symm

end Response

namespace Query

variable {query : Query} {table : Table} {fields : FieldMap} {dialect : Dialect}
  {mode : PostAggregationMode} {compiled : Compiled}

/-- A query for the greatest groups that compiles has one bucket for all time. -/
theorem granularity_of_topN (topN : query.type = .topN)
    (compiles : query.compile table fields dialect mode = .ok compiled) :
    compiled.bucketing.granularity = .all := by
  obtain ⟨stated, bucketing, _⟩ := compile_eq_ok compiles
  obtain ⟨inner, statedInner, _⟩ := bind_eq_ok_iff.mp stated
  have checked := (aggregateStatement_eq_ok_iff.mp statedInner).1
  rw [check, andThen_eq_ok_iff, checkType, topN] at checked
  rw [bucketing]
  change query.granularity = .all
  by_contra other
  obtain ⟨checkedType, _⟩ := checked
  cases dimension : query.dimension with
  | none =>
      rw [dimension] at checkedType
      cases checkedType
  | some _ =>
      simp only [dimension, ne_eq, other, not_false_eq_true, if_true] at checkedType
      split_ifs at checkedType

end Query

namespace Reconciler

variable {reconciler : Reconciler}

/-- In one bucket for all time, a record is of the origin. -/
theorem timestamp_of_recordOf (whole : reconciler.bucketing.granularity = .all)
    {cells : List Cell} {record : Record} (read : reconciler.recordOf cells = .ok record) :
    record.timestamp = reconciler.bucketing.origin := by
  cases bound : reconciler.layout with
  | none =>
      rw [recordOf, bound] at read
      cases read
  | some layout =>
      obtain ⟨values, _, _, _, _, stamped⟩ := recordOf_eq_ok bound read
      rw [timestamp, whole] at stamped
      obtain ⟨parts, _, started⟩ := bind_eq_ok_iff.mp stamped
      rw [Bucketing.start, whole] at started
      exact (Except.ok.inj started).symm

/-- In one bucket for all time, any calls leave records of the origin only. -/
theorem timestamp_of_leftBy (whole : reconciler.bucketing.granularity = .all)
    (fresh : reconciler.records = []) (calls : List Call) :
    ∀ record ∈ (reconciler.leftBy calls).records,
      record.timestamp = reconciler.bucketing.origin := by
  induction calls using List.reverseRecOn with
  | nil =>
      rw [leftBy, List.foldl_nil, fresh]
      exact List.forall_mem_nil _
  | append_singleton before call inductionHypothesis =>
      obtain ⟨_, left⟩ := reconciler.exists_leftBy_eq before
      have sameBucketing : (reconciler.leftBy before).bucketing = reconciler.bucketing := by
        rw [left]
      rw [leftBy_append]
      cases ended : call.next (reconciler.leftBy before) with
      | error error => rwa [leftBy_of_error ended]
      | ok next =>
          rw [leftBy_of_next ended]
          cases call with
          | bind columns =>
              obtain ⟨_, rfl⟩ := bind_eq_ok_iff_le.mp ended
              exact inductionHypothesis
          | push cells =>
              obtain ⟨record, made, rfl⟩ := push_eq_ok_iff.mp ended
              refine List.forall_mem_append.mpr ⟨inductionHypothesis,
                List.forall_mem_singleton.mpr ?_⟩
              rw [← sameBucketing] at whole ⊢
              exact timestamp_of_recordOf whole made

/-- Grouping the records of the greatest groups loses, repeats and reorders nothing.  The
document has an entry for each run: no entry is empty, all entries together hold the fields of
each record under its own instant and in order, and neighbours are of different instants.  Where
the instants of the records are contiguous, each has one entry.  The records of a query that
compiles, whatever calls they come from, all are in one entry, if there is a record at all. -/
theorem topN_groups_records :
    (∀ records,
      (⟨.topN, records⟩ : Response).toJson =
        .list ((Response.runs records).map Response.entry) ∧
      Response.IsGrouping records (Response.runs records) ∧
      (Response.IsContiguous (records.map Record.timestamp) → ∀ record ∈ records,
        ((Response.runs records).map Prod.fst).count record.timestamp = 1)) ∧
    ∀ (query : Query) table fields dialect mode compiled,
      query.compile table fields dialect mode = .ok compiled → query.type = .topN →
      ∀ calls : List Call,
        let reconciler : Reconciler :=
          { query, fields, bucketing := compiled.bucketing, mode := compiled.mode }
        let records := (reconciler.leftBy calls).records
        let entries := Response.runs records
        (reconciler.leftBy calls).finish.toJson = .list (entries.map Response.entry) ∧
          entries.length ≤ 1 ∧ entries.flatMap Prod.snd = records.map Record.fields := by
  refine ⟨fun records => ⟨rfl, Response.isGrouping_runs records, ?contiguous⟩, ?compiled⟩
  case contiguous =>
    intro contiguous record listed
    have grouping := Response.isGrouping_runs records
    have distinct : ((Response.runs records).map Prod.fst).Nodup :=
      Response.nodup_of_isContiguous grouping.apart fun outer inner within =>
        contiguous outer inner (within.trans grouping.sublist_instants)
    exact List.count_eq_one_of_mem distinct (grouping.instant_mem listed)
  case compiled =>
    intro query table fields dialect mode compiled compiles topN calls reconciler records entries
    have whole : reconciler.bucketing.granularity = .all :=
      Query.granularity_of_topN topN compiles
    have grouping : Response.IsGrouping records entries := Response.isGrouping_runs records
    obtain ⟨_, left⟩ := reconciler.exists_leftBy_eq calls
    have sameQuery : (reconciler.leftBy calls).query = query := by rw [left]
    refine ⟨?_, grouping.length_le_one (timestamp_of_leftBy whole rfl calls), grouping.fields_eq⟩
    rw [finish, sameQuery, topN]
    rfl

/-- The two regions with the greatest totals. -/
def topRegions : Query where
  type := .topN
  dataSource := "sales"
  dimension := some "region"
  metric := some "total"
  threshold := some 2
  aggregations := [.ofField .longSum "total" "amount"]

/-- Two rows with a malformed one between them make one entry, of the origin. -/
theorem topN_groups_records_of_topRegions :
    let table : Table := ⟨"sales", "sales", "ts", [⟨"region", some "region_cd"⟩]⟩
    let records : List Record := [
      ⟨.epoch, [("region", .text "east"), ("total", .integer 30)]⟩,
      ⟨.epoch, [("region", .text "west"), ("total", .integer 20)]⟩]
    let calls : List Call := [.bind ["region_cd", "total"],
      .push [.text "east", .integer 30], .push [.text "north"], .push [.text "west", .integer 20]]
    ∃ compiled, topRegions.compile table (.ofTable table) .sqlite .direct = .ok compiled ∧
      let reconciler : Reconciler :=
        { query := topRegions, fields := .ofTable table, bucketing := compiled.bucketing,
          mode := compiled.mode }
      (reconciler.leftBy calls).records = records ∧
        (Response.runs (reconciler.leftBy calls).records).length ≤ 1 ∧
        Response.IsContiguous (records.map Record.timestamp) ∧
        ∀ record ∈ records,
          ((Response.runs records).map Prod.fst).count record.timestamp = 1 := by
  intro table records calls
  obtain ⟨compiled, compiles⟩ : ∃ compiled,
      topRegions.compile table (.ofTable table) .sqlite .direct = .ok compiled := ⟨_, rfl⟩
  obtain ⟨_, bucketing, mode⟩ := Query.compile_eq_ok compiles
  have contiguous : Response.IsContiguous (records.map Record.timestamp) := by
    intro outer inner within
    have same : ∀ instant ∈ [outer, inner, outer], instant = Instant.epoch := fun _ listed =>
      List.eq_of_mem_replicate (n := 2) (within.subset listed)
    rw [same outer (by simp), same inner (by simp)]
  refine ⟨compiled, compiles, ?_, ?_, contiguous, ?_⟩
  · rw [bucketing, mode]
    rfl
  · exact (topN_groups_records.2 topRegions table (.ofTable table) .sqlite .direct compiled
      compiles rfl calls).2.1
  · exact (topN_groups_records.1 records).2.2 contiguous

end Reconciler

end Rollup
