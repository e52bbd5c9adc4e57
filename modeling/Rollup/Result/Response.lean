import Rollup.Instant.Notation
import Rollup.Json.Value
import Rollup.Query.Basic

/-!
# Responses

The records of a result and the document that reports them.  A query that groups
reports one entry for each record; a query for the greatest groups reports one
entry for each run of records of the same bucket.
-/

namespace Rollup

/-- The fields of a record, in the order in which they were first put. -/
abbrev Fields := List (String × Json)

namespace Fields

/-- The fields with a value under a name, which replaces the value that the name
had. -/
def put (name : String) (value : Json) : Fields → Fields
  | [] => [(name, value)]
  | (first, old) :: rest =>
      if first = name then (name, value) :: rest else (first, old) :: put name value rest

/-- The value under a name. -/
def get? (fields : Fields) (name : String) : Option Json :=
  fields.lookup name

/-- The fields of some entries; of repeated names the last one counts. -/
def ofEntries (entries : List (String × Json)) : Fields :=
  entries.foldl (fun fields entry => fields.put entry.1 entry.2) []

@[simp]
theorem get?_put_self (name : String) (value : Json) (fields : Fields) :
    (fields.put name value).get? name = some value := by
  induction fields with
  | nil => simp [put, get?]
  | cons entry rest inductionHypothesis =>
      obtain ⟨first, old⟩ := entry
      by_cases same : first = name
      · simp [put, get?, same]
      · have different : (name == first) = false := by simpa using fun h => same h.symm
        simpa [put, get?, same, List.lookup_cons, different] using inductionHypothesis

end Fields

/-- A record of a result: the start of its bucket and its fields. -/
structure Record where
  timestamp : Instant
  fields : Fields

namespace Record

/-- The value of a field. -/
def get? (record : Record) (name : String) : Option Json :=
  record.fields.get? name

end Record

/-- The records of a query's result. -/
structure Response where
  type : QueryType
  records : List Record

namespace Response

/-- The number of records. -/
def size (response : Response) : Nat :=
  response.records.length

/-- Whether there are no records. -/
def isEmpty (response : Response) : Bool :=
  response.records.isEmpty

/-- Runs of records with the same bucket: its start and the fields of each
record. -/
def runs : List Record → List (Instant × List Fields)
  | [] => []
  | record :: rest =>
      match runs rest with
      | [] => [(record.timestamp, [record.fields])]
      | (timestamp, rows) :: others =>
          if timestamp = record.timestamp then (timestamp, record.fields :: rows) :: others
          else (record.timestamp, [record.fields]) :: (timestamp, rows) :: others

/-- The document of a response. -/
def toJson (response : Response) : Json :=
  match response.type with
  | .groupBy =>
      .list (response.records.map fun record =>
        .object [("version", .text "v1"), ("timestamp", .text record.timestamp.millisecondText),
          ("event", .object record.fields)])
  | .timeseries =>
      .list (response.records.map fun record =>
        .object [("timestamp", .text record.timestamp.millisecondText),
          ("result", .object record.fields)])
  | .topN =>
      .list ((runs response.records).map fun (timestamp, rows) =>
        .object [("timestamp", .text timestamp.millisecondText),
          ("result", .list (rows.map Json.object))])

end Response

end Rollup
