import Rollup.Document.Layout
import Rollup.Query.Basic

/-!
# Queries from documents

The names under which documents give the parts of a query.  Filters, searches,
having trees and post-aggregations are tagged structures; a document nests them no
deeper than it is itself, which bounds the reading of them.
-/

namespace Rollup

open Document

/-- The choices among some values by their names. -/
def choicesOf {α : Type} (name : α → String) (values : List α) : List (String × α) :=
  values.map fun value => (name value, value)

/-! ## Filters -/

/-- A search. -/
def Search.decode (form : Form) (document : Document) : Decoded Search := do
  let (mode, rest) ← tagged form
    (choicesOf SearchMode.name [.contains, .insensitiveContains, .fragment]) document
  match mode with
  | .contains =>
      let given ← fields .resolved ["value", "caseSensitive"] rest
      return .contains (← required given "value" toText)
        (← defaulted given "caseSensitive" true toBoolean)
  | .insensitiveContains =>
      let given ← fields .resolved ["value"] rest
      return .insensitiveContains (← required given "value" toText)
  | .fragment =>
      let given ← fields .resolved ["values"] rest
      return .fragments (← required given "values" (toList toText))

/-- The names of the kinds of filters. -/
def Filter.typeNames : List String :=
  ["selector", "regex", "search", "in", "and", "or", "not"]

/-- A filter of at most the depth that the fuel allows. -/
def Filter.decodeWithin : Nat → Form → Document → Decoded Filter
  | 0, _, _ => .error .malformed
  | fuel + 1, form, document => do
      let (type, rest) ← tagged form (choicesOf id Filter.typeNames) document
      let inner := Filter.decodeWithin fuel .resolved
      match type with
      | "selector" =>
          let given ← fields .resolved ["dimension", "value"] rest
          return .selector (← required given "dimension" toText)
            (← required given "value" toText)
      | "regex" =>
          let given ← fields .resolved ["dimension", "pattern"] rest
          return .regex (← required given "dimension" toText)
            (← required given "pattern" toText)
      | "search" =>
          let given ← fields .resolved ["dimension", "query"] rest
          return .search (← required given "dimension" toText)
            (← required given "query" (Search.decode .resolved))
      | "in" =>
          let given ← fields .resolved ["dimension", "values"] rest
          return .oneOf (← required given "dimension" toText)
            (← required given "values" (toList toText))
      | "and" =>
          let given ← fields .resolved ["fields"] rest
          return .all (← required given "fields" (toList inner))
      | "or" =>
          let given ← fields .resolved ["fields"] rest
          return .any (← required given "fields" (toList inner))
      | _ =>
          let given ← fields .resolved ["field"] rest
          return .not (← required given "field" inner)

/-- A filter. -/
def Filter.decode (form : Form) (document : Document) : Decoded Filter :=
  Filter.decodeWithin (document.depth + 1) form document

/-! ## Having trees -/

/-- The names of the kinds of having trees. -/
def Having.typeNames : List String :=
  ["equalTo", "lessThan", "greaterThan", "and", "or", "not", "multi"]

/-- A comparison of an aggregate. -/
def Having.decodeComparison (comparison : Comparison) (document : Document) : Decoded Having := do
  let given ← fields .resolved ["aggregation", "value"] document
  return .compare (← required given "aggregation" toText) comparison
    (← required given "value" toDouble)

/-- A having tree of at most the depth that the fuel allows. -/
def Having.decodeWithin : Nat → Form → Document → Decoded Having
  | 0, _, _ => .error .malformed
  | fuel + 1, form, document => do
      let (type, rest) ← tagged form (choicesOf id Having.typeNames) document
      let inner := Having.decodeWithin fuel .resolved
      match type with
      | "equalTo" => Having.decodeComparison .equal rest
      | "lessThan" => Having.decodeComparison .less rest
      | "greaterThan" => Having.decodeComparison .greater rest
      | "and" =>
          let given ← fields .resolved ["havingSpecs"] rest
          return .all (← required given "havingSpecs" (toList inner))
      | "or" =>
          let given ← fields .resolved ["havingSpecs"] rest
          return .any (← required given "havingSpecs" (toList inner))
      | "not" =>
          let given ← fields .resolved ["havingSpec"] rest
          return .not (← required given "havingSpec" inner)
      | _ =>
          let given ← fields .resolved ["operator", "havingSpecs"] rest
          return .multi
            (← required given "operator"
              (toVariant .resolved (choicesOf Connective.name [.and, .or])))
            (← required given "havingSpecs" (toList inner))

/-- A having tree. -/
def Having.decode (form : Form) (document : Document) : Decoded Having :=
  Having.decodeWithin (document.depth + 1) form document

/-! ## Aggregations and post-aggregations -/

/-- The kind of an aggregation. -/
def AggregationKind.decode (form : Form) : Document → Decoded AggregationKind :=
  toVariant form (choicesOf AggregationKind.name AggregationKind.every)

/-- The fields of an aggregation. -/
def Aggregation.outline : Outline :=
  .flat ["type", "name", "fieldName"]

/-- An aggregation. -/
def Aggregation.decode (form : Form) (document : Document) : Decoded Aggregation := do
  let given ← fields form outline.names document
  return {
    kind := ← required given "type" (AggregationKind.decode form)
    name := ← required given "name" toText
    field := ← defaulted given "fieldName" none (toOptional toText) }

/-- An operation of arithmetic. -/
def ArithmeticOperator.decode (form : Form) : Document → Decoded ArithmeticOperator :=
  toVariant form (choicesOf ArithmeticOperator.sign ArithmeticOperator.every)

/-- The names of the kinds of post-aggregations. -/
def PostAggregation.typeNames : List String :=
  ["constant", "fieldAccess", "arithmetic", "thetaSketchEstimate", "thetaSketchSetOp"]

/-- A post-aggregation of at most the depth that the fuel allows. -/
def PostAggregation.decodeWithin : Nat → Form → Document → Decoded PostAggregation
  | 0, _, _ => .error .malformed
  | fuel + 1, form, document => do
      let (type, rest) ← tagged form (choicesOf id PostAggregation.typeNames) document
      let inner := PostAggregation.decodeWithin fuel .resolved
      match type with
      | "constant" =>
          let given ← fields .resolved ["name", "value"] rest
          return .constant (← required given "name" toText) (← required given "value" toNumber)
      | "fieldAccess" =>
          let given ← fields .resolved ["fieldName"] rest
          return .field (← required given "fieldName" toText)
      | "arithmetic" =>
          let given ← fields .resolved ["name", "fn", "fields"] rest
          return .arithmetic (← required given "name" toText)
            (← required given "fn" (ArithmeticOperator.decode .resolved))
            (← required given "fields" (toList inner))
      | "thetaSketchEstimate" =>
          let given ← fields .resolved ["name", "field"] rest
          return .sketchEstimate (← required given "name" toText)
            (← required given "field" inner)
      | _ =>
          let given ← fields .resolved ["name", "func", "fields", "size"] rest
          return .sketchOperation (← required given "name" toText)
            (← required given "func"
              (toVariant .resolved (choicesOf SetOperator.name SetOperator.every)))
            (← required given "fields" (toList inner))
            (← defaulted given "size" none (toOptional (toNatural halfWordBound)))

/-- A post-aggregation. -/
def PostAggregation.decode (form : Form) (document : Document) : Decoded PostAggregation :=
  PostAggregation.decodeWithin (document.depth + 1) form document

/-! ## Queries -/

/-- A granularity. -/
def Granularity.decode (form : Form) : Document → Decoded Granularity :=
  toVariant form (choicesOf Granularity.name Granularity.every)

/-- A kind of query. -/
def QueryType.decode (form : Form) : Document → Decoded QueryType :=
  toVariant form (choicesOf QueryType.name QueryType.every)

/-- The direction of a sort. -/
def SortDirection.decode (form : Form) : Document → Decoded SortDirection :=
  toVariant form (choicesOf SortDirection.name SortDirection.every)

/-- The fields of an explicit sort. -/
def SortColumn.outline : Outline :=
  .flat ["dimension", "direction"]

/-- An explicit sort. -/
def SortColumn.decode (form : Form) (document : Document) : Decoded SortColumn := do
  let given ← fields form outline.names document
  return {
    column := ← required given "dimension" toText
    direction := ← defaulted given "direction" .ascending (SortDirection.decode form) }

/-- The fields of a sort and a limit. -/
def LimitSpec.outline : Outline :=
  .fields [("limit", .whole), ("columns", .items SortColumn.outline)]

/-- A sort and a limit. -/
def LimitSpec.decode (form : Form) (document : Document) : Decoded LimitSpec := do
  let given ← fields form outline.names document
  return {
    limit := ← defaulted given "limit" none (toOptional (toNatural wordBound))
    columns := ← defaulted given "columns" [] (toList (SortColumn.decode form)) }

namespace Query

/-- The fields of a query, in the order of their positions. -/
def outline : Outline :=
  .fields [("queryType", .whole), ("dataSource", .whole), ("dimensions", .whole),
    ("granularity", .whole), ("intervals", .whole), ("filter", .whole),
    ("aggregations", .items Aggregation.outline), ("postAggregations", .whole),
    ("having", .whole), ("limitSpec", LimitSpec.outline), ("dimension", .whole),
    ("metric", .whole), ("threshold", .whole)]

/-- A query with one of its fields read from a document. -/
def withField (form : Form) (query : Query) (name : String) (document : Document) :
    Decoded Query := do
  match name with
  | "queryType" => return { query with type := ← QueryType.decode form document }
  | "dataSource" => return { query with dataSource := ← document.toText }
  | "dimensions" => return { query with dimensions := ← document.toList toText }
  | "granularity" => return { query with granularity := ← Granularity.decode form document }
  | "intervals" => return { query with intervals := ← document.toList toInterval }
  | "filter" => return { query with filter := ← document.toOptional (Filter.decode form) }
  | "aggregations" =>
      return { query with aggregations := ← document.toList (Aggregation.decode form) }
  | "postAggregations" =>
      return { query with postAggregations := ← document.toList (PostAggregation.decode form) }
  | "having" => return { query with having := ← document.toOptional (Having.decode form) }
  | "limitSpec" =>
      return { query with limitSpec := ← document.toOptional (LimitSpec.decode form) }
  | "dimension" => return { query with dimension := ← document.toOptional toText }
  | "metric" => return { query with metric := ← document.toOptional toText }
  | "threshold" =>
      return { query with threshold := ← document.toOptional (toNatural wordBound) }
  | _ => return query

/-- A query with the fields that a document gives, in the document's order, so that
the first fault in it is the one reported. -/
def withFields (form : Form) : Query → Given → Decoded Query
  | query, [] => .ok query
  | query, (name, document) :: rest => do
      withFields form (← query.withField form name document) rest

/-- A query.  Its data source has to be given. -/
def decode (form : Form) (document : Document) : Decoded Query := do
  let given ← fields form outline.names document
  let query ← withFields form { dataSource := "" } given
  if (given.lookup "dataSource").isSome then return query else throw .malformed

/-- How a query is read. -/
def layout : Layout Query :=
  { outline := outline, decode := decode }

end Query

end Rollup
