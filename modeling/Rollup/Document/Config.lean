import Rollup.Config
import Rollup.Document.Query

/-!
# Configurations and tables from documents

The names under which documents give the parts of tables and configurations.
-/

namespace Rollup

open Document Sql

/-- The fields of a column. -/
def Column.outline : Outline :=
  .flat ["name", "physical"]

/-- A column. -/
def Column.decode (form : Form) (document : Document) : Decoded Column := do
  let given ← fields form outline.names document
  return {
    name := ← required given "name" toText
    physical := ← defaulted given "physical" none (toOptional toText) }

/-- The fields of a table. -/
def Table.outline : Outline :=
  .fields [("name", .whole), ("table", .whole), ("timestamp_column", .whole),
    ("columns", .items Column.outline)]

/-- A table. -/
def Table.decode (form : Form) (document : Document) : Decoded Table := do
  let given ← fields form outline.names document
  return {
    name := ← required given "name" toText
    relation := ← required given "table" toText
    timestampColumn := ← defaulted given "timestamp_column" "__time" toText
    columns := ← defaulted given "columns" [] (toList (Column.decode form)) }

/-- How a table is read. -/
def Table.layout : Layout Table :=
  { outline := outline, decode := decode }

/-- The name of a dialect. -/
def Sql.DialectName.decode (form : Form) : Document → Decoded DialectName :=
  toVariant form (choicesOf DialectName.text DialectName.every)

/-- A mode of post-aggregations. -/
def PostAggregationMode.decode (form : Form) : Document → Decoded PostAggregationMode :=
  toVariant form (choicesOf PostAggregationMode.name PostAggregationMode.every)

/-- The fields of a configuration. -/
def Config.outline : Outline :=
  .fields [("database_url", .whole), ("dialect", .whole), ("max_connections", .whole),
    ("acquire_timeout_secs", .whole), ("query_timeout_secs", .whole),
    ("post_aggregations", .whole), ("timestamp_format", .whole),
    ("tables", .items Table.outline)]

/-- A configuration. -/
def Config.decode (form : Form) (document : Document) : Decoded Config := do
  let given ← fields form outline.names document
  return {
    databaseUrl := ← required given "database_url" toText
    dialect := ← defaulted given "dialect" .ansi (DialectName.decode form)
    maxConnections := ← defaulted given "max_connections" 10 (toNatural halfWordBound)
    acquireTimeout := ← defaulted given "acquire_timeout_secs" 30 (toNatural wordBound)
    queryTimeout := ← defaulted given "query_timeout_secs" none
      (toOptional (toNatural wordBound))
    postAggregations := ← defaulted given "post_aggregations" .sql
      (PostAggregationMode.decode form)
    timestampFormat := ← defaulted given "timestamp_format" none (toOptional toText)
    tables := ← defaulted given "tables" [] (toList (Table.decode form)) }

/-- How a configuration is read. -/
def Config.layout : Layout Config :=
  { outline := outline, decode := decode }

end Rollup
