import Rollup.Plan.Statement
import Rollup.Schema.Table

/-!
# Configuration

What a backend is set up with: its database, its dialect, limits on connections
and queries, and its tables.
-/

namespace Rollup

open Sql

/-- The configuration of a backend.  Timeouts are in seconds; the timestamp format
is for timestamps that are stored as text. -/
structure Config where
  databaseUrl : String
  dialect : DialectName := .ansi
  maxConnections : Nat := 10
  acquireTimeout : Nat := 30
  queryTimeout : Option Nat := none
  postAggregations : PostAggregationMode := .sql
  timestampFormat : Option String := none
  tables : List Table := []

/-- The first table of a name. -/
def Config.table? (config : Config) (name : String) : Option Table :=
  config.tables.find? fun table => table.name == name

end Rollup
