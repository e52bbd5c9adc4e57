import Rollup.Plan.Statement
import Rollup.Sql.Writer

/-!
# Compiled queries

The statement of a query with its text and with what is needed to read its rows.
-/

namespace Rollup

open Sql

/-- A statement ready to run. -/
structure Compiled where
  statement : Select
  sql : String
  bucketing : Bucketing
  mode : PostAggregationMode

/-- The compiled form of a query over a table. -/
def Query.compile (query : Query) (table : Table) (fields : FieldMap) (dialect : Dialect)
    (mode : PostAggregationMode) : Except Error Compiled := do
  let statement ← query.statement table fields dialect mode
  let sql ← statement.render dialect
  return { statement, sql, bucketing := Bucketing.ofQuery query, mode }

end Rollup
