import Rollup.Config
import Rollup.Plan.Compiled
import Rollup.Result.Delivery

/-!
# Clients

A client runs queries against the tables of its configuration.  A query is
compiled first, and only a compiled query asks the pool for a connection, on which
its statement runs.  All of that is cut off when the client's timeout is over.
-/

namespace Rollup

open Sql

/-- A pool of connections, by how it answers a request for one: after how long, with
what statements hand over on the connection, and, if it gives none, for which reason. -/
structure Pool where
  reason : String
  delay : Nat := 0
  connection? : Option (String → Delivery) := none

/-- A query compiled against its table. -/
structure Prepared where
  query : Query
  fields : FieldMap
  compiled : Compiled

/-- What became of a query: how often it asked for a connection, and its response
or error. -/
structure Outcome where
  acquisitions : Nat
  result : Except Error Response

/-- A client.  Of tables of the same name the last one counts.  The timeout is in
seconds. -/
structure Client where
  pool : Pool
  dialect : Dialect
  mode : PostAggregationMode
  tables : List Table
  queryTimeout : Option Nat

namespace Client

/-- The client of a configuration over a pool. -/
def ofPool (pool : Pool) (config : Config) : Client where
  pool := pool
  dialect := Dialect.ofName config.dialect config.timestampFormat
  mode := config.postAggregations
  tables := config.tables
  queryTimeout := config.queryTimeout

/-- The client of a configuration over the pool that its database gives, or the
reason why it gives none. -/
def connect (config : Config) : Except String Pool → Except Error Client
  | .ok pool => .ok (ofPool pool config)
  | .error reason => .error (.execution (.connect reason))

/-- The table of a name. -/
def table? (client : Client) (name : String) : Option Table :=
  client.tables.reverse.find? fun table => table.name == name

/-- The number of names of tables. -/
def tableCount (client : Client) : Nat :=
  (Query.distinctFrom [] (client.tables.map Table.name)).length

/-- The compiled form of a query.  Every error that is not one of execution shows
here. -/
def prepare (client : Client) (query : Query) : Except Error Prepared := do
  match client.table? query.dataSource with
  | none => throw (.invalidQuery (.unknownDataSource query.dataSource))
  | some table =>
      let fields := FieldMap.ofTable table
      return {
        query
        fields
        compiled := ← query.compile table fields client.dialect client.mode }

/-- Asks the pool for a connection and takes in the rows of the statement on it. -/
def fetch (client : Client) (prepared : Prepared) : Timed (Except Error Response) :=
  match client.pool.connection? with
  | none => ⟨client.pool.delay, .error (.execution (.acquire client.pool.reason))⟩
  | some connection =>
      let fetched := (connection prepared.compiled.sql).collect {
        query := prepared.query
        fields := prepared.fields
        bucketing := prepared.compiled.bucketing
        mode := prepared.compiled.mode }
      ⟨client.pool.delay + fetched.elapsed, fetched.result⟩

/-- The result of a query that is cut off after some seconds, if after any.  One that
takes just as long still counts. -/
def limited (timeout : Option Nat) (fetched : Timed (Except Error Response)) :
    Except Error Response :=
  match timeout with
  | none => fetched.result
  | some seconds =>
      if fetched.elapsed ≤ seconds * 1000 then fetched.result
      else .error (.execution (.timeout seconds))

/-- Runs a compiled query, which asks once for a connection. -/
def run (client : Client) (prepared : Prepared) : Outcome where
  acquisitions := 1
  result := limited client.queryTimeout (client.fetch prepared)

/-- Compiles a query and runs it. -/
def execute (client : Client) (query : Query) : Outcome :=
  match client.prepare query with
  | .error error => ⟨0, .error error⟩
  | .ok prepared => client.run prepared

/-! ## In the background -/

/-- A query that was submitted and has not run yet. -/
structure Task where
  client : Client
  prepared : Prepared
  isCancelled : Bool := false

/-- Compiles a query and leaves it to run later, in the runtime that the caller is in. -/
def submit (client : Client) (query : Query) : Except Error Task := do
  return { client, prepared := ← client.prepare query }

/-- Whether a task has ended. -/
def Task.isFinished (task : Task) : Bool :=
  task.isCancelled

/-- Cancels a task before it runs. -/
def Task.abort (task : Task) : Task :=
  { task with isCancelled := true }

/-- What became of a task. -/
def Task.wait (task : Task) : Outcome :=
  if task.isCancelled then ⟨0, .error (.execution .cancelled)⟩
  else task.client.run task.prepared

/-! ## Display -/

/-- A timeout as a client shows it. -/
def timeoutText : Option Nat → String
  | none => "None"
  | some 0 => "Some(0ns)"
  | some seconds => "Some(" ++ Text.naturalText seconds ++ "s)"

/-- What a client shows of itself. -/
def summary (client : Client) : String :=
  "SqlBackedClient \x7b dialect: \"" ++ client.dialect.name.text ++ "\", tables: " ++
    Text.naturalText client.tableCount ++ ", query_timeout: " ++
    timeoutText client.queryTimeout ++ " \x7d"

end Client

end Rollup
