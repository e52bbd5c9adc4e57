import Rollup.Client
import Rollup.Proofs.Plan.Faults
import Rollup.Proofs.Result.Delivery

/-!
# Compiling before connecting

A client compiles a query before it asks its pool for a connection, at once and in the
background alike.  So a fault of the query is reported as such without a connection being
asked for.  With a pool that gives no connection every other query ends with the failure to
get one, or with the timeout of the client if that is over before the pool answers.  Only a
query whose statement runs to its end has a response.
-/

namespace Rollup

namespace Client

variable {client : Client} {query : Query} {prepared : Prepared}

section

variable {timeout : Option Nat} {fetched : Timed (Except Error Response)}

/-- A query that is cut off has no response. -/
theorem result_of_limited {response : Response}
    (answered : limited timeout fetched = .ok response) : fetched.result = .ok response := by
  cases timeout with
  | none => exact answered
  | some seconds =>
      rw [limited] at answered
      split at answered
      · exact answered
      · cases answered

end

/-! ## Running -/

theorem execute_of_error {error : Error} (refused : client.prepare query = .error error) :
    client.execute query = ⟨0, .error error⟩ := by
  rw [execute, refused]

theorem execute_of_ok (compiled : client.prepare query = .ok prepared) :
    client.execute query = client.run prepared := by
  rw [execute, compiled]

/-- A query that has a response was prepared and got a connection on which its statement ran to
the end, and it has a record for each row. -/
theorem execute_eq_ok {response : Response}
    (answered : (client.execute query).result = .ok response) :
    ∃ prepared connection, client.prepare query = .ok prepared ∧
      client.pool.connection? = some connection ∧
      (connection prepared.compiled.sql).failure? = none ∧
      response.size = (connection prepared.compiled.sql).rows.length := by
  cases compiled : client.prepare query with
  | error error =>
      rw [execute_of_error compiled] at answered
      cases answered
  | ok prepared =>
      rw [execute_of_ok compiled] at answered
      have fetched := result_of_limited answered
      rw [fetch] at fetched
      cases connected : client.pool.connection? with
      | none =>
          rw [connected] at fetched
          cases fetched
      | some connection =>
          rw [connected] at fetched
          obtain ⟨ended, records, rfl, each⟩ := Delivery.collect_eq_ok fetched
          exact ⟨prepared, connection, rfl, rfl, ended, each⟩

end Client

end Rollup
