import Rollup.Proofs.Result.Calls
import Rollup.Result.Delivery

/-!
# Rows of a running statement

A statement that runs to its end gives one record for each row, behind the records that were
there before.  There is no response to one that fails on the way.
-/

namespace Rollup

/-- The rows that a statement hands over before it ends or fails. -/
def Delivery.rows : Delivery → List RawRow
  | .finished _ | .failed _ _ => []
  | .row _ raw rest => raw :: rest.rows

/-- Why a statement fails, if it does. -/
def Delivery.failure? : Delivery → Option String
  | .finished _ => none
  | .failed _ reason => some reason
  | .row _ _ rest => rest.failure?

/-- A row that is taken in gives one record and changes nothing else but the layout. -/
theorem Reconciler.receive_eq_ok {reconciler next : Reconciler} {raw : RawRow}
    (received : reconciler.receive raw = .ok next) :
    ∃ record, next.records = reconciler.records ++ [record] ∧ next.query = reconciler.query := by
  obtain ⟨bound, isBound, pushed⟩ := bind_eq_ok_iff.mp received
  obtain ⟨cells, _, pushed⟩ := bind_eq_ok_iff.mp pushed
  obtain ⟨record, _, rfl⟩ := push_eq_ok_iff.mp pushed
  refine ⟨record, ?_⟩
  rw [bindFirst] at isBound
  split at isBound
  · cases isBound
    exact ⟨rfl, rfl⟩
  · obtain ⟨_, rfl⟩ := bind_eq_ok_iff_le.mp isBound
    exact ⟨rfl, rfl⟩

/-- A statement has a response only if it does not fail, and then with one record for each of
its rows. -/
theorem Delivery.collect_eq_ok {delivery : Delivery} {reconciler : Reconciler}
    {response : Response} (taken : (delivery.collect reconciler).result = .ok response) :
    delivery.failure? = none ∧ ∃ records : List Record,
      response = ⟨reconciler.query.type, reconciler.records ++ records⟩ ∧
      records.length = delivery.rows.length := by
  induction delivery generalizing reconciler with
  | finished delay =>
      cases taken
      exact ⟨rfl, [], by rw [List.append_nil]; rfl, rfl⟩
  | failed delay reason => cases taken
  | row delay raw rest inductionHypothesis =>
      cases received : reconciler.receive raw with
      | error error =>
          simp only [collect, received] at taken
          cases taken
      | ok next =>
          simp only [collect, received] at taken
          obtain ⟨record, extended, sameQuery⟩ := Reconciler.receive_eq_ok received
          obtain ⟨ended, records, rfl, each⟩ := inductionHypothesis taken
          refine ⟨ended, record :: records, ?_, congrArg (· + 1) each⟩
          rw [extended, sameQuery, List.append_assoc, List.singleton_append]

end Rollup
