import Mathlib.Data.List.Induction
import Rollup.Proofs.Steps
import Rollup.Result.Reconciler

/-!
# Calls to a reconciler

A reconciler through any sequence of calls, each of which binds columns or takes a row and may
fail.  A call that fails leaves no trace: the layout in force is that of the latest columns that
were bound, the records are those of the rows that were taken, and the failed calls can be left
out without a difference to the response.
-/

namespace Rollup

/-- A call to a reconciler. -/
inductive Call where
  /-- The columns of the result. -/
  | bind (columns : List String)
  /-- A row of the result. -/
  | push (cells : List Cell)

namespace Call

/-- The reconciler that a call makes of another one. -/
def next : Call → Reconciler → Except Error Reconciler
  | .bind columns, reconciler => reconciler.bind columns
  | .push cells, reconciler => reconciler.push cells

/-- A call that changes a reconciler in place.  There is a reconciler after a call that fails as
well, with all that the call had changed by then. -/
def perform : Call → ExceptT Error (StateM Reconciler) Unit
  | .bind columns => do
      let bucketing := (← get).bucketing
      if columns.length < bucketing.timeColumnCount then
        throw (.execution
          (.columnCount columns.length bucketing.granularity bucketing.timeColumnCount))
      modify fun reconciler => { reconciler with layout := some (reconciler.layoutOf columns) }
  | .push cells => do
      let record ← (← get).recordOf cells
      modify fun reconciler => { reconciler with records := reconciler.records ++ [record] }

end Call

namespace Reconciler

/-- How a call ends. -/
def result (reconciler : Reconciler) (call : Call) : Except Error Unit :=
  (call.perform.run.run reconciler).1

/-- The reconciler that is left by some calls, made one after the other. -/
def leftBy (reconciler : Reconciler) (calls : List Call) : Reconciler :=
  calls.foldl (fun left call => (call.perform.run.run left).2) reconciler

/-- The calls that end well when some calls are made one after the other. -/
def accepted (reconciler : Reconciler) : List Call → List Call
  | [] => []
  | call :: rest =>
      let others := accepted (reconciler.leftBy [call]) rest
      if (reconciler.result call).isOk then call :: others else others

/-- The layout that a call gives to the rows after it, if it binds columns. -/
def boundLayout? (reconciler : Reconciler) : Call → Option (List ColumnRole)
  | .bind columns =>
      if reconciler.bucketing.timeColumnCount ≤ columns.length then
        some (reconciler.layoutOf columns)
      else none
  | .push _ => none

/-- The layout of the latest columns that some calls bound or, where none did, the one before
the calls. -/
def latestLayout (reconciler : Reconciler) (calls : List Call) : Option (List ColumnRole) :=
  (calls.reverse.findSome? reconciler.boundLayout?).or reconciler.layout

/-- The record of a row whose columns have the roles of a layout. -/
def recordIn (reconciler : Reconciler) (layout : Option (List ColumnRole)) (cells : List Cell) :
    Except Error Record :=
  ({ reconciler with layout } : Reconciler).recordOf cells

variable {reconciler : Reconciler}

@[simp]
theorem leftBy_append (before after : List Call) :
    reconciler.leftBy (before ++ after) = (reconciler.leftBy before).leftBy after :=
  List.foldl_append

@[simp]
theorem leftBy_cons (call : Call) (rest : List Call) :
    reconciler.leftBy (call :: rest) = (reconciler.leftBy [call]).leftBy rest :=
  rfl

/-! ## One call -/

/-- A call that changes a reconciler in place leaves the one that the call makes of it or, where
it fails, the same. -/
theorem run_perform (call : Call) (reconciler : Reconciler) :
    call.perform.run.run reconciler =
      match call.next reconciler with
      | .ok next => (.ok (), next)
      | .error error => (.error error, reconciler) := by
  cases call with
  | bind columns =>
      rw [Call.next, bind]
      change (ite _ _ _ : ExceptT Error (StateM Reconciler) Unit).run.run reconciler = _
      split <;> rfl
  | push cells =>
      rw [Call.next, push]
      change (ExceptT.bindCont _ (reconciler.recordOf cells) : StateM Reconciler _) reconciler = _
      cases reconciler.recordOf cells <;> rfl

theorem result_eq_error_iff {call : Call} {error : Error} :
    reconciler.result call = .error error ↔ call.next reconciler = .error error := by
  rw [result, run_perform]
  cases call.next reconciler <;> simp

theorem result_eq_ok_iff {call : Call} :
    reconciler.result call = .ok () ↔ ∃ next, call.next reconciler = .ok next := by
  rw [result, run_perform]
  cases call.next reconciler <;> simp

/-- A call that ends well leaves the reconciler that it makes. -/
theorem leftBy_of_next {call : Call} {next : Reconciler}
    (ended : call.next reconciler = .ok next) : reconciler.leftBy [call] = next := by
  rw [leftBy, List.foldl_cons, List.foldl_nil, run_perform, ended]

/-- A call that fails leaves the reconciler that it is made to. -/
theorem leftBy_of_error {call : Call} {error : Error}
    (failed : call.next reconciler = .error error) : reconciler.leftBy [call] = reconciler := by
  rw [leftBy, List.foldl_cons, List.foldl_nil, run_perform, failed]

/-- Columns are bound exactly if there are enough of them for the time columns. -/
theorem bind_eq_ok_iff_le {columns : List String} {bound : Reconciler} :
    reconciler.bind columns = .ok bound ↔
      reconciler.bucketing.timeColumnCount ≤ columns.length ∧
        bound = { reconciler with layout := some (reconciler.layoutOf columns) } := by
  by_cases narrow : columns.length < reconciler.bucketing.timeColumnCount
  · simp [bind, narrow, Nat.not_le.mpr narrow]
  · simp [bind, narrow, Nat.not_lt.mp narrow, eq_comm]

/-- A row is taken exactly if it has a record, which is put behind the others. -/
theorem push_eq_ok_iff {cells : List Cell} {next : Reconciler} :
    reconciler.push cells = .ok next ↔
      ∃ record, reconciler.recordOf cells = .ok record ∧
        next = { reconciler with records := reconciler.records ++ [record] } := by
  refine bind_eq_ok_iff.trans (exists_congr fun record => and_congr_right fun _ => ?_)
  rw [pure_eq_ok_iff, eq_comm]

/-! ## Runs of calls -/

@[simp]
theorem latestLayout_append (before : List Call) (call : Call) :
    reconciler.latestLayout (before ++ [call]) =
      (reconciler.boundLayout? call).or (reconciler.latestLayout before) := by
  rw [latestLayout, List.reverse_append, List.reverse_singleton, List.findSome?_append,
    List.findSome?_singleton, Option.or_assoc]
  rfl

/-- What a call that ends well changes: columns give a layout to the rows that follow, and a
row gives a record. -/
theorem next_eq_ok {call : Call} {next : Reconciler} (ended : call.next reconciler = .ok next) :
    ∃ records, next =
      { reconciler with
        layout := (reconciler.boundLayout? call).or reconciler.layout, records } := by
  cases call with
  | bind columns =>
      obtain ⟨wide, rfl⟩ := bind_eq_ok_iff_le.mp ended
      refine ⟨reconciler.records, ?_⟩
      rw [boundLayout?, if_pos wide, Option.some_or]
  | push cells =>
      obtain ⟨record, _, rfl⟩ := push_eq_ok_iff.mp ended
      exact ⟨reconciler.records ++ [record], rfl⟩

/-- A call that fails binds no columns. -/
theorem boundLayout?_of_error {call : Call} {error : Error}
    (failed : call.next reconciler = .error error) : reconciler.boundLayout? call = none := by
  cases call with
  | bind columns =>
      refine if_neg fun wide => ?_
      have bound : reconciler.bind columns = .ok _ := bind_eq_ok_iff_le.mpr ⟨wide, rfl⟩
      cases failed.symm.trans bound
  | push cells => rfl

/-- After any calls the reconciler is the one before them, but for its records and for its
layout, which is the latest one. -/
theorem exists_leftBy_eq (reconciler : Reconciler) (calls : List Call) :
    ∃ records, reconciler.leftBy calls =
      { reconciler with layout := reconciler.latestLayout calls, records } := by
  induction calls using List.reverseRecOn with
  | nil => exact ⟨reconciler.records, rfl⟩
  | append_singleton before call inductionHypothesis =>
      obtain ⟨records, same⟩ := inductionHypothesis
      have unchanged : (reconciler.leftBy before).boundLayout? call =
          reconciler.boundLayout? call := by
        rw [same]
        cases call <;> rfl
      rw [leftBy_append, latestLayout_append, ← unchanged]
      cases ended : call.next (reconciler.leftBy before) with
      | error error =>
          rw [leftBy_of_error ended, boundLayout?_of_error ended]
          exact ⟨records, same⟩
      | ok next =>
          obtain ⟨added, made⟩ := next_eq_ok ended
          rw [leftBy_of_next ended, made, same]
          exact ⟨added, rfl⟩

/-- The record of a row after some calls depends on them through the latest layout only. -/
@[simp]
theorem recordOf_leftBy (calls : List Call) (cells : List Cell) :
    (reconciler.leftBy calls).recordOf cells =
      reconciler.recordIn (reconciler.latestLayout calls) cells := by
  obtain ⟨records, same⟩ := reconciler.exists_leftBy_eq calls
  rw [same]
  rfl

/-- Without the calls that fail, the others leave the same reconciler, and none of them
fails. -/
theorem leftBy_accepted (reconciler : Reconciler) (calls : List Call) :
    reconciler.leftBy (reconciler.accepted calls) = reconciler.leftBy calls ∧
      reconciler.accepted (reconciler.accepted calls) = reconciler.accepted calls := by
  induction calls generalizing reconciler with
  | nil => exact ⟨rfl, rfl⟩
  | cons call rest inductionHypothesis =>
      obtain ⟨sameLeft, sameAccepted⟩ := inductionHypothesis (reconciler.leftBy [call])
      cases ended : reconciler.result call with
      | ok _ =>
          have kept (rest : List Call) : reconciler.accepted (call :: rest) =
              call :: (reconciler.leftBy [call]).accepted rest := by
            rw [accepted, ended]
            rfl
          rw [kept, kept, leftBy_cons call rest, leftBy_cons, sameLeft, sameAccepted]
          exact ⟨rfl, rfl⟩
      | error error =>
          have same := leftBy_of_error (result_eq_error_iff.mp ended)
          have dropped : reconciler.accepted (call :: rest) = reconciler.accepted rest := by
            rw [accepted, ended, same]
            rfl
          rw [same] at sameLeft sameAccepted
          rw [dropped, leftBy_cons, same]
          exact ⟨sameLeft, sameAccepted⟩

/-- Calls that fail leave no trace, in whatever order columns are bound and rows pushed, however
often and after whatever other calls.  A call that fails changes nothing.  Columns are bound
exactly if there are enough of them for the time columns, and change the layout only.  A row is
taken exactly if it has a record in the layout of the latest columns that were bound, and this
record is put behind the others.  The calls that end well give the same response without those
that fail, and still end well. -/
theorem failed_calls_leave_no_trace (reconciler : Reconciler) :
    (∀ before call error, (reconciler.leftBy before).result call = .error error →
      reconciler.leftBy (before ++ [call]) = reconciler.leftBy before) ∧
    (∀ before columns,
      ((reconciler.leftBy before).result (.bind columns) = .ok () ↔
        reconciler.bucketing.timeColumnCount ≤ columns.length) ∧
      (reconciler.bucketing.timeColumnCount ≤ columns.length →
        reconciler.leftBy (before ++ [.bind columns]) =
          { reconciler.leftBy before with layout := some (reconciler.layoutOf columns) })) ∧
    (∀ before cells,
      ((reconciler.leftBy before).result (.push cells) = .ok () ↔
        ∃ record, reconciler.recordIn (reconciler.latestLayout before) cells = .ok record) ∧
      ∀ record, reconciler.recordIn (reconciler.latestLayout before) cells = .ok record →
        reconciler.leftBy (before ++ [.push cells]) =
          { reconciler.leftBy before with
            records := (reconciler.leftBy before).records ++ [record] }) ∧
    ∀ calls,
      (reconciler.leftBy (reconciler.accepted calls)).finish = (reconciler.leftBy calls).finish ∧
        reconciler.accepted (reconciler.accepted calls) = reconciler.accepted calls := by
  refine ⟨?failed, ?bound, ?pushed, fun calls => ?response⟩
  case failed =>
    intro before call error failed
    rw [leftBy_append]
    exact leftBy_of_error (result_eq_error_iff.mp failed)
  case bound =>
    intro before columns
    obtain ⟨records, same⟩ := reconciler.exists_leftBy_eq before
    have sameCount : (reconciler.leftBy before).bucketing = reconciler.bucketing := by rw [same]
    have sameLayout : (reconciler.leftBy before).layoutOf columns =
        reconciler.layoutOf columns := by rw [same]; rfl
    rw [result_eq_ok_iff, leftBy_append, ← sameCount, ← sameLayout]
    refine ⟨⟨fun ⟨_, bound⟩ => (bind_eq_ok_iff_le.mp bound).1,
      fun wide => ⟨_, bind_eq_ok_iff_le.mpr ⟨wide, rfl⟩⟩⟩, fun wide => ?_⟩
    exact leftBy_of_next (bind_eq_ok_iff_le.mpr ⟨wide, rfl⟩)
  case pushed =>
    intro before cells
    rw [result_eq_ok_iff, leftBy_append, ← recordOf_leftBy]
    refine ⟨⟨fun ⟨_, pushed⟩ => ?_, fun ⟨record, made⟩ => ?_⟩, fun record made => ?_⟩
    · obtain ⟨record, made, _⟩ := push_eq_ok_iff.mp pushed
      exact ⟨record, made⟩
    · exact ⟨_, push_eq_ok_iff.mpr ⟨record, made, rfl⟩⟩
    · exact leftBy_of_next (push_eq_ok_iff.mpr ⟨record, made, rfl⟩)
  case response =>
    obtain ⟨same, allEndWell⟩ := reconciler.leftBy_accepted calls
    exact ⟨congrArg finish same, allEndWell⟩

end Reconciler

end Rollup
