import Rollup.Result.Reconciler

/-!
# Deliveries

What a statement hands over while it runs, and how a reconciler takes it in.  Rows
come one after the other and take their time, which is in milliseconds.
-/

namespace Rollup

/-- How long something took, and what came of it. -/
structure Timed (α : Type) where
  elapsed : Nat
  result : α

/-- A row as the database hands it over: the names of its columns, and for each the
cell or the reason why there is no cell of it. -/
structure RawRow where
  columns : List String
  values : List (Except String Cell)

/-- What a running statement hands over, each part after some time: rows until there
are no more, or until it fails. -/
inductive Delivery where
  | finished (delay : Nat)
  | failed (delay : Nat) (reason : String)
  | row (delay : Nat) (raw : RawRow) (rest : Delivery)

/-- The cells of values, the first of which is in the column of an index. -/
def RawRow.decodeFrom (index : Nat) : List (Except String Cell) → Except Error (List Cell)
  | [] => .ok []
  | .error reason :: _ => .error (.execution (.undecodedColumn index reason))
  | .ok cell :: rest => do return cell :: (← decodeFrom (index + 1) rest)

/-- The cells of a row. -/
def RawRow.decode (row : RawRow) : Except Error (List Cell) :=
  decodeFrom 0 row.values

/-- Binds the columns of the result if none are bound yet. -/
def Reconciler.bindFirst (reconciler : Reconciler) (columns : List String) :
    Except Error Reconciler :=
  if reconciler.isBound then .ok reconciler else reconciler.bind columns

/-- Takes in a row, the first of which binds the columns. -/
def Reconciler.receive (reconciler : Reconciler) (row : RawRow) : Except Error Reconciler := do
  let bound ← reconciler.bindFirst row.columns
  bound.push (← row.decode)

/-- Takes in what a statement hands over, up to the first failure. -/
def Delivery.collect : Delivery → Reconciler → Timed (Except Error Response)
  | .finished delay, reconciler => ⟨delay, .ok reconciler.finish⟩
  | .failed delay reason, _ => ⟨delay, .error (.execution (.statement reason))⟩
  | .row delay raw rest, reconciler =>
      match reconciler.receive raw with
      | .error error => ⟨delay, .error error⟩
      | .ok reconciler =>
          let later := rest.collect reconciler
          ⟨delay + later.elapsed, later.result⟩

end Rollup
