import Rollup.Instant.Notation
import Rollup.Instant.Reader

/-!
# Intervals

A half-open range of time, written as its two ends with a slash between them.
-/

namespace Rollup

/-- The time from `start` up to but not including `stop`. -/
structure Interval where
  start : Instant
  stop : Instant
  deriving DecidableEq

namespace Interval

/-- What is wrong with the text of an interval. -/
inductive Fault where
  | noSlash
  | start
  | stop
  | reversed
  deriving DecidableEq

/-- The wording of a fault. -/
def Fault.message : Fault → String
  | .noSlash => "expected 'start/end'"
  | .start => "invalid start instant"
  | .stop => "invalid end instant"
  | .reversed => "end precedes start"

/-- The complaint about a text that is no interval. -/
def complaint (text : String) (fault : Fault) : String :=
  "Invalid interval '" ++ text ++ "': " ++ fault.message

/-- A text cut at its first slash, which is left out. -/
def cutAtSlash? : List Char → Option (List Char × List Char)
  | [] => none
  | '/' :: rest => some ([], rest)
  | c :: rest => (cutAtSlash? rest).map fun (first, second) => (c :: first, second)

/-- The interval that a text denotes: two instants, the second not before the
first. -/
def ofText (text : String) : Except Fault Interval :=
  match cutAtSlash? text.toList with
  | none => .error .noSlash
  | some (first, second) =>
      match Instant.ofIntervalEnd? (Text.trim first) with
      | none => .error .start
      | some start =>
          match Instant.ofIntervalEnd? (Text.trim second) with
          | none => .error .stop
          | some stop => if stop.isBefore start then .error .reversed else .ok ⟨start, stop⟩

/-- The text of an interval. -/
def text (interval : Interval) : String :=
  interval.start.fullText ++ "/" ++ interval.stop.fullText

end Interval

end Rollup
