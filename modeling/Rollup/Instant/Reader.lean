import Rollup.Instant.Basic
import Rollup.Text.Blank
import Rollup.Text.Digits

/-!
# Reading instants

Instants are read from text by five grammars, tried in order: the interchange
form of RFC 3339, date and time with an offset from universal time, date and time
joined by a space, date and time joined by `T`, and a date alone, which means its
midnight.  The first form is rigid.  The others take a number in fewer digits than
its full width, let blanks stand before every number, and let any amount of blanks
stand for the space in the middle.

A reader takes a text and gives a value with the text that follows it.
-/

namespace Rollup.Instant

open Calendar Text

/-- The text after a character that has to come first. -/
def skip? (expected : Char) : List Char → Option (List Char)
  | [] => none
  | c :: rest => if c = expected then some rest else none

/-- A fraction of a second: nothing, or a point and at least one digit.  Digits
after the ninth are dropped. -/
def takeFraction? : List Char → Option (Nat × List Char)
  | '.' :: rest =>
      let found := rest.takeWhile Char.isDigit
      if found.isEmpty then none
      else
        let kept := found.take 9
        some (digitsValue kept * Nat.pow 10 (9 - kept.length), rest.drop found.length)
  | text => some (0, text)

/-- The sign of an offset, true for a minus; the minus may be the typographic
one. -/
def takeOffsetSign? : List Char → Option (Bool × List Char)
  | '+' :: rest => some (false, rest)
  | '-' :: rest => some (true, rest)
  | '\u2212' :: rest => some (true, rest)
  | _ => none

/-- An offset in minutes; there is none of a day or more. -/
def offset? (negative : Bool) (hours minutes : Nat) : Option Int :=
  if hours < 24 && minutes < 60 then
    let offset : Int := hours * 60 + minutes
    some (if negative then -offset else offset)
  else none

/-- An offset `Z` or `±hh:mm`. -/
def takeOffset? : List Char → Option (Int × List Char)
  | 'Z' :: rest => some (0, rest)
  | 'z' :: rest => some (0, rest)
  | text => do
      let (negative, text) ← takeOffsetSign? text
      let (hours, text) ← takeNumber 2 2 text
      let (minutes, text) ← takeNumber 2 2 (← skip? ':' text)
      return (← offset? negative hours minutes, text)

/-- An offset `Z` or `±hh`, with or without minutes, which any colons and blanks
may set apart. -/
def takeLooseOffset? : List Char → Option (Int × List Char)
  | 'Z' :: rest => some (0, rest)
  | 'z' :: rest => some (0, rest)
  | text => do
      let (negative, text) ← takeOffsetSign? text
      let (hours, text) ← takeNumber 2 2 text
      match text.dropWhile fun c => c == ':' || isBlank c with
      | [] => return (← offset? negative hours 0, [])
      | text =>
          let (minutes, text) ← takeNumber 2 2 text
          return (← offset? negative hours minutes, text)

/-! ## The rigid form -/

/-- The instant of an RFC 3339 text. -/
def ofInterchange? (text : List Char) : Option Instant := do
  let (year, text) ← takeNumber 4 4 text
  let (month, text) ← takeNumber 2 2 (← skip? '-' text)
  let (day, text) ← takeNumber 2 2 (← skip? '-' text)
  let text ← match text with
    | 'T' :: rest => some rest
    | 't' :: rest => some rest
    | ' ' :: rest => some rest
    | _ => none
  let (hour, text) ← takeNumber 2 2 text
  let (minute, text) ← takeNumber 2 2 (← skip? ':' text)
  let (second, text) ← takeNumber 2 2 (← skip? ':' text)
  let (nanosecond, text) ← takeFraction? text
  let (offset, text) ← takeOffset? text
  let date ← Date.ofYearMonthDay? year month day
  if text.isEmpty then ofClock? date hour minute second nanosecond offset else none

/-! ## The loose forms -/

/-- A year after any blanks: up to four digits, or any number of them after a
sign. -/
def takeYear? (text : List Char) : Option (Int × List Char) :=
  match trimStart text with
  | '-' :: rest => (takeNumber 1 rest.length rest).map fun (year, rest) => (-(year : Int), rest)
  | '+' :: rest => (takeNumber 1 rest.length rest).map fun (year, rest) => ((year : Int), rest)
  | text => (takeNumber 1 4 text).map fun (year, rest) => ((year : Int), rest)

/-- One or two digits after any blanks. -/
def takePart? (text : List Char) : Option (Nat × List Char) :=
  takeNumber 1 2 (trimStart text)

/-- A date, its parts joined by hyphens. -/
def takeDate? (text : List Char) : Option (Date × List Char) := do
  let (year, text) ← takeYear? text
  let (month, text) ← takePart? (← skip? '-' text)
  let (day, text) ← takePart? (← skip? '-' text)
  return (← Date.ofYearMonthDay? year month day, text)

/-- Hour, minute, second and nanosecond, joined by colons. -/
def takeClock? (text : List Char) : Option ((Nat × Nat × Nat × Nat) × List Char) := do
  let (hour, text) ← takePart? text
  let (minute, text) ← takePart? (← skip? ':' text)
  let (second, text) ← takePart? (← skip? ':' text)
  let (nanosecond, text) ← takeFraction? text
  return ((hour, minute, second, nanosecond), text)

/-- The instant of a date, a space, a time and an offset. -/
def ofDateTimeOffset? (text : List Char) : Option Instant := do
  let (date, text) ← takeDate? text
  let ((hour, minute, second, nanosecond), text) ← takeClock? (trimStart text)
  let (offset, text) ← takeLooseOffset? (trimStart text)
  if text.isEmpty then ofClock? date hour minute second nanosecond offset else none

/-- The instant of a date and a time, with `between` reading what joins them. -/
def ofDateTime? (between : List Char → Option (List Char)) (text : List Char) :
    Option Instant := do
  let (date, text) ← takeDate? text
  let ((hour, minute, second, nanosecond), text) ← takeClock? (← between text)
  if text.isEmpty then ofClock? date hour minute second nanosecond 0 else none

/-- The midnight of a date. -/
def ofDate? (text : List Char) : Option Instant := do
  let (date, text) ← takeDate? text
  if text.isEmpty then some (atMidnight date) else none

/-- The instant that an end of an interval denotes: the interchange form or a
date. -/
def ofIntervalEnd? (text : List Char) : Option Instant :=
  ofInterchange? text <|> ofDate? text

/-- The instant that a text from a result column denotes, blanks around it
aside. -/
def ofText? (text : String) : Option Instant :=
  let text := trim text.toList
  ofInterchange? text <|> ofDateTimeOffset? text <|>
    ofDateTime? (fun rest => some (trimStart rest)) text <|>
    ofDateTime? (skip? 'T') text <|> ofDate? text

end Rollup.Instant
