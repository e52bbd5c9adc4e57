import Rollup.Double.Basic
import Rollup.Text.Digits

/-!
# Reading doubles

A number text is an optional sign and either one of the words `inf`, `infinity`
and `nan` in any case, or digits with an optional point, at least one digit in
all, and an optional exponent.  The double nearest to the number is its value.
-/

namespace Rollup.Double

open Text

/-- The value of an exponent part: nothing, or `e` and an integer. -/
def exponent? : List Char → Option Int
  | [] => some 0
  | c :: rest => if c = 'e' ∨ c = 'E' then integer? rest else none

/-- The digits before and after an optional point, and what follows them. -/
def splitPoint (text : List Char) : List Char × List Char × List Char :=
  let whole := text.takeWhile Char.isDigit
  match text.dropWhile Char.isDigit with
  | '.' :: rest => (whole, rest.takeWhile Char.isDigit, rest.dropWhile Char.isDigit)
  | rest => (whole, [], rest)

/-- The double that unsigned digits with an optional point and an optional
exponent denote. -/
def unsigned? (negative : Bool) (text : List Char) : Option Double :=
  let (whole, fraction, rest) := splitPoint text
  if whole.isEmpty && fraction.isEmpty then none
  else (exponent? rest).map fun exponent =>
    ofDecimal negative (digitsValue (whole ++ fraction)) (exponent - fraction.length)

/-- The double that one of the words for numbers without digits denotes. -/
def word? (negative : Bool) (text : List Char) : Option Double :=
  let word := text.map Char.toLower
  if word = ['n', 'a', 'n'] then some .nan
  else if word = ['i', 'n', 'f'] ∨ word = ['i', 'n', 'f', 'i', 'n', 'i', 't', 'y'] then
    some (.infinite negative)
  else none

/-- The double that a text denotes, if it is a number text. -/
def ofText? (text : List Char) : Option Double :=
  let (negative, rest) := splitSign text
  (word? negative rest).orElse fun _ => unsigned? negative rest

end Rollup.Double
