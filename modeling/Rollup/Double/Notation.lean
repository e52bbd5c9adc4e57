import Rollup.Double.Shortest
import Rollup.Text.Digits

/-!
# Written doubles

The two texts of a double.  Both write the shortest digits that are read back as
the same double; they differ in where an exponent appears and in whether a whole
number keeps a fraction.
-/

namespace Rollup.Double

open Text

/-- How the digits of a double are laid out: the positions of the point at which
it is written without an exponent, and whether a whole number ends in `.0`. -/
structure Layout where
  isPlain : Int → Bool
  keepsFraction : Bool

/-- Plain display never has an exponent, and a whole number has no point. -/
def Layout.display : Layout where
  isPlain := fun _ => true
  keepsFraction := false

/-- A literal has an exponent from `10 ^ 16` up and below `10 ^ (-4)`, and a
whole number keeps `.0` so that it stays a floating-point literal. -/
def Layout.literal : Layout where
  isPlain := fun point => -3 ≤ point && point ≤ 16
  keepsFraction := true

/-- Digits with the decimal point `point` places after their start. -/
def plainDigits (keepsFraction : Bool) (digits : List Char) (point : Int) : List Char :=
  if point ≤ 0 then
    '0' :: '.' :: (List.replicate (-point).toNat '0' ++ digits)
  else if digits.length ≤ point.toNat then
    digits ++ List.replicate (point.toNat - digits.length) '0' ++
      (if keepsFraction then ['.', '0'] else [])
  else
    digits.take point.toNat ++ '.' :: digits.drop point.toNat

/-- Digits with one of them before the point, and the exponent that puts the
point back `point` places after their start. -/
def exponentDigits (digits : List Char) (point : Int) : List Char :=
  let fraction := digits.drop 1
  digits.take 1 ++ (if fraction.isEmpty then [] else '.' :: fraction) ++
    'e' :: (integerText (point - 1)).toList

/-- The unsigned text of a finite double. -/
def Layout.magnitude (layout : Layout) (significand : Nat) (exponent : Int) : List Char :=
  if significand = 0 then
    plainDigits layout.keepsFraction ['0'] 1
  else
    let (count, power) := shortest significand exponent
    let found := digits count
    let point := found.length + power
    if layout.isPlain point then plainDigits layout.keepsFraction found point
    else exponentDigits found point

/-- The text of a double in a layout. -/
def Layout.text (layout : Layout) : Double → String
  | .nan => "NaN"
  | .infinite false => "inf"
  | .infinite true => "-inf"
  | .finite negative significand exponent _ =>
      let magnitude := layout.magnitude significand exponent
      String.ofList (if negative then '-' :: magnitude else magnitude)

/-- The text of a double in results: `6`, `-0`, `0.00001`. -/
def displayText (x : Double) : String :=
  Layout.display.text x

/-- The text of a double in statements: `6.0`, `-0.0`, `1e-5`. -/
def literalText (x : Double) : String :=
  Layout.literal.text x

end Rollup.Double
