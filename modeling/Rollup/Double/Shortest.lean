import Rollup.Double.Basic

/-!
# Shortest decimals

The decimal number with the fewest digits that is still read as a given double.
The reals that round to `m * 2 ^ e` form an interval around it.  Grids of powers
of ten are tried from coarse to fine; on each only the two neighbours of the
double can be the first to lie in the interval, and the first grid with a hit
wins.  Of two hits the nearer is taken, and the upper one when both are as near.
-/

namespace Rollup.Double

/-- A quarter of the last place of a double as the ratio `units / one` of a power
of ten: the grid `10 ^ power` against the binary places of `exponent`. -/
structure Grid where
  units : Nat
  one : Nat

/-- The grid `10 ^ power` seen from quarters of `2 ^ exponent`. -/
def Grid.of (power exponent : Int) : Grid where
  units := Nat.pow 2 (exponent - 2).toNat * Nat.pow 10 (-power).toNat
  one := Nat.pow 10 power.toNat * Nat.pow 2 (2 - exponent).toNat

/-- Whether a point of the grid, the multiple `count` of its power of ten, is read
as `significand * 2 ^ exponent`.  The ends of the interval belong to the even
significand.  Below a power of two the neighbouring double is half as far. -/
def Grid.hits (grid : Grid) (significand : Nat) (exponent : Int) (count : Nat) : Bool :=
  let point := count * grid.one
  let lower := if significand = 4503599627370496 ∧ exponent ≠ -1074 then 1 else 2
  let first := (4 * significand - lower) * grid.units
  let last := (4 * significand + 2) * grid.units
  if significand % 2 = 0 then first ≤ point && point ≤ last
  else first < point && point < last

/-- The hit on a grid nearest to `significand * 2 ^ exponent`, the upper one of
two at the same distance. -/
def Grid.nearest? (grid : Grid) (significand : Nat) (exponent : Int) : Option Nat :=
  let value := 4 * significand * grid.units
  let below := value / grid.one
  match grid.hits significand exponent below, grid.hits significand exponent (below + 1) with
  | true, true => if 2 * value < (2 * below + 1) * grid.one then some below else some (below + 1)
  | true, false => some below
  | false, true => some (below + 1)
  | false, false => none

/-- The first hit on the grids `10 ^ power`, `10 ^ (power - 1)`, and so on, at
most `grids` of them; the exact value where none hits. -/
def shortestFrom (significand : Nat) (exponent : Int) : Nat → Int → Nat × Int
  | 0, _ => (significand * Nat.pow 2 exponent.toNat, 0)
  | grids + 1, power =>
      match (Grid.of power exponent).nearest? significand exponent with
      | some count => (count, power)
      | none => shortestFrom significand exponent grids (power - 1)

/-- The decimal `count * 10 ^ power` with the fewest digits that is read as the
positive double `significand * 2 ^ exponent`.  The first grid tried is coarser
than the double, and seventeen digits always tell two doubles apart. -/
def shortest (significand : Nat) (exponent : Int) : Nat × Int :=
  let highestBit : Int := significand.log2 + exponent
  shortestFrom significand exponent 24 (highestBit * 1233 / 4096 + 2)

end Rollup.Double
