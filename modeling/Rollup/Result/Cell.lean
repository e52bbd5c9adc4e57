import Rollup.Error
import Rollup.Json.Value

/-!
# Cells

The value of one column in one row of a result, as the database hands it over, and
the readings of it as a number, as a text and as the value of a dimension.
-/

namespace Rollup

/-- The value of a column in a row. -/
inductive Cell where
  | null
  | boolean (value : Bool)
  | integer (value : Long)
  | float (value : Double)
  | text (value : String)
  deriving DecidableEq

namespace Cell

/-- Whether a cell is absent. -/
def isNull : Cell → Bool
  | .null => true
  | _ => false

/-- The text that shows a cell. -/
def display : Cell → String
  | .null => "null"
  | .boolean true => "true"
  | .boolean false => "false"
  | .integer value => value.text
  | .float value => value.displayText
  | .text value => value

/-- The text of a cell that is not absent. -/
def text? (cell : Cell) : Option String :=
  if cell.isNull then none else some cell.display

/-- A cell as a long; a double is cut toward zero. -/
def toLong : Cell → Except Error (Option Long)
  | .null => .ok none
  | .boolean value => .ok (some (if value then 1 else 0))
  | .integer value => .ok (some value)
  | .float value => .ok (some value.truncate)
  | .text value =>
      let trimmed := Text.trim value.toList
      match Long.ofText? trimmed with
      | some long => .ok (some long)
      | none =>
          match Double.ofText? trimmed with
          | some double => .ok (some double.truncate)
          | none => .error (.execution (.notAnInteger (String.ofList trimmed)))

/-- A cell as a double. -/
def toDouble : Cell → Except Error (Option Double)
  | .null => .ok none
  | .boolean value => .ok (some (Double.ofInt (if value then 1 else 0)))
  | .integer value => .ok (some (Double.ofInt value.toInt))
  | .float value => .ok (some value)
  | .text value =>
      match Double.ofText? (Text.trim value.toList) with
      | some double => .ok (some double)
      | none => .error (.execution (.notANumber value))

/-- A cell as the value of a dimension: a text, or nothing. -/
def toDimension (cell : Cell) : Json :=
  match cell.text? with
  | some shown => .text shown
  | none => .null

/-- A cell as the value of an aggregate; an absent one stays absent. -/
def toAggregate (isFloat : Bool) (cell : Cell) : Except Error Json :=
  if isFloat then
    cell.toDouble.map fun value => (value.map Json.ofDouble).getD .null
  else
    cell.toLong.map fun value => (value.map fun long => Json.integer long.toInt).getD .null

end Cell

end Rollup
