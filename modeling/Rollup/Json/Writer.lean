import Rollup.Double.Notation
import Rollup.Json.Value
import Rollup.Text.Digits

/-!
# Writing JSON

The text of a JSON value, without spaces between tokens.  In strings the quote, the
backslash and the control characters are escaped and nothing else is.
-/

namespace Rollup.Json

open Text

/-- The hexadecimal digit of a number below sixteen. -/
def hexDigit (value : Nat) : Char :=
  (Nat.toDigits 16 value).headD '0'

/-- A character as it stands in a string. -/
def escape (c : Char) : List Char :=
  match c with
  | '\x22' => ['\\', '\x22']
  | '\\' => ['\\', '\\']
  | '\x08' => ['\\', 'b']
  | '\x0c' => ['\\', 'f']
  | '\n' => ['\\', 'n']
  | '\r' => ['\\', 'r']
  | '\t' => ['\\', 't']
  | c =>
      if c.toNat < 0x20 then
        ['\\', 'u', '0', '0', hexDigit (c.toNat / 16), hexDigit (c.toNat % 16)]
      else [c]

/-- A string in quotes. -/
def quote (value : String) : String :=
  "\"" ++ String.ofList (value.toList.flatMap escape) ++ "\""

/-- Some texts between brackets, with commas between them. -/
def bracket (opening closing : String) (items : List String) : String :=
  opening ++ ",".intercalate items ++ closing

mutual

/-- The text of a value. -/
def render : Json → String
  | .null => "null"
  | .boolean true => "true"
  | .boolean false => "false"
  | .integer value => integerText value
  | .float value => if value.isFinite then value.literalText else "null"
  | .text value => quote value
  | .list items => bracket "[" "]" (renderList items)
  | .object entries => bracket "\x7b" "\x7d" (renderEntries entries)
termination_by structural json => json

/-- The texts of some values. -/
def renderList : List Json → List String
  | [] => []
  | json :: rest => render json :: renderList rest
termination_by structural items => items

/-- The texts of the entries of an object. -/
def renderEntries : List (String × Json) → List String
  | [] => []
  | (name, json) :: rest => (quote name ++ ":" ++ render json) :: renderEntries rest
termination_by structural entries => entries

end

end Rollup.Json
