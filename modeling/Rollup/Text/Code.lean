/-!
# Character codes

Characters given by their code points, which escapes write as hexadecimal digits.
-/

namespace Rollup.Text

/-- The value of a hexadecimal digit. -/
def hexDigit? (c : Char) : Option Nat :=
  if c.isDigit then some (c.toNat - 0x30)
  else if 'a' ≤ c ∧ c ≤ 'f' then some (c.toNat - 0x61 + 10)
  else if 'A' ≤ c ∧ c ≤ 'F' then some (c.toNat - 0x41 + 10)
  else none

/-- The number that hexadecimal digits denote. -/
def hexNumber? (digits : List Char) : Option Nat :=
  digits.foldl (fun value c => do return (← value) * 16 + (← hexDigit? c)) (some 0)

/-- The character of a code, unless the code is half of a pair or beyond the last
code point. -/
def charOfCode? (code : Nat) : Option Char :=
  if code.isValidChar then some (Char.ofNat code) else none

/-- The character whose code hexadecimal digits denote. -/
def charOfHex? (digits : List Char) : Option Char :=
  (hexNumber? digits).bind charOfCode?

end Rollup.Text
