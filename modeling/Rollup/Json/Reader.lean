import Rollup.Double.Reader
import Rollup.Json.Value
import Rollup.Long
import Rollup.Text.Code

/-!
# Reading JSON

JSON values from their text.  A number without fraction and exponent is an integer
as long as it fits sixty-four bits, with or without a sign, and a double otherwise;
so is the negative zero.  A number too great for a double has no value.

A reader takes a text and gives a value with the text that follows it.  Values may
be nested as deeply as the fuel allows, which the length of a text always covers.
-/

namespace Rollup.Json

open Text

/-- Whether a character is one of the four that may stand between tokens. -/
def isSpace (c : Char) : Bool :=
  c == ' ' || c == '\t' || c == '\n' || c == '\r'

/-- The character that a letter after a backslash stands for. -/
def escaped? : Char → Option Char
  | '\x22' => some '\x22'
  | '\\' => some '\\'
  | '/' => some '/'
  | 'b' => some '\x08'
  | 'f' => some '\x0c'
  | 'n' => some '\n'
  | 'r' => some '\r'
  | 't' => some '\t'
  | _ => none

/-- The character of two halves of a pair. -/
def pairedChar? (high low : Nat) : Option Char :=
  if 0xD800 ≤ high ∧ high < 0xDC00 ∧ 0xDC00 ≤ low ∧ low < 0xE000 then
    charOfCode? (0x10000 + (high - 0xD800) * 0x400 + (low - 0xDC00))
  else none

/-- A string up to its closing quote; `seen` holds what was read, the last
character first.  A code that is half of a pair needs the other half behind it. -/
def takeString? (seen : List Char) : List Char → Option (String × List Char)
  | '\x22' :: rest => some (String.ofList seen.reverse, rest)
  | '\\' :: 'u' :: a :: b :: c :: d :: rest =>
      match hexNumber? [a, b, c, d] with
      | none => none
      | some code =>
          match charOfCode? code with
          | some single => takeString? (single :: seen) rest
          | none =>
              match rest with
              | '\\' :: 'u' :: e :: f :: g :: h :: others =>
                  match (hexNumber? [e, f, g, h]).bind (pairedChar? code) with
                  | some paired => takeString? (paired :: seen) others
                  | none => none
              | _ => none
  | '\\' :: letter :: rest =>
      match escaped? letter with
      | some single => takeString? (single :: seen) rest
      | none => none
  | c :: rest => if c.toNat < 0x20 ∨ c = '\\' then none else takeString? (c :: seen) rest
  | [] => none
termination_by structural text => text

/-- Whether digits are a whole part: a zero alone or no zero in front. -/
def isWholePart (digits : List Char) : Bool :=
  match digits with
  | [] => false
  | '0' :: rest => rest.isEmpty
  | _ => true

/-- The number of a whole part without fraction and exponent. -/
def ofWholePart (negative : Bool) (value : Nat) : Json :=
  if negative && value == 0 then .float (Double.zero true)
  else if Long.fitsWord (Double.signed negative value) then
    .integer (Double.signed negative value)
  else .float (Double.ofRatio negative value 1)

/-- A number. -/
def takeNumber? (chars : List Char) : Option (Json × List Char) := do
  let (negative, chars) :=
    match chars with
    | '-' :: rest => (true, rest)
    | unsigned => (false, unsigned)
  let whole := chars.takeWhile Char.isDigit
  let chars := chars.drop whole.length
  if !isWholePart whole then none
  let (fraction, chars) ←
    match chars with
    | '.' :: rest =>
        let fraction := rest.takeWhile Char.isDigit
        if fraction.isEmpty then none else some (fraction, rest.drop fraction.length)
    | others => some ([], others)
  let (exponent, chars) ←
    match chars with
    | 'e' :: rest | 'E' :: rest =>
        let (down, rest) := splitSign rest
        let digits := rest.takeWhile Char.isDigit
        if digits.isEmpty then none
        else
          let size : Int := digitsValue digits
          some (some (if down then -size else size), rest.drop digits.length)
    | others => some (none, others)
  if fraction.isEmpty && exponent.isNone then
    return (ofWholePart negative (digitsValue whole), chars)
  let value :=
    Double.ofDecimal negative (digitsValue (whole ++ fraction))
      (exponent.getD 0 - fraction.length)
  if value.isFinite then return (.float value, chars) else none

/-- The text after a word. -/
def skipWord? (word : List Char) (chars : List Char) : Option (List Char) :=
  if word.isPrefixOf chars then some (chars.drop word.length) else none

mutual

/-- A value after any spaces. -/
def takeValue? : Nat → List Char → Option (Json × List Char)
  | 0, _ => none
  | fuel + 1, chars =>
      match chars.dropWhile isSpace with
      | 'n' :: rest => do return (.null, ← skipWord? ['u', 'l', 'l'] rest)
      | 't' :: rest => do return (.boolean true, ← skipWord? ['r', 'u', 'e'] rest)
      | 'f' :: rest => do return (.boolean false, ← skipWord? ['a', 'l', 's', 'e'] rest)
      | '\x22' :: rest => do
          let (value, rest) ← takeString? [] rest
          return (.text value, rest)
      | '[' :: rest =>
          match rest.dropWhile isSpace with
          | ']' :: rest => some (.list [], rest)
          | rest => do
              let (items, rest) ← takeItems? fuel rest
              return (.list items, rest)
      | '{' :: rest =>
          match rest.dropWhile isSpace with
          | '}' :: rest => some (.object [], rest)
          | rest => do
              let (entries, rest) ← takeEntries? fuel rest
              return (.object entries, rest)
      | rest => takeNumber? rest

/-- The items of a list up to its closing bracket. -/
def takeItems? : Nat → List Char → Option (List Json × List Char)
  | 0, _ => none
  | fuel + 1, chars => do
      let (item, rest) ← takeValue? fuel chars
      match rest.dropWhile isSpace with
      | ',' :: rest =>
          let (items, rest) ← takeItems? fuel rest
          return (item :: items, rest)
      | ']' :: rest => return ([item], rest)
      | _ => none

/-- The entries of an object up to its closing brace. -/
def takeEntries? : Nat → List Char → Option (List (String × Json) × List Char)
  | 0, _ => none
  | fuel + 1, chars =>
      match chars.dropWhile isSpace with
      | '\x22' :: rest => do
          let (name, rest) ← takeString? [] rest
          match rest.dropWhile isSpace with
          | ':' :: rest =>
              let (value, rest) ← takeValue? fuel rest
              match rest.dropWhile isSpace with
              | ',' :: rest =>
                  let (entries, rest) ← takeEntries? fuel rest
                  return ((name, value) :: entries, rest)
              | '}' :: rest => return ([(name, value)], rest)
              | _ => none
          | _ => none
      | _ => none

end

/-- The value of a JSON text. -/
def ofText? (text : String) : Option Json := do
  let chars := text.toList
  let (value, rest) ← takeValue? (chars.length + 1) chars
  if rest.all isSpace then some value else none

end Rollup.Json
