import Rollup.Document.Basic
import Rollup.Double.Reader
import Rollup.Text.Code

/-!
# Scalar values

The value of a scalar of a YAML text.  One that is written without quotes is null, a
boolean, an integer in decimal, hexadecimal, octal or binary, a double, or else a
text.  Digits after a leading zero are no number, and neither is one that is too
great for a double.  Any other scalar is a text, and a tag decides for itself.
-/

namespace Rollup.Document

open Text

/-- Whether a plain scalar is one of the forms of null; the empty one is. -/
def isNullText (text : String) : Bool :=
  ["", "~", "null", "Null", "NULL"].contains text

/-- The value of a digit in a base of at most sixteen. -/
def digitIn? (base : Nat) (c : Char) : Option Nat :=
  (hexDigit? c).filter (· < base)

/-- The number that one digit or more denote in a base. -/
def digitsIn? (base : Nat) (digits : List Char) : Option Nat :=
  if digits.isEmpty then none
  else digits.foldl (fun value c => do return (← value) * base + (← digitIn? base c)) (some 0)

/-- Digits behind the mark of their base, or decimal ones. -/
def based? : List Char → Option Nat
  | '0' :: 'x' :: digits => digitsIn? 16 digits
  | '0' :: 'o' :: digits => digitsIn? 8 digits
  | '0' :: 'b' :: digits => digitsIn? 2 digits
  | digits => digitsIn? 10 digits

/-- Whether digits, or all after a sign, start with a zero that is not alone. -/
def hasLeadingZero (text : List Char) : Bool :=
  match (splitSign text).2 with
  | '0' :: rest => !rest.isEmpty && rest.all Char.isDigit
  | _ => false

/-- The integer without a minus sign that a plain scalar denotes. -/
def unsigned? (text : List Char) : Option Nat :=
  if hasLeadingZero text then none
  else
    match text with
    | '+' :: rest => based? rest
    | text => based? text

/-- The integer that a plain scalar denotes: whether it has a minus sign, and what
follows that. -/
def integerOfPlain? (text : List Char) : Option (Bool × Nat) :=
  match text with
  | '-' :: rest =>
      if hasLeadingZero rest then none else (based? rest).map fun value => (true, value)
  | text => (unsigned? text).map fun value => (false, value)

/-- Whether an integer fits into 64 bits, with a sign or without. -/
def isNarrow (integer : Bool × Nat) : Bool :=
  if integer.1 then decide (integer.2 ≤ 9223372036854775808)
  else decide (integer.2 < 18446744073709551616)

/-- Whether an integer fits into 128 bits, with a sign or without; a greater one is
read as a double. -/
def isWide (integer : Bool × Nat) : Bool :=
  if integer.1 then decide (integer.2 ≤ 170141183460469231731687303715884105728)
  else decide (integer.2 < 340282366920938463463374607431768211456)

/-- The document of an integer that fits into 64 bits. -/
def ofInteger? (integer : Bool × Nat) : Option Document :=
  if isNarrow integer then some (signed integer.1 integer.2) else none

/-- The double that a scalar denotes. -/
def doubleOfPlain? (text : List Char) : Option Double :=
  let (negative, rest) := splitSign text
  if [".inf", ".Inf", ".INF"].contains (String.ofList rest) then some (.infinite negative)
  else if [".nan", ".NaN", ".NAN"].contains (String.ofList text) then some .nan
  else
    match Double.unsigned? negative rest with
    | some value => if value.isFinite then some value else none
    | none => none

/-- The boolean that a plain scalar denotes. -/
def booleanOfPlain? (text : String) : Option Bool :=
  if ["true", "True", "TRUE"].contains text then some true
  else if ["false", "False", "FALSE"].contains text then some false
  else none

/-- The value of a plain scalar; an integer that does not fit sixty-four bits has
none. -/
def resolvePlain? (text : String) : Option Document :=
  if isNullText text then some .null
  else
    match booleanOfPlain? text with
    | some value => some (.boolean value)
    | none =>
        let chars := text.toList
        match (integerOfPlain? chars).filter isWide with
        | some integer => ofInteger? integer
        | none =>
            if hasLeadingZero chars then some (.text text)
            else some ((doubleOfPlain? chars).elim (.text text) .float)

/-- The text of a scalar. -/
def scalarText? : Document → Option String
  | .text value => some value
  | .scalar _ _ value => some value
  | _ => none

/-- The value of a scalar.  The tag of a usual type asks for a value of that type,
and a name has no value; any other tag makes the scalar a text. -/
def resolveScalar? (tag : Option Yaml.Tag) (style : Yaml.Style) (text : String) :
    Option Document :=
  match tag with
  | some .null => if !text.isEmpty && isNullText text then some .null else none
  | some .boolean => (booleanOfPlain? text).map .boolean
  | some .integer => (integerOfPlain? text.toList).bind ofInteger?
  | some .float => (doubleOfPlain? text.toList).map .float
  | some (.named _) => none
  | some .other => some (.text text)
  | some .garbled | none => if style = .plain then resolvePlain? text else some (.text text)

mutual

/-- A document with every scalar replaced by its value. -/
def resolve? : Document → Option Document
  | .scalar tag style value => resolveScalar? tag style value
  | .list items => (resolveList? items).map .list
  | .map entries => (resolveEntries? entries).map .map
  | .labelled _ _ => none
  | .excess => none
  | document => some document
termination_by structural document => document

/-- Some documents with every scalar replaced by its value. -/
def resolveList? : List Document → Option (List Document)
  | [] => some []
  | document :: rest => do
      let first ← resolve? document
      return first :: (← resolveList? rest)
termination_by structural items => items

/-- Entries with every scalar replaced by its value. -/
def resolveEntries? : List (Document × Document) → Option (List (Document × Document))
  | [] => some []
  | (key, value) :: rest => do
      let key ← resolve? key
      let value ← resolve? value
      return (key, value) :: (← resolveEntries? rest)
termination_by structural entries => entries

end

end Rollup.Document
