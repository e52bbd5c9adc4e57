/-!
# Decimal digits

Whole numbers as decimal text and back.  Digits are the ten ASCII digits; no
other numeral is read as one.
-/

namespace Rollup.Text

/-- The decimal digits of a number, without leading zeros. -/
def digits (n : Nat) : List Char :=
  Nat.toDigits 10 n

/-- The decimal digits of a number, with zeros in front up to a width. -/
def paddedDigits (width n : Nat) : List Char :=
  List.replicate (width - (digits n).length) '0' ++ digits n

/-- The decimal text of an integer, a minus sign in front of a negative one. -/
def integerText (i : Int) : String :=
  String.ofList (if i < 0 then '-' :: digits i.natAbs else digits i.natAbs)

/-- The decimal text of a natural number. -/
def naturalText (n : Nat) : String :=
  String.ofList (digits n)

/-- The number that a digit text denotes, the empty text denoting zero. -/
def digitsValue (text : List Char) : Nat :=
  Nat.ofDigitChars 10 text 0

/-- The number that a text of one digit or more denotes. -/
def natural? (text : List Char) : Option Nat :=
  if !text.isEmpty && text.all Char.isDigit then some (digitsValue text) else none

/-- An optional sign in front of a text: whether it is a minus, and the rest. -/
def splitSign : List Char → Bool × List Char
  | '-' :: rest => (true, rest)
  | '+' :: rest => (false, rest)
  | text => (false, text)

/-- The integer that an optional sign and digits denote. -/
def integer? (text : List Char) : Option Int :=
  let (negative, rest) := splitSign text
  (natural? rest).map fun n => if negative then -(n : Int) else n

/-- Between `least` and `most` digits from the front of a text, as many as
there are, with the number they denote and what follows them. -/
def takeNumber (least most : Nat) (text : List Char) : Option (Nat × List Char) :=
  let found := (text.takeWhile Char.isDigit).take most
  if found.length < least then none
  else some (digitsValue found, text.drop found.length)

@[simp]
theorem digitsValue_digits (n : Nat) : digitsValue (digits n) = n :=
  Nat.ofDigitChars_ten_toDigits

@[simp]
theorem natural?_digits (n : Nat) : natural? (digits n) = some n := by
  have nonempty : (digits n).isEmpty = false := by
    simp [digits, Nat.toDigits_ne_nil]
  have allDigits : (digits n).all Char.isDigit = true := by
    rw [List.all_eq_true]
    intro c member
    exact Nat.isDigit_of_mem_toDigits (by omega) (by omega) member
  simp [natural?, nonempty, allDigits, digitsValue_digits]

end Rollup.Text
