import Mathlib.Algebra.Ring.Nat
import Rollup.Text.Blank
import Rollup.Text.Digits

/-!
# Numbers at the front of a text

A number written with leading zeros is read back by a reader that takes enough digits,
as long as no digit follows it, and an integer from its own text.  Blanks around a text
that has none at its ends are not there to be cut.
-/

namespace Rollup.Text

/-! ## Digits -/

theorem isDigit_of_mem_digits {n : Nat} {c : Char} (listed : c ∈ digits n) :
    c.isDigit = true :=
  Nat.isDigit_of_mem_toDigits (by omega) (by omega) listed

theorem digits_ne_nil (n : Nat) : digits n ≠ [] :=
  Nat.toDigits_ne_nil

theorem isDigit_of_mem_paddedDigits {width n : Nat} {c : Char}
    (listed : c ∈ paddedDigits width n) : c.isDigit = true := by
  rcases List.mem_append.mp listed with zero | digit
  · rw [List.eq_of_mem_replicate zero]
    decide
  · exact isDigit_of_mem_digits digit

theorem paddedDigits_ne_nil (width n : Nat) : paddedDigits width n ≠ [] :=
  List.append_ne_nil_of_right_ne_nil _ (digits_ne_nil n)

/-- A text that a number stands in front of starts with a digit. -/
theorem isDigit_of_starts {width n : Nat} {c : Char} {text rest : List Char}
    (starts : paddedDigits width n ++ text = c :: rest) : c.isDigit = true := by
  have first := congrArg List.head? starts
  rw [List.head?_append, List.head?_eq_some_head (paddedDigits_ne_nil width n)] at first
  cases first
  exact isDigit_of_mem_paddedDigits (List.head_mem _)

/-- A text that a number stands at the end of ends in a digit. -/
theorem isDigit_of_stops {width n : Nat} {c : Char} {text : List Char}
    (stops : c ∈ (text ++ paddedDigits width n).getLast?) : c.isDigit = true := by
  rw [List.getLast?_append, List.getLast?_eq_some_getLast (paddedDigits_ne_nil width n)] at stops
  cases stops
  exact isDigit_of_mem_paddedDigits (List.getLast_mem _)

theorem le_length_paddedDigits (width n : Nat) : width ≤ (paddedDigits width n).length := by
  rw [paddedDigits, List.length_append, List.length_replicate]
  omega

/-- A number that fits a width takes exactly the width. -/
theorem length_paddedDigits {width n : Nat} (positive : 0 < width) (fits : n < 10 ^ width) :
    (paddedDigits width n).length = width := by
  have short : (digits n).length ≤ width :=
    (Nat.length_toDigits_le_iff (by decide) positive).mpr fits
  rw [paddedDigits, List.length_append, List.length_replicate]
  omega

/-- Leading zeros do not change the number. -/
@[simp]
theorem digitsValue_paddedDigits (width n : Nat) : digitsValue (paddedDigits width n) = n := by
  rw [digitsValue, paddedDigits, Nat.ofDigitChars_append, Nat.ofDigitChars_replicate_zero,
    Nat.mul_zero]
  exact digitsValue_digits n

/-! ## Zeros around digits -/

@[simp]
theorem digitsValue_zeros_append (zeros : Nat) (digits : List Char) :
    digitsValue (List.replicate zeros '0' ++ digits) = digitsValue digits := by
  rw [digitsValue, Nat.ofDigitChars_append, Nat.ofDigitChars_replicate_zero, Nat.mul_zero]
  rfl

@[simp]
theorem digitsValue_append_zeros (digits : List Char) (zeros : Nat) :
    digitsValue (digits ++ List.replicate zeros '0') = digitsValue digits * 10 ^ zeros := by
  rw [digitsValue, Nat.ofDigitChars_append, Nat.ofDigitChars_replicate_zero, Nat.mul_comm]
  rfl

/-! ## Reading a number -/

/-- The digits in front of a text that starts with no digit are all taken. -/
theorem takeWhile_paddedDigits {width n : Nat} {rest : List Char}
    (ends : rest.takeWhile Char.isDigit = []) :
    (paddedDigits width n ++ rest).takeWhile Char.isDigit = paddedDigits width n := by
  rw [List.takeWhile_append_of_pos fun _ listed => isDigit_of_mem_paddedDigits listed, ends,
    List.append_nil]

theorem takeNumber_paddedDigits {least most width n : Nat} {rest : List Char}
    (enough : least ≤ (paddedDigits width n).length)
    (fits : (paddedDigits width n).length ≤ most)
    (ends : rest.takeWhile Char.isDigit = []) :
    takeNumber least most (paddedDigits width n ++ rest) = some (n, rest) := by
  have found : ((paddedDigits width n ++ rest).takeWhile Char.isDigit).take most =
      paddedDigits width n := by
    rw [takeWhile_paddedDigits ends, List.take_of_length_le fits]
  simp only [takeNumber, found, digitsValue_paddedDigits, List.drop_left]
  rw [if_neg (by omega)]

/-- As many digits as there may be are read, whatever follows them. -/
theorem takeNumber_full {width n : Nat} {rest : List Char}
    (length : (paddedDigits width n).length = width) :
    takeNumber width width (paddedDigits width n ++ rest) = some (n, rest) := by
  have found : ((paddedDigits width n ++ rest).takeWhile Char.isDigit).take width =
      paddedDigits width n := by
    rw [List.takeWhile_append_of_pos fun _ listed => isDigit_of_mem_paddedDigits listed]
    exact List.take_left' length
  simp only [takeNumber, found, digitsValue_paddedDigits, List.drop_left]
  rw [if_neg (by omega)]

/-- A text that starts with no digit has no number in front. -/
theorem takeNumber_eq_none {least most : Nat} {text : List Char} (positive : 0 < least)
    (ends : text.takeWhile Char.isDigit = []) : takeNumber least most text = none := by
  simp only [takeNumber, ends, List.take_nil, List.length_nil]
  rw [if_pos positive]

/-- A text that starts with a digit has no sign in front. -/
theorem splitSign_of_isDigit {first : Char} (digit : first.isDigit = true) (rest : List Char) :
    splitSign (first :: rest) = (false, first :: rest) := by
  unfold splitSign
  split
  next starts =>
    cases starts
    cases digit
  next starts =>
    cases starts
    cases digit
  next => rfl

/-- An integer is read back from its text. -/
@[simp]
theorem integer?_integerText (i : Int) : integer? (integerText i).toList = some i := by
  rw [integerText, String.toList_ofList]
  split
  next negative =>
    simp only [integer?, splitSign, natural?_digits]
    refine congrArg some (?_ : -(i.natAbs : Int) = i)
    omega
  next =>
    obtain ⟨first, rest, starts⟩ := List.exists_cons_of_ne_nil (digits_ne_nil i.natAbs)
    have digit : first.isDigit = true :=
      isDigit_of_mem_digits (starts ▸ List.mem_cons_self)
    have unsigned := splitSign_of_isDigit digit rest
    rw [← starts] at unsigned
    simp only [integer?, unsigned, natural?_digits]
    refine congrArg some (?_ : (i.natAbs : Int) = i)
    omega

/-! ## Blanks -/

theorem not_isBlank_of_isDigit {c : Char} (digit : c.isDigit = true) : isBlank c = false := by
  simp only [Char.isDigit, Bool.and_eq_true, decide_eq_true_eq, ge_iff_le,
    UInt32.le_iff_toNat_le] at digit
  change 48 ≤ c.toNat ∧ c.toNat ≤ 57 at digit
  simp only [isBlank, Bool.or_eq_false_iff, Bool.and_eq_false_iff, decide_eq_false_iff_not,
    beq_eq_false_iff_ne]
  omega

/-- A text that starts with no blank has no blanks to lose in front. -/
theorem trimStart_eq_self {text : List Char} (starts : ∀ c ∈ text.head?, isBlank c = false) :
    trimStart text = text := by
  cases text with
  | nil => rfl
  | cons c rest => exact List.dropWhile_cons_of_neg (by simp [starts c rfl])

@[simp]
theorem trimStart_paddedDigits (width n : Nat) (rest : List Char) :
    trimStart (paddedDigits width n ++ rest) = paddedDigits width n ++ rest := by
  refine trimStart_eq_self fun c first => not_isBlank_of_isDigit ?_
  obtain ⟨_, starts⟩ := List.head?_eq_some_iff.mp first
  exact isDigit_of_starts starts

/-- A text with no blank at either end has none to lose. -/
theorem trim_eq_self {text : List Char} (starts : ∀ c ∈ text.head?, isBlank c = false)
    (stops : ∀ c ∈ text.getLast?, isBlank c = false) : trim text = text := by
  rw [trim, trimStart_eq_self starts, trimEnd, trimStart_eq_self, List.reverse_reverse]
  intro c first
  exact stops c (by rwa [List.head?_reverse] at first)

theorem trim_of_forall_not_isBlank {text : List Char} (each : ∀ c ∈ text, isBlank c = false) :
    trim text = text :=
  trim_eq_self (fun c first => each c (List.mem_of_mem_head? first))
    (fun c last => each c (List.mem_of_mem_getLast? last))

@[simp]
theorem trim_integerText (i : Int) : trim (integerText i).toList = (integerText i).toList := by
  have digits : ∀ c ∈ digits i.natAbs, isBlank c = false :=
    fun _ listed => not_isBlank_of_isDigit (isDigit_of_mem_digits listed)
  apply trim_of_forall_not_isBlank
  rw [integerText, String.toList_ofList]
  split
  · exact List.forall_mem_cons.mpr ⟨rfl, digits⟩
  · exact digits

end Rollup.Text
