import Rollup.Proofs.Double.Notation

/-!
# Numeric literals

The numbers of SQL: a sign or none, digits, and perhaps a fraction and an exponent.  A
finite double is written as one of them.  An infinity and an absent number are written as
words, which are none.
-/

namespace Rollup.Double

open Text

/-! ## The grammar of numbers -/

/-- Whether a text is one digit or more. -/
def IsDigits (text : List Char) : Prop :=
  text ≠ [] ∧ ∀ c ∈ text, c.isDigit = true

/-- Whether a text is nothing or the sign of a number. -/
def IsOptionalSign (text : List Char) : Prop :=
  text = [] ∨ text = ['-'] ∨ text = ['+']

/-- Whether a text is nothing or a point with digits behind it. -/
def IsOptionalFraction (text : List Char) : Prop :=
  text = [] ∨ ∃ digits, IsDigits digits ∧ text = '.' :: digits

/-- Whether a text is nothing or the letter `e`, in either case, with an integer behind
it. -/
def IsOptionalExponent (text : List Char) : Prop :=
  text = [] ∨ ∃ letter sign digits, (letter = 'e' ∨ letter = 'E') ∧ IsOptionalSign sign ∧
    IsDigits digits ∧ text = letter :: (sign ++ digits)

/-- Whether a text is a number: an optional sign, digits, an optional fraction and an
optional exponent. -/
def IsNumericLiteral (text : List Char) : Prop :=
  ∃ sign whole fraction exponent, IsOptionalSign sign ∧ IsDigits whole ∧
    IsOptionalFraction fraction ∧ IsOptionalExponent exponent ∧
      text = sign ++ whole ++ fraction ++ exponent

/-- A number has a digit behind its sign. -/
theorem IsNumericLiteral.starts {text : List Char} (numeric : IsNumericLiteral text) :
    ∃ sign first rest, IsOptionalSign sign ∧ first.isDigit = true ∧
      text = sign ++ first :: rest := by
  obtain ⟨sign, whole, fraction, exponent, signed, ⟨nonempty, digits⟩, _, _, rfl⟩ := numeric
  obtain ⟨first, rest, rfl⟩ := List.exists_cons_of_ne_nil nonempty
  refine ⟨sign, first, rest ++ fraction ++ exponent, signed, digits first List.mem_cons_self, ?_⟩
  simp only [List.append_assoc, List.cons_append]

/-- A word, with or without a minus sign, is no number. -/
theorem not_isNumericLiteral_of_letter {letter : Char} (word : List Char)
    (noSign : letter ≠ '-' ∧ letter ≠ '+') (noDigit : letter.isDigit = false) :
    ¬ IsNumericLiteral (letter :: word) ∧ ¬ IsNumericLiteral ('-' :: letter :: word) := by
  have digit_ne {first : Char} (digit : first.isDigit = true) : letter ≠ first := by
    rintro rfl
    exact Bool.false_ne_true (noDigit.symm.trans digit)
  constructor
  all_goals
    intro numeric
    obtain ⟨sign, first, rest, rfl | rfl | rfl, digit, same⟩ := numeric.starts
    all_goals
      simp only [List.nil_append, List.cons_append, List.cons.injEq] at same
  · exact digit_ne digit same.1
  · exact noSign.1 same.1
  · exact noSign.2 same.1
  · rw [← same.1] at digit
    cases digit
  · exact digit_ne digit same.2.1
  · exact absurd same.1 (by decide)

/-! ## Written numbers -/

theorem isDigits_digits (n : Nat) : IsDigits (digits n) :=
  ⟨digits_ne_nil n, fun _ => isDigit_of_mem_digits⟩

theorem isDigit_of_mem_zeros {count : Nat} {c : Char} (listed : c ∈ List.replicate count '0') :
    c.isDigit = true := by
  rw [List.eq_of_mem_replicate listed]
  rfl

theorem isDigits_zero : IsDigits ['0'] :=
  ⟨List.cons_ne_nil _ _, List.forall_mem_singleton.mpr rfl⟩

theorem isDigits_append {first second : List Char} (nonempty : first ≠ [] ∨ second ≠ [])
    (firstDigits : ∀ c ∈ first, c.isDigit = true)
    (secondDigits : ∀ c ∈ second, c.isDigit = true) : IsDigits (first ++ second) := by
  refine ⟨fun none => ?_, fun c listed => ?_⟩
  · rw [List.append_eq_nil_iff] at none
    exact nonempty.elim (absurd none.1) (absurd none.2)
  · exact (List.mem_append.mp listed).elim (firstDigits c) (secondDigits c)

/-- Digits with a point in them or behind them are a whole part and a fraction. -/
theorem plainDigits_eq {digits : List Char} (isDigits : IsDigits digits) (point : Int) :
    ∃ whole fraction, IsDigits whole ∧ IsOptionalFraction fraction ∧
      plainDigits true digits point = whole ++ fraction := by
  unfold plainDigits
  split
  · exact ⟨['0'], _, isDigits_zero,
      .inr ⟨_, isDigits_append (.inr isDigits.1) (fun _ => isDigit_of_mem_zeros) isDigits.2, rfl⟩,
      rfl⟩
  · split
    · exact ⟨_, ['.', '0'],
        isDigits_append (.inl isDigits.1) isDigits.2 fun _ => isDigit_of_mem_zeros,
        .inr ⟨['0'], isDigits_zero, rfl⟩, rfl⟩
    · next later short =>
      have taken : digits.take point.toNat ≠ [] := by
        rw [Ne, List.take_eq_nil_iff]
        rintro (none | empty)
        · omega
        · exact isDigits.1 empty
      have left : digits.drop point.toNat ≠ [] := by
        rw [Ne, List.drop_eq_nil_iff]
        omega
      exact ⟨digits.take point.toNat, '.' :: digits.drop point.toNat,
        ⟨taken, fun c listed => isDigits.2 c (List.mem_of_mem_take listed)⟩,
        .inr ⟨_, ⟨left, fun c listed => isDigits.2 c (List.mem_of_mem_drop listed)⟩, rfl⟩, rfl⟩

theorem isOptionalExponent_integerText (power : Int) :
    IsOptionalExponent ('e' :: (integerText power).toList) := by
  have isDigits := isDigits_digits power.natAbs
  rw [integerText, String.toList_ofList]
  split
  · exact .inr ⟨'e', ['-'], _, .inl rfl, .inr (.inl rfl), isDigits, rfl⟩
  · exact .inr ⟨'e', [], _, .inl rfl, .inl rfl, isDigits, rfl⟩

/-- Digits with one of them before the point are a whole part, a fraction unless there is
only one, and an exponent. -/
theorem exponentDigits_eq_append {digits : List Char} (isDigits : IsDigits digits)
    (point : Int) :
    ∃ whole fraction exponent, IsDigits whole ∧ IsOptionalFraction fraction ∧
      IsOptionalExponent exponent ∧
        exponentDigits digits point = whole ++ fraction ++ exponent := by
  obtain ⟨nonempty, each⟩ := isDigits
  obtain ⟨first, rest, rfl⟩ := List.exists_cons_of_ne_nil nonempty
  rw [List.forall_mem_cons] at each
  refine ⟨[first], if rest.isEmpty then [] else '.' :: rest, _,
    ⟨by simp, List.forall_mem_singleton.mpr each.1⟩, ?_,
    isOptionalExponent_integerText (point - 1), rfl⟩
  split
  · exact .inl rfl
  · next some => exact .inr ⟨rest, ⟨fun none => some (none ▸ rfl), each.2⟩, rfl⟩

/-- The unsigned literal of a finite double is a number without a sign. -/
theorem literal_magnitude_eq (significand : Nat) (exponent : Int) :
    ∃ whole fraction power, IsDigits whole ∧ IsOptionalFraction fraction ∧
      IsOptionalExponent power ∧
        Layout.literal.magnitude significand exponent = whole ++ fraction ++ power := by
  have plain {found : List Char} (isDigits : IsDigits found) (point : Int) :
      ∃ whole fraction power, IsDigits whole ∧ IsOptionalFraction fraction ∧
        IsOptionalExponent power ∧
          plainDigits true found point = whole ++ fraction ++ power := by
    obtain ⟨whole, fraction, isWhole, isFraction, same⟩ := plainDigits_eq isDigits point
    exact ⟨whole, fraction, [], isWhole, isFraction, .inl rfl,
      same.trans (List.append_nil _).symm⟩
  unfold Layout.magnitude
  split
  · exact plain isDigits_zero 1
  · generalize shortest significand exponent = found
    obtain ⟨count, power⟩ := found
    dsimp only
    split
    · exact plain (isDigits_digits count) _
    · exact exponentDigits_eq_append (isDigits_digits count) _

/-- The literal of a double is a number exactly when the double is finite. -/
theorem isNumericLiteral_literalText_iff {value : Double} :
    IsNumericLiteral value.literalText.toList ↔ value.isFinite = true := by
  match value with
  | .nan =>
      refine iff_of_false ?_ (by decide)
      exact (not_isNumericLiteral_of_letter ['a', 'N'] (by decide) (by decide)).1
  | .infinite false =>
      refine iff_of_false ?_ (by decide)
      exact (not_isNumericLiteral_of_letter ['n', 'f'] (by decide) (by decide)).1
  | .infinite true =>
      refine iff_of_false ?_ (by decide)
      exact (not_isNumericLiteral_of_letter ['n', 'f'] (by decide) (by decide)).2
  | .finite negative significand exponent normal =>
      refine iff_of_true ?_ rfl
      obtain ⟨whole, fraction, power, isWhole, isFraction, isPower, same⟩ :=
        literal_magnitude_eq significand exponent
      rw [literalText, Layout.text, String.toList_ofList, same]
      cases negative with
      | false => exact ⟨[], whole, fraction, power, .inl rfl, isWhole, isFraction, isPower, rfl⟩
      | true =>
          exact ⟨['-'], whole, fraction, power, .inr (.inl rfl), isWhole, isFraction, isPower,
            rfl⟩

/-- A double that is not finite is written as one of three words. -/
theorem literalText_mem_of_not_isFinite {value : Double} (infinite : ¬ value.isFinite = true) :
    value.literalText ∈ ["NaN", "inf", "-inf"] := by
  match value with
  | .nan => exact List.mem_cons_self
  | .infinite false => exact List.mem_cons_of_mem _ List.mem_cons_self
  | .infinite true => exact List.mem_cons_of_mem _ (List.mem_cons_of_mem _ List.mem_cons_self)
  | .finite .. => exact absurd rfl infinite

end Rollup.Double
