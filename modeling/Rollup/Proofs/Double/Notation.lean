import Rollup.Double.Notation
import Rollup.Proofs.Text.Digits

/-!
# The form of written doubles

The text of a finite double starts, after its sign, with a digit; digits and a point follow,
and then perhaps an exponent.
-/

namespace Rollup.Double

open Text

/-- Whether a character is a digit or a decimal point. -/
def IsDecimal (c : Char) : Prop :=
  c.isDigit = true ∨ c = '.'

/-- Whether a text is a digit followed by digits and points. -/
def IsMantissa (text : List Char) : Prop :=
  ∃ first rest, text = first :: rest ∧ first.isDigit = true ∧ ∀ c ∈ rest, IsDecimal c

theorem isMantissa_append {first second : List Char} (nonempty : first ≠ [])
    (digits : ∀ c ∈ first, c.isDigit = true) (decimal : ∀ c ∈ second, IsDecimal c) :
    IsMantissa (first ++ second) := by
  obtain ⟨c, rest, rfl⟩ := List.exists_cons_of_ne_nil nonempty
  rw [List.forall_mem_cons] at digits
  refine ⟨c, rest ++ second, rfl, digits.1, fun d listed => ?_⟩
  exact (List.mem_append.mp listed).elim (fun inFirst => .inl (digits.2 d inFirst)) (decimal d)

theorem isDecimal_of_mem_replicate {count : Nat} {c : Char}
    (listed : c ∈ List.replicate count '0') : IsDecimal c := by
  rw [List.eq_of_mem_replicate listed]
  exact .inl (by decide)

theorem isMantissa_plainDigits (keepsFraction : Bool) {digits : List Char} (point : Int)
    (nonempty : digits ≠ []) (each : ∀ c ∈ digits, c.isDigit = true) :
    IsMantissa (plainDigits keepsFraction digits point) := by
  unfold plainDigits
  split
  · refine ⟨'0', _, rfl, by decide, List.forall_mem_cons.mpr ⟨.inr rfl, fun c listed => ?_⟩⟩
    exact (List.mem_append.mp listed).elim isDecimal_of_mem_replicate
      fun inDigits => .inl (each c inDigits)
  · split
    · rw [List.append_assoc]
      refine isMantissa_append nonempty each fun c listed => ?_
      rcases List.mem_append.mp listed with zero | fraction
      · exact isDecimal_of_mem_replicate zero
      · cases keepsFraction with
        | false => cases fraction
        | true =>
            simp only [if_true, List.mem_cons, List.not_mem_nil, or_false] at fraction
            rcases fraction with rfl | rfl
            · exact .inr rfl
            · exact .inl (by decide)
    · next later short =>
      have taken : digits.take point.toNat ≠ [] := by
        rw [Ne, List.take_eq_nil_iff]
        rintro (empty | empty)
        · omega
        · exact nonempty empty
      refine isMantissa_append taken (fun c listed => each c (List.mem_of_mem_take listed)) ?_
      refine List.forall_mem_cons.mpr ⟨.inr rfl, fun c listed => ?_⟩
      exact .inl (each c (List.mem_of_mem_drop listed))

/-- Digits with an exponent are a mantissa and an integer after the letter `e`. -/
theorem exponentDigits_eq {digits : List Char} (point : Int) (nonempty : digits ≠ [])
    (each : ∀ c ∈ digits, c.isDigit = true) :
    ∃ mantissa, IsMantissa mantissa ∧
      exponentDigits digits point = mantissa ++ 'e' :: (integerText (point - 1)).toList := by
  obtain ⟨first, rest, rfl⟩ := List.exists_cons_of_ne_nil nonempty
  rw [List.forall_mem_cons] at each
  refine ⟨first :: (if rest.isEmpty then [] else '.' :: rest), ⟨first, _, rfl, each.1, ?_⟩, rfl⟩
  split
  · intro c listed
    cases listed
  · exact List.forall_mem_cons.mpr ⟨.inr rfl, fun c listed => .inl (each.2 c listed)⟩

/-- The unsigned text of a finite double. -/
theorem magnitude_eq (layout : Layout) (significand : Nat) (exponent : Int) :
    ∃ mantissa, IsMantissa mantissa ∧
      (layout.magnitude significand exponent = mantissa ∨
        ∃ power : Int, layout.magnitude significand exponent =
          mantissa ++ 'e' :: (integerText power).toList) := by
  unfold Layout.magnitude
  split
  · exact ⟨_, isMantissa_plainDigits _ 1 (by decide) (List.forall_mem_singleton.mpr rfl), .inl rfl⟩
  · generalize shortest significand exponent = found
    obtain ⟨count, power⟩ := found
    have each : ∀ c ∈ digits count, c.isDigit = true := fun _ => isDigit_of_mem_digits
    dsimp only
    split
    · exact ⟨_, isMantissa_plainDigits _ _ (digits_ne_nil count) each, .inl rfl⟩
    · obtain ⟨mantissa, isMantissa, same⟩ := exponentDigits_eq
        ((digits count).length + power) (digits_ne_nil count) each
      exact ⟨mantissa, isMantissa, .inr ⟨_, same⟩⟩

/-! ## Characters of numbers -/

/-- Whether a character may stand in a written number. -/
def IsNumeral (c : Char) : Prop :=
  c.isAlphanum = true ∨ c = '.' ∨ c = '-'

theorem isNumeral_of_isDigit {c : Char} (digit : c.isDigit = true) : IsNumeral c :=
  .inl (by simp [Char.isAlphanum, digit])

theorem isNumeral_of_mem_integerText {i : Int} {c : Char}
    (listed : c ∈ (integerText i).toList) : IsNumeral c := by
  rw [integerText, String.toList_ofList] at listed
  split at listed
  · rcases List.mem_cons.mp listed with rfl | digit
    · exact .inr (.inr rfl)
    · exact isNumeral_of_isDigit (isDigit_of_mem_digits digit)
  · exact isNumeral_of_isDigit (isDigit_of_mem_digits listed)

theorem isNumeral_of_mem_mantissa {mantissa : List Char} (isMantissa : IsMantissa mantissa)
    {c : Char} (listed : c ∈ mantissa) : IsNumeral c := by
  obtain ⟨first, rest, rfl, digit, decimal⟩ := isMantissa
  rcases List.mem_cons.mp listed with rfl | later
  · exact isNumeral_of_isDigit digit
  · exact (decimal c later).elim isNumeral_of_isDigit fun point => .inr (.inl point)

theorem isNumeral_of_mem_magnitude {layout : Layout} {significand : Nat} {exponent : Int}
    {c : Char} (listed : c ∈ layout.magnitude significand exponent) : IsNumeral c := by
  obtain ⟨mantissa, isMantissa, plain | ⟨power, scientific⟩⟩ :=
    magnitude_eq layout significand exponent
  · rw [plain] at listed
    exact isNumeral_of_mem_mantissa isMantissa listed
  · rw [scientific, List.mem_append, List.mem_cons] at listed
    rcases listed with inMantissa | rfl | inPower
    · exact isNumeral_of_mem_mantissa isMantissa inMantissa
    · exact .inl (by decide)
    · exact isNumeral_of_mem_integerText inPower

theorem isNumeral_of_mem_literalText {value : Double} {c : Char}
    (listed : c ∈ value.literalText.toList) : IsNumeral c := by
  have notANumber : ['N', 'a', 'N'].all Char.isAlphanum = true := by decide
  have infinite : ['i', 'n', 'f'].all Char.isAlphanum = true := by decide
  match value with
  | .nan => exact .inl (List.all_eq_true.mp notANumber c listed)
  | .infinite false => exact .inl (List.all_eq_true.mp infinite c listed)
  | .infinite true =>
      rcases List.mem_cons.mp listed with rfl | letter
      · exact .inr (.inr rfl)
      · exact .inl (List.all_eq_true.mp infinite c letter)
  | .finite negative significand exponent normal =>
      rw [literalText, Layout.text, String.toList_ofList] at listed
      cases negative with
      | false => exact isNumeral_of_mem_magnitude listed
      | true =>
          rcases List.mem_cons.mp listed with rfl | inMagnitude
          · exact .inr (.inr rfl)
          · exact isNumeral_of_mem_magnitude inMagnitude

end Rollup.Double
