import Rollup.Proofs.Text.Digits

/-!
# The order of texts

Texts are compared byte by byte: the first difference decides, and a text comes before those that
go on behind it.  In ASCII a byte is a character, so what is written in front is compared first;
and numbers in one width are in the order of their texts.
-/

namespace Rollup.Text

/-- The bytes of a text, in UTF-8. -/
def bytes (text : String) : List UInt8 :=
  text.toUTF8.data.toList

/-! ## Bytes of ASCII -/

/-- Whether each character of a text is one byte. -/
def IsAscii (text : List Char) : Prop :=
  ∀ c ∈ text, c.toNat < 128

theorem isDigit_bounds {c : Char} (digit : c.isDigit = true) : 48 ≤ c.toNat ∧ c.toNat ≤ 57 :=
  Char.isDigit_iff_toNat.mp digit

theorem isAscii_paddedDigits (width n : Nat) : IsAscii (paddedDigits width n) := by
  intro c listed
  have digit := isDigit_bounds (isDigit_of_mem_paddedDigits listed)
  omega

theorem bytes_ofList {text : List Char} (ascii : IsAscii text) :
    bytes (String.ofList text) = text.map Char.toUInt8 := by
  rw [bytes, String.toUTF8_eq_toByteArray, String.toByteArray_ofList, List.utf8Encode,
    List.toList_data_toByteArray]
  induction text with
  | nil => rfl
  | cons c rest inductionHypothesis =>
      obtain ⟨small, others⟩ := List.forall_mem_cons.mp ascii
      have single : c.utf8Size = 1 := by
        rw [Char.utf8Size_eq_one_iff, UInt32.le_iff_toNat_le]
        exact Nat.le_of_lt_succ small
      rw [List.flatMap_cons, inductionHypothesis others, String.utf8EncodeChar_eq_singleton single]
      rfl

theorem lt_iff_toNat_lt {c d : Char} : c < d ↔ c.toNat < d.toNat :=
  UInt32.lt_iff_toNat_lt

theorem toNat_toUInt8 {c : Char} (small : c.toNat < 128) : c.toUInt8.toNat = c.toNat :=
  Nat.mod_eq_of_lt (Nat.lt_trans small (by decide))

/-- Texts in ASCII are in the order of their characters. -/
theorem bytes_lt_bytes_iff {first second : List Char} (firstAscii : IsAscii first)
    (secondAscii : IsAscii second) :
    bytes (String.ofList first) < bytes (String.ofList second) ↔ first < second := by
  rw [bytes_ofList firstAscii, bytes_ofList secondAscii]
  induction first generalizing second with
  | nil => cases second <;> simp
  | cons c first inductionHypothesis =>
      cases second with
      | nil => simp
      | cons d second =>
          obtain ⟨firstSmall, firstAscii⟩ := List.forall_mem_cons.mp firstAscii
          obtain ⟨secondSmall, secondAscii⟩ := List.forall_mem_cons.mp secondAscii
          have before : c.toUInt8 < d.toUInt8 ↔ c < d := by
            rw [UInt8.lt_iff_toNat_lt, toNat_toUInt8 firstSmall, toNat_toUInt8 secondSmall]
            exact lt_iff_toNat_lt.symm
          have same : c.toUInt8 = d.toUInt8 ↔ c = d := by
            rw [← UInt8.toNat_inj, toNat_toUInt8 firstSmall, toNat_toUInt8 secondSmall,
              Char.toNat_inj]
          rw [List.map_cons, List.map_cons, List.cons_lt_cons_iff, List.cons_lt_cons_iff, before,
            same, inductionHypothesis firstAscii secondAscii]

/-! ## Parts of one length -/

/-- Of lists that start with parts of one length, these parts are compared first. -/
theorem append_lt_append_iff {α : Type} [LT α] [Std.Irrefl (· < · : α → α → Prop)]
    {first second rest others : List α} (length : first.length = second.length) :
    first ++ rest < second ++ others ↔ first < second ∨ first = second ∧ rest < others := by
  induction first generalizing second with
  | nil =>
      obtain rfl := List.length_eq_zero_iff.mp length.symm
      simp [List.lt_irrefl]
  | cons c first inductionHypothesis =>
      cases second with
      | nil => cases length
      | cons d second =>
          rw [List.cons_append, List.cons_append, List.cons_lt_cons_iff, List.cons_lt_cons_iff,
            inductionHypothesis (Nat.succ.inj length), List.cons.injEq, and_or_left, and_assoc,
            or_assoc]

/-! ## Numbers in one width -/

theorem digitsValue_cons (c : Char) (rest : List Char) :
    digitsValue (c :: rest) = 10 ^ rest.length * (c.toNat - 48) + digitsValue rest := by
  rw [digitsValue, Nat.ofDigitChars_cons, Nat.ofDigitChars_eq_ofDigitChars_zero, Nat.mul_zero,
    Nat.zero_add]
  rfl

theorem digitsValue_lt {digits : List Char} (each : ∀ c ∈ digits, c.isDigit = true) :
    digitsValue digits < 10 ^ digits.length := by
  induction digits with
  | nil => decide
  | cons c rest inductionHypothesis =>
      obtain ⟨digit, others⟩ := List.forall_mem_cons.mp each
      have bounds := isDigit_bounds digit
      have smaller := inductionHypothesis others
      have most := Nat.mul_le_mul_left (10 ^ rest.length) (show c.toNat - 48 ≤ 9 by omega)
      rw [digitsValue_cons, List.length_cons, Nat.pow_succ]
      omega

/-- Of numbers with a leading part and less than its place behind it, the leading parts are
compared first. -/
theorem place_lt_place_iff {place leading other rest others : Nat} (restFits : rest < place)
    (othersFit : others < place) :
    place * leading + rest < place * other + others ↔
      leading < other ∨ leading = other ∧ rest < others := by
  rcases Nat.lt_trichotomy leading other with less | rfl | greater
  · have next := Nat.mul_le_mul_left place less
    rw [Nat.mul_succ] at next
    omega
  · omega
  · have next := Nat.mul_le_mul_left place greater
    rw [Nat.mul_succ] at next
    omega

/-- As many digits are in the order of the numbers that they denote. -/
theorem digits_lt_digits_iff {first second : List Char} (length : first.length = second.length)
    (firstDigits : ∀ c ∈ first, c.isDigit = true) (secondDigits : ∀ c ∈ second, c.isDigit = true) :
    first < second ↔ digitsValue first < digitsValue second := by
  induction first generalizing second with
  | nil =>
      obtain rfl := List.length_eq_zero_iff.mp length.symm
      simp
  | cons c first inductionHypothesis =>
      cases second with
      | nil => cases length
      | cons d second =>
          obtain ⟨firstDigit, firstDigits⟩ := List.forall_mem_cons.mp firstDigits
          obtain ⟨secondDigit, secondDigits⟩ := List.forall_mem_cons.mp secondDigits
          have firstBounds := isDigit_bounds firstDigit
          have secondBounds := isDigit_bounds secondDigit
          have shorter : first.length = second.length := Nat.succ.inj length
          have firstFits := digitsValue_lt firstDigits
          have secondFits := digitsValue_lt secondDigits
          rw [shorter] at firstFits
          have before : c < d ↔ c.toNat - 48 < d.toNat - 48 := by
            rw [lt_iff_toNat_lt]
            omega
          have same : c = d ↔ c.toNat - 48 = d.toNat - 48 := by
            rw [← Char.toNat_inj]
            omega
          rw [List.cons_lt_cons_iff, digitsValue_cons, digitsValue_cons, shorter,
            place_lt_place_iff firstFits secondFits, before, same,
            inductionHypothesis shorter firstDigits secondDigits]

/-- What starts with numbers that fit a width is in the order of the numbers first. -/
theorem paddedDigits_append_lt_iff {width n other : Nat} {rest others : List Char}
    (positive : 0 < width) (fits : n < 10 ^ width) (otherFits : other < 10 ^ width) :
    paddedDigits width n ++ rest < paddedDigits width other ++ others ↔
      n < other ∨ n = other ∧ rest < others := by
  have length : (paddedDigits width n).length = (paddedDigits width other).length := by
    rw [length_paddedDigits positive fits, length_paddedDigits positive otherFits]
  have before : paddedDigits width n < paddedDigits width other ↔ n < other := by
    rw [digits_lt_digits_iff length (fun _ => isDigit_of_mem_paddedDigits)
      (fun _ => isDigit_of_mem_paddedDigits), digitsValue_paddedDigits, digitsValue_paddedDigits]
  have same : paddedDigits width n = paddedDigits width other ↔ n = other := by
    constructor
    · intro same
      rw [← digitsValue_paddedDigits width n, same, digitsValue_paddedDigits]
    · rintro rfl
      rfl
  rw [append_lt_append_iff length, before, same]

end Rollup.Text
