import Mathlib.Data.List.Infix
import Rollup.Sql.Dialect

/-!
# Patterns of texts

What `LIKE` with an escape character accepts, and the position that `instr` gives.  Both
are used to look for a text inside another one: a pattern made for that accepts exactly
the texts that hold the given one, and the position is positive for the same texts.
-/

namespace Rollup.Sql

/-! ## Patterns -/

/-- A sign of a pattern. -/
inductive PatternSign where
  /-- Any characters, also none. -/
  | anyText
  /-- Any one character. -/
  | anyCharacter
  | character (c : Char)
  deriving DecidableEq

/-- What a character stands for in a pattern when it is not escaped. -/
def PatternSign.ofChar (c : Char) : PatternSign :=
  if c = '%' then .anyText else if c = '_' then .anyCharacter else .character c

/-- The signs of a pattern, of which the first character is escaped or not.  An escaped
character stands for itself; a text that ends in the escape is no pattern. -/
def patternSigns (escape : Option Char) : Bool → List Char → Option (List PatternSign)
  | false, [] => some []
  | true, [] => none
  | true, c :: rest => (patternSigns escape false rest).map (.character c :: ·)
  | false, c :: rest =>
      if escape = some c then patternSigns escape true rest
      else (patternSigns escape false rest).map (.ofChar c :: ·)

/-- Whether the signs of a pattern accept a text. -/
def acceptsText : List PatternSign → List Char → Bool
  | [], text => text.isEmpty
  | .anyText :: signs, text => text.tails.any (acceptsText signs)
  | .anyCharacter :: signs, text =>
      match text with
      | [] => false
      | _ :: rest => acceptsText signs rest
  | .character c :: signs, text =>
      match text with
      | [] => false
      | first :: rest => first = c && acceptsText signs rest

/-- Whether a text is like a pattern, if it is one. -/
def like? (escape : Option Char) (text pattern : List Char) : Option Bool :=
  (patternSigns escape false pattern).map fun signs => acceptsText signs text

@[simp]
theorem acceptsText_anyText_iff (signs : List PatternSign) (text : List Char) :
    acceptsText (.anyText :: signs) text = true ↔
      ∃ rest, rest <:+ text ∧ acceptsText signs rest = true := by
  simp [acceptsText]

/-- Characters accept a text that starts with them and goes on as the rest of the
pattern accepts. -/
@[simp]
theorem acceptsText_characters_iff (needle : List Char) (signs : List PatternSign)
    (text : List Char) :
    acceptsText (needle.map .character ++ signs) text = true ↔
      ∃ rest, text = needle ++ rest ∧ acceptsText signs rest = true := by
  induction needle generalizing text with
  | nil => simp
  | cons c needle inductionHypothesis =>
      cases text with
      | nil => simp [acceptsText]
      | cons first text =>
          simp only [List.map_cons, List.cons_append, acceptsText, Bool.and_eq_true,
            decide_eq_true_eq, inductionHypothesis, List.cons.injEq]
          constructor
          · rintro ⟨same, rest, split, accepted⟩
            exact ⟨rest, ⟨same, split⟩, accepted⟩
          · rintro ⟨rest, ⟨same, split⟩, accepted⟩
            exact ⟨same, rest, split, accepted⟩

/-- Characters between two signs for any text accept the texts that hold them. -/
theorem acceptsText_around_iff (needle text : List Char) :
    acceptsText (.anyText :: (needle.map .character ++ [.anyText])) text = true ↔
      needle <:+: text := by
  have everything (rest : List Char) : acceptsText [.anyText] rest = true :=
    (acceptsText_anyText_iff [] rest).mpr ⟨[], List.nil_suffix, rfl⟩
  rw [acceptsText_anyText_iff, List.infix_iff_prefix_suffix]
  constructor
  · rintro ⟨found, suffix, accepted⟩
    obtain ⟨rest, split, _⟩ := (acceptsText_characters_iff needle _ found).mp accepted
    exact ⟨found, ⟨rest, split.symm⟩, suffix⟩
  · rintro ⟨found, ⟨rest, split⟩, suffix⟩
    exact ⟨found, suffix,
      (acceptsText_characters_iff needle _ found).mpr ⟨rest, split.symm, everything rest⟩⟩

/-! ## Patterns that look for a text -/

/-- Whether a character is one of the signs of a generated pattern. -/
def isPatternSign (c : Char) : Prop :=
  c = '%' ∨ c = '_' ∨ c = likeEscape

instance (c : Char) : Decidable (isPatternSign c) :=
  inferInstanceAs (Decidable (_ ∨ _ ∨ _))

/-- A character with the escape in front where it would be a sign. -/
def escapeSign (c : Char) : List Char :=
  if isPatternSign c then [likeEscape, c] else [c]

theorem toList_containsPattern (text : String) :
    (containsPattern text).toList = '%' :: (text.toList.flatMap escapeSign ++ ['%']) := by
  simp only [containsPattern, String.toList_ofList, List.cons_append]
  rfl

/-- An escaped character stands for itself in a generated pattern. -/
@[simp]
theorem patternSigns_escapeSign (c : Char) (rest : List Char) :
    patternSigns (some likeEscape) false (escapeSign c ++ rest) =
      (patternSigns (some likeEscape) false rest).map (.character c :: ·) := by
  by_cases sign : isPatternSign c
  · simp [escapeSign, sign, patternSigns]
  · have plain : PatternSign.ofChar c = .character c := by
      simp only [isPatternSign, not_or] at sign
      simp [PatternSign.ofChar, sign.1, sign.2.1]
    have notEscape : some likeEscape ≠ some c := by
      simp only [isPatternSign, not_or] at sign
      simpa using Ne.symm sign.2.2
    rw [escapeSign, if_neg sign, List.singleton_append, patternSigns, if_neg notEscape, plain]

theorem patternSigns_flatMap_escapeSign (needle rest : List Char) :
    patternSigns (some likeEscape) false (needle.flatMap escapeSign ++ rest) =
      (patternSigns (some likeEscape) false rest).map (needle.map .character ++ ·) := by
  induction needle with
  | nil => simp
  | cons c needle inductionHypothesis =>
      rw [List.flatMap_cons, List.append_assoc, patternSigns_escapeSign, inductionHypothesis,
        Option.map_map]
      rfl

theorem patternSigns_containsPattern (text : String) :
    patternSigns (some likeEscape) false (containsPattern text).toList =
      some (.anyText :: (text.toList.map .character ++ [.anyText])) := by
  have percent (rest : List Char) : patternSigns (some likeEscape) false ('%' :: rest) =
      (patternSigns (some likeEscape) false rest).map (.anyText :: ·) := by
    rw [patternSigns, if_neg (by decide)]
    rfl
  rw [toList_containsPattern, percent, patternSigns_flatMap_escapeSign, percent]
  rfl

/-- A generated pattern accepts exactly the texts that hold the given one. -/
theorem like?_containsPattern (needle : String) (text : List Char) :
    like? (some likeEscape) text (containsPattern needle).toList =
      some (decide (needle.toList <:+: text)) := by
  rw [like?, patternSigns_containsPattern, Option.map_some, Option.some.injEq,
    Bool.eq_iff_iff, acceptsText_around_iff, decide_eq_true_iff]

/-! ## Lower case -/

/-- Whether a lower-casing of characters leaves the signs of generated patterns alone:
it changes none of them and makes none of another character. -/
def KeepsPatternSigns (lower : Char → Char) : Prop :=
  ∀ sign, isPatternSign sign → ∀ c, lower c = sign ↔ c = sign

theorem KeepsPatternSigns.isPatternSign_iff {lower : Char → Char}
    (keeps : KeepsPatternSigns lower) (c : Char) :
    isPatternSign (lower c) ↔ isPatternSign c := by
  have percent := keeps '%' (.inl rfl) c
  have underscore := keeps '_' (.inr (.inl rfl)) c
  have escape := keeps likeEscape (.inr (.inr rfl)) c
  rw [isPatternSign, percent, underscore, escape, isPatternSign]

theorem KeepsPatternSigns.map_escapeSign {lower : Char → Char}
    (keeps : KeepsPatternSigns lower) (c : Char) :
    (escapeSign c).map lower = escapeSign (lower c) := by
  have escape : lower likeEscape = likeEscape :=
    (keeps likeEscape (.inr (.inr rfl)) likeEscape).mpr rfl
  by_cases sign : isPatternSign c
  · simp [escapeSign, sign, (keeps.isPatternSign_iff c).mpr sign, escape]
  · have plain : ¬ isPatternSign (lower c) := fun lowered =>
      sign ((keeps.isPatternSign_iff c).mp lowered)
    simp [escapeSign, sign, plain]

/-- The lower-cased pattern that looks for a text is the pattern that looks for the
lower-cased text. -/
theorem KeepsPatternSigns.map_containsPattern {lower : Char → Char}
    (keeps : KeepsPatternSigns lower) (text : String) :
    (containsPattern text).map lower = containsPattern (text.map lower) := by
  have percent : lower '%' = '%' := (keeps '%' (.inl rfl) '%').mpr rfl
  apply String.ext
  rw [String.toList_map, toList_containsPattern, toList_containsPattern, String.toList_map,
    List.map_cons, List.map_append, List.map_flatMap, List.flatMap_map, percent]
  simp only [keeps.map_escapeSign]
  simp [percent]

/-- The lower-casing of ASCII letters leaves the signs of patterns alone. -/
theorem keepsPatternSigns_toLower : KeepsPatternSigns Char.toLower := by
  intro sign isSign c
  have code : sign.val.toNat = 37 ∨ sign.val.toNat = 95 ∨ sign.val.toNat = 33 := by
    rcases isSign with rfl | rfl | rfl <;> decide
  by_cases upper : c.val ≥ 'A'.val ∧ c.val ≤ 'Z'.val
  · have least : 65 ≤ c.val.toNat := UInt32.le_iff_toNat_le.mp upper.1
    have greatest : c.val.toNat ≤ 90 := UInt32.le_iff_toNat_le.mp upper.2
    have shifted : c.toLower.val = c.val + 32 := congrArg Char.val (dif_pos upper)
    have lowered : c.toLower.val.toNat = c.val.toNat + 32 := by
      rw [shifted, UInt32.toNat_add]
      exact Nat.mod_eq_of_lt (by change c.val.toNat + 32 < 4294967296; omega)
    constructor
    · rintro rfl
      omega
    · rintro rfl
      omega
  · have unchanged : c.toLower = c := dif_neg upper
    rw [unchanged]

/-! ## Positions -/

/-- The position, counted from one, at which a text first occurs in another; zero when it
does not. -/
def position (needle : List Char) : List Char → Nat
  | [] => if needle = [] then 1 else 0
  | c :: rest =>
      if needle.isPrefixOf (c :: rest) then 1
      else
        match position needle rest with
        | 0 => 0
        | found + 1 => found + 2

/-- A position is positive exactly when the text occurs. -/
@[simp]
theorem position_pos_iff (needle text : List Char) :
    0 < position needle text ↔ needle <:+: text := by
  induction text with
  | nil => by_cases empty : needle = [] <;> simp [position, empty]
  | cons c rest inductionHypothesis =>
      rw [List.infix_cons_iff, ← inductionHypothesis, ← List.isPrefixOf_iff_prefix, position]
      by_cases starts : needle.isPrefixOf (c :: rest) = true
      · simp [starts]
      · rw [if_neg starts]
        cases position needle rest <;> simp [starts]

end Rollup.Sql
