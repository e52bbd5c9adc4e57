import Rollup.Proofs.Double.Notation
import Rollup.Proofs.Sql.Lexer
import Rollup.Text.Blank

/-!
# Signs

The words and marks that stand outside quotes, and the quoted tokens between them: what a
grammar of SQL is about.  Letters, digits, underscores and points make words, as long as
possible, and a number takes the sign of its exponent; any other character is a mark, and
blanks only part words.
-/

namespace Rollup.Sql

/-- A word, a mark, a quoted name or a quoted string. -/
inductive Sign where
  | word (letters : List Char)
  | mark (c : Char)
  | identifier (name : String)
  | string (value : String)
  deriving DecidableEq

namespace Sign

/-- Whether a sign is a keyword, in upper or lower case. -/
def isKeyword (keyword : String) : Sign → Bool
  | .word letters => letters.map Char.toUpper == keyword.toList
  | _ => false

/-- The keywords of conditions, which name nothing else. -/
def reserved : List String :=
  ["AND", "OR", "NOT", "LIKE", "ESCAPE", "REGEXP"]

/-- Whether a sign is a keyword of conditions. -/
def isReserved (sign : Sign) : Bool :=
  reserved.any fun keyword => sign.isKeyword keyword

end Sign

/-- Whether a character is part of a word wherever it stands. -/
def isWordChar (c : Char) : Bool :=
  c.isAlphanum || c == '_' || c == '.'

/-- Whether a word is a number that ends in the letter of its exponent. -/
def awaitsExponent (letters : List Char) : Bool :=
  letters.head?.any Char.isDigit && letters.getLast?.any fun c => c == 'e' || c == 'E'

/-- Whether a word goes on with a character. -/
def continuesWord (letters : List Char) (c : Char) : Bool :=
  isWordChar c || ((c == '-' || c == '+') && awaitsExponent letters)

/-- A word that is complete, if it has any letters. -/
def completeWord (letters : List Char) : List Sign :=
  if letters.isEmpty then [] else [.word letters]

/-- The sign of a character outside words, if it is not a blank. -/
def markOf (c : Char) : List Sign :=
  if Text.isBlank c then [] else [.mark c]

/-- The signs of some lexemes, `letters` being those of the word that stands before
them. -/
def signsFrom (letters : List Char) : List Lexeme → List Sign
  | [] => completeWord letters
  | .plain c :: rest =>
      if continuesWord letters c then signsFrom (letters ++ [c]) rest
      else completeWord letters ++ markOf c ++ signsFrom [] rest
  | .identifier name :: rest => completeWord letters ++ .identifier name :: signsFrom [] rest
  | .string value :: rest => completeWord letters ++ .string value :: signsFrom [] rest

/-- The signs of some lexemes. -/
def signs (lexemes : List Lexeme) : List Sign :=
  signsFrom [] lexemes

/-! ## Breaks -/

/-- Whether a lexeme parts words wherever it stands. -/
def Lexeme.breaks : Lexeme → Bool
  | .plain c => !isWordChar c && c != '-' && c != '+'
  | _ => true

theorem not_continuesWord_of_breaks {c : Char} (breaks : (Lexeme.plain c).breaks = true)
    (letters : List Char) : continuesWord letters c = false := by
  simp only [Lexeme.breaks, Bool.and_eq_true, Bool.not_eq_true', bne_iff_ne] at breaks
  simp [continuesWord, breaks]

theorem signsFrom_of_breaks {lexeme : Lexeme} (breaks : lexeme.breaks = true)
    (letters : List Char) (rest : List Lexeme) :
    signsFrom letters (lexeme :: rest) =
      completeWord letters ++ signs [lexeme] ++ signs rest := by
  cases lexeme with
  | plain c =>
      have apart := not_continuesWord_of_breaks breaks
      simp [signs, signsFrom, apart, completeWord]
  | identifier name => simp [signs, signsFrom, completeWord]
  | string value => simp [signs, signsFrom, completeWord]

/-- A break parts the signs before it from those after it. -/
theorem signs_append_break {lexeme : Lexeme} (breaks : lexeme.breaks = true)
    (before after : List Lexeme) :
    signs (before ++ lexeme :: after) = signs before ++ signs [lexeme] ++ signs after := by
  have general (letters : List Char) : signsFrom letters (before ++ lexeme :: after) =
      signsFrom letters before ++ signs [lexeme] ++ signs after := by
    induction before generalizing letters with
    | nil => exact signsFrom_of_breaks breaks letters after
    | cons first before inductionHypothesis =>
        cases first with
        | plain c =>
            rw [List.cons_append, signsFrom, signsFrom]
            split <;> simp [inductionHypothesis]
        | identifier name => simp [signsFrom, inductionHypothesis]
        | string value => simp [signsFrom, inductionHypothesis]
  exact general []

theorem signs_cons_break {lexeme : Lexeme} (breaks : lexeme.breaks = true)
    (after : List Lexeme) : signs (lexeme :: after) = signs [lexeme] ++ signs after :=
  signs_append_break breaks [] after

/-! ## Signs of tokens -/

/-- The signs of some tokens. -/
def signsOf (tokens : List Token) : List Sign :=
  signs (tokens.flatMap Token.lexemes)

/-- Whether a text ends in a character that parts words. -/
def endsApart (text : String) : Bool :=
  text.toList.getLast?.any fun c => (Lexeme.plain c).breaks

/-- Whether a text starts and ends with characters that part words. -/
def standsApart (text : String) : Bool :=
  text.toList.head?.any (fun c => (Lexeme.plain c).breaks) && endsApart text

theorem signsOf_verbatim_cons {text : String} (apart : endsApart text = true)
    (tokens : List Token) :
    signsOf (.verbatim text :: tokens) = signsOf [.verbatim text] ++ signsOf tokens := by
  obtain ⟨last, ends, breaks⟩ := (Option.any_eq_true _ _).mp apart
  obtain ⟨front, written⟩ := List.getLast?_eq_some_iff.mp ends
  have alone : signsOf [.verbatim text] =
      signs (front.map Lexeme.plain) ++ signs [.plain last] := by
    have split := signs_append_break breaks (front.map Lexeme.plain) []
    simpa [signsOf, Token.lexemes, written, signs, signsFrom, completeWord] using split
  rw [alone, signsOf, List.flatMap_cons, Token.lexemes, written, List.map_append,
    List.append_assoc]
  exact signs_append_break breaks _ _

/-- A text that stands apart parts the signs before it from those after it. -/
theorem signsOf_append_verbatim {text : String} (apart : standsApart text = true)
    (before after : List Token) :
    signsOf (before ++ .verbatim text :: after) =
      signsOf before ++ signsOf [.verbatim text] ++ signsOf after := by
  rw [standsApart, Bool.and_eq_true] at apart
  obtain ⟨first, starts, breaks⟩ := (Option.any_eq_true _ _).mp apart.1
  obtain ⟨rest, written⟩ := List.head?_eq_some_iff.mp starts
  have lexemes : (Token.verbatim text).lexemes = .plain first :: rest.map Lexeme.plain := by
    rw [Token.lexemes, written, List.map_cons]
  have later : signsOf (.verbatim text :: after) =
      signs [.plain first] ++ signs (rest.map Lexeme.plain ++ after.flatMap Token.lexemes) := by
    rw [signsOf, List.flatMap_cons, lexemes, List.cons_append]
    exact signs_cons_break breaks _
  rw [List.append_assoc, ← signsOf_verbatim_cons apart.2, later, signsOf, List.flatMap_append,
    List.flatMap_cons, lexemes, List.cons_append, signs_append_break breaks, List.append_assoc]
  rfl

/-! ## Numbers -/

theorem isWordChar_of_isDigit {c : Char} (digit : c.isDigit = true) : isWordChar c = true := by
  simp [isWordChar, Char.isAlphanum, digit]

theorem isWordChar_of_isDecimal {c : Char} (decimal : Double.IsDecimal c) :
    isWordChar c = true := by
  rcases decimal with digit | rfl
  · exact isWordChar_of_isDigit digit
  · decide

/-- Letters and digits make one word. -/
theorem signsFrom_word {text : List Char} (each : ∀ c ∈ text, isWordChar c = true)
    (letters : List Char) (rest : List Lexeme) :
    signsFrom letters (text.map Lexeme.plain ++ rest) = signsFrom (letters ++ text) rest := by
  induction text generalizing letters with
  | nil => simp
  | cons c text inductionHypothesis =>
      rw [List.forall_mem_cons] at each
      have continues : continuesWord letters c = true := by
        simp [continuesWord, each.1]
      rw [List.map_cons, List.cons_append, signsFrom, if_pos continues,
        inductionHypothesis each.2, List.append_assoc, List.singleton_append]

theorem signs_word {text : List Char} (nonempty : text ≠ [])
    (each : ∀ c ∈ text, isWordChar c = true) :
    signs (text.map Lexeme.plain) = [.word text] := by
  have read := signsFrom_word each [] []
  rw [List.append_nil, List.nil_append] at read
  rw [signs, read, signsFrom, completeWord]
  simp [nonempty]

/-- The exponent of a number is part of its word, with its sign. -/
theorem signs_exponent {mantissa : List Char} (isMantissa : Double.IsMantissa mantissa)
    (power : Int) :
    signs ((mantissa ++ 'e' :: (Text.integerText power).toList).map Lexeme.plain) =
      [.word (mantissa ++ 'e' :: (Text.integerText power).toList)] := by
  obtain ⟨first, rest, rfl, digit, decimal⟩ := isMantissa
  have letters : ∀ c ∈ first :: rest ++ ['e'], isWordChar c = true := by
    rw [List.forall_mem_append, List.forall_mem_cons, List.forall_mem_singleton]
    have decimals := fun c listed => isWordChar_of_isDecimal (decimal c listed)
    exact ⟨⟨isWordChar_of_isDigit digit, decimals⟩, by decide⟩
  have digits : ∀ c ∈ Text.digits power.natAbs, isWordChar c = true := fun c listed =>
    isWordChar_of_isDigit (Text.isDigit_of_mem_digits listed)
  rw [Text.integerText, String.toList_ofList]
  split
  · have awaits : continuesWord (first :: rest ++ ['e']) '-' = true := by
      rw [continuesWord, awaitsExponent, List.getLast?_concat]
      simp [digit]
    have parts : (first :: rest ++ 'e' :: '-' :: Text.digits power.natAbs).map Lexeme.plain =
        (first :: rest ++ ['e']).map Lexeme.plain ++
          (.plain '-' :: ((Text.digits power.natAbs).map Lexeme.plain ++ [])) := by
      simp
    rw [parts, signs, signsFrom_word letters, List.nil_append, signsFrom, if_pos awaits,
      signsFrom_word digits]
    simp [signsFrom, completeWord]
  · refine signs_word (by simp) ?_
    rw [List.append_cons]
    exact List.forall_mem_append.mpr ⟨letters, digits⟩

theorem toUpper_of_isDigit {c : Char} (digit : c.isDigit = true) : c.toUpper = c := by
  simp only [Char.isDigit, Bool.and_eq_true, decide_eq_true_eq, ge_iff_le,
    UInt32.le_iff_toNat_le] at digit
  change 48 ≤ c.toNat ∧ c.toNat ≤ 57 at digit
  unfold Char.toUpper
  split
  next lower =>
    simp only [UInt32.le_iff_toNat_le] at lower
    change 97 ≤ c.toNat ∧ c.toNat ≤ 122 at lower
    omega
  · rfl

/-- A number is no keyword. -/
theorem not_isReserved_of_isDigit {first : Char} (digit : first.isDigit = true)
    (rest : List Char) : (Sign.word (first :: rest)).isReserved = false := by
  rw [Sign.isReserved, List.any_eq_false]
  intro keyword listed named
  have starts : keyword.toList.head? = some first := by
    rw [Sign.isKeyword, beq_iff_eq] at named
    rw [← named, List.map_cons, List.head?_cons, toUpper_of_isDigit digit]
  have letters : ∀ keyword ∈ Sign.reserved, keyword.toList.head?.any Char.isDigit = false := by
    decide
  have letter := letters keyword listed
  rw [starts] at letter
  exact Bool.false_ne_true (letter.symm.trans digit)

/-- A minus stands for itself in front of a number. -/
theorem signs_minus (text : List Char) :
    signs (('-' :: text).map Lexeme.plain) = .mark '-' :: signs (text.map Lexeme.plain) :=
  rfl

/-- An integer literal is one word that is no keyword, alone or after a minus. -/
theorem signsOf_integerText (i : Int) :
    ∃ letters, (Sign.word letters).isReserved = false ∧
      (signsOf [.verbatim (Text.integerText i)] = [.word letters] ∨
        signsOf [.verbatim (Text.integerText i)] = [.mark '-', .word letters]) := by
  obtain ⟨first, rest, written⟩ := List.exists_cons_of_ne_nil (Text.digits_ne_nil i.natAbs)
  have digits : ∀ c ∈ first :: rest, c.isDigit = true := fun c listed =>
    Text.isDigit_of_mem_digits (written ▸ listed)
  have read : signs ((first :: rest).map Lexeme.plain) = [.word (first :: rest)] :=
    signs_word (List.cons_ne_nil _ _) fun c listed => isWordChar_of_isDigit (digits c listed)
  refine ⟨first :: rest, not_isReserved_of_isDigit (digits first List.mem_cons_self) rest, ?_⟩
  rw [signsOf, List.flatMap_singleton, Token.lexemes, Text.integerText, String.toList_ofList,
    written]
  split
  · exact .inr ((signs_minus _).trans (congrArg _ read))
  · exact .inl read

/-- An unsigned number is one word that is no keyword. -/
theorem signs_magnitude (layout : Double.Layout) (significand : Nat) (exponent : Int) :
    signs ((layout.magnitude significand exponent).map Lexeme.plain) =
        [.word (layout.magnitude significand exponent)] ∧
      (Sign.word (layout.magnitude significand exponent)).isReserved = false := by
  obtain ⟨mantissa, isMantissa, plain | ⟨power, scientific⟩⟩ :=
    Double.magnitude_eq layout significand exponent
  · rw [plain]
    obtain ⟨first, rest, rfl, digit, decimal⟩ := isMantissa
    refine ⟨signs_word (List.cons_ne_nil _ _) ?_, not_isReserved_of_isDigit digit _⟩
    rw [List.forall_mem_cons]
    exact ⟨isWordChar_of_isDigit digit, fun c listed => isWordChar_of_isDecimal (decimal c listed)⟩
  · rw [scientific]
    refine ⟨signs_exponent isMantissa power, ?_⟩
    obtain ⟨first, rest, rfl, digit, -⟩ := isMantissa
    exact not_isReserved_of_isDigit digit _

/-- A floating-point literal is one word that is no keyword, alone or after a minus. -/
theorem signsOf_literalText (value : Double) :
    ∃ letters, (Sign.word letters).isReserved = false ∧
      (signsOf [.verbatim value.literalText] = [.word letters] ∨
        signsOf [.verbatim value.literalText] = [.mark '-', .word letters]) := by
  match value with
  | .nan => exact ⟨['N', 'a', 'N'], by decide, .inl (by decide)⟩
  | .infinite false => exact ⟨['i', 'n', 'f'], by decide, .inl (by decide)⟩
  | .infinite true => exact ⟨['i', 'n', 'f'], by decide, .inr (by decide)⟩
  | .finite negative significand exponent normal =>
      obtain ⟨read, free⟩ := signs_magnitude .literal significand exponent
      refine ⟨_, free, ?_⟩
      have lexemes : signsOf [.verbatim (Double.finite negative significand exponent
          normal).literalText] =
            signs ((if negative then '-' :: Double.Layout.literal.magnitude significand exponent
              else Double.Layout.literal.magnitude significand exponent).map Lexeme.plain) := by
        simp [signsOf, Token.lexemes, Double.literalText, Double.Layout.text]
      cases negative with
      | false => exact .inl (lexemes.trans read)
      | true => exact .inr (lexemes.trans ((signs_minus _).trans (congrArg _ read)))

/-! ## Parentheses -/

/-- The number of open parentheses after a character; nothing when it closes one that is not
open. -/
def nestChar (depth : Nat) (c : Char) : Option Nat :=
  if c = '(' then some (depth + 1)
  else if c = ')' then if depth = 0 then none else some (depth - 1)
  else some depth

/-- The number of open parentheses after a sign. -/
def Sign.nest (depth : Nat) : Sign → Option Nat
  | .mark c => nestChar depth c
  | _ => some depth

/-- The number of open parentheses after a lexeme. -/
def Lexeme.nest (depth : Nat) : Lexeme → Option Nat
  | .plain c => nestChar depth c
  | _ => some depth

/-- Whether every parenthesis among some signs is closed, and none that was not opened. -/
def IsBalanced (signs : List Sign) : Prop :=
  signs.foldlM Sign.nest 0 = some 0

theorem nestChar_of_ne {c : Char} (noOpening : c ≠ '(') (noClosing : c ≠ ')') (depth : Nat) :
    nestChar depth c = some depth := by
  rw [nestChar, if_neg noOpening, if_neg noClosing]

/-- Between parentheses, a character does what it would do outside them. -/
theorem nestChar_succ {depth after : Nat} {c : Char} (nested : nestChar depth c = some after) :
    nestChar (depth + 1) c = some (after + 1) := by
  by_cases opening : c = '('
  · subst opening
    cases nested
    rfl
  · by_cases closing : c = ')'
    · subst closing
      cases depth with
      | zero => cases nested
      | succ depth =>
          cases nested
          rfl
    · rw [nestChar_of_ne opening closing] at nested ⊢
      cases nested
      rfl

@[simp]
theorem foldlM_nest_completeWord (depth : Nat) (letters : List Char) :
    (completeWord letters).foldlM Sign.nest depth = some depth := by
  unfold completeWord
  split <;> rfl

@[simp]
theorem foldlM_nest_markOf (depth : Nat) (c : Char) :
    (markOf c).foldlM Sign.nest depth = nestChar depth c := by
  unfold markOf
  split
  next blank =>
    refine (nestChar_of_ne ?_ ?_ depth).symm
    all_goals
      rintro rfl
      exact absurd blank (by decide)
  · simp [List.foldlM, Sign.nest]

/-- Making words of characters keeps the parentheses. -/
@[simp]
theorem foldlM_nest_signs (lexemes : List Lexeme) (depth : Nat) :
    (signs lexemes).foldlM Sign.nest depth = lexemes.foldlM Lexeme.nest depth := by
  have general (letters : List Char) : (signsFrom letters lexemes).foldlM Sign.nest depth =
      lexemes.foldlM Lexeme.nest depth := by
    induction lexemes generalizing letters depth with
    | nil => exact foldlM_nest_completeWord depth letters
    | cons lexeme rest inductionHypothesis =>
        cases lexeme with
        | plain c =>
            rw [signsFrom, List.foldlM_cons, Lexeme.nest]
            split
            next continues =>
              have kept : nestChar depth c = some depth := by
                refine nestChar_of_ne ?_ ?_ depth
                all_goals
                  rintro rfl
                  exact absurd continues (by simp [continuesWord]; decide)
              rw [kept]
              exact inductionHypothesis depth _
            next =>
              rw [List.foldlM_append, List.foldlM_append, foldlM_nest_completeWord]
              simp only [Option.bind_eq_bind, Option.bind_some, foldlM_nest_markOf,
                inductionHypothesis]
        | identifier name =>
            rw [signsFrom, List.foldlM_append, foldlM_nest_completeWord]
            exact inductionHypothesis depth []
        | string value =>
            rw [signsFrom, List.foldlM_append, foldlM_nest_completeWord]
            exact inductionHypothesis depth []
  exact general []

end Rollup.Sql
