import Rollup.Proofs.Sql.Reading

/-!
# Sorts read back

The text of a sort is a list of items, which commas outside parentheses part.  An item is read
from its end: the keywords that place absent values, the direction, and the words of a test for
absence are taken off, and what is left is what the item sorts by.  An expression ends in none of
these words, so the items of a sort are read as they were written.
-/

namespace Rollup.Sql

/-! ## Items of a list -/

/-- The items of a list, `item` being what stands of the first before some lexemes, with a number
of open parentheses. -/
def splitItems (depth : Nat) (item : List Lexeme) : List Lexeme → Option (List (List Lexeme))
  | [] => if depth = 0 then some [item] else none
  | lexeme :: rest =>
      match lexeme.within depth with
      | some depth => splitItems depth (item ++ [lexeme]) rest
      | none => if lexeme = .plain ',' then (splitItems 0 [] rest).map (item :: ·) else none

theorem splitItems_append {lexemes : List Lexeme} {depth after : Nat}
    (within : lexemes.foldlM Lexeme.within depth = some after) (item rest : List Lexeme) :
    splitItems depth item (lexemes ++ rest) = splitItems after (item ++ lexemes) rest := by
  induction lexemes generalizing depth item with
  | nil =>
      cases within
      rw [List.append_nil, List.nil_append]
  | cons lexeme lexemes inductionHypothesis =>
      rw [List.foldlM_cons] at within
      obtain ⟨next, stepped, later⟩ := Option.bind_eq_some_iff.mp within
      rw [List.cons_append, splitItems, stepped]
      dsimp only
      rw [inductionHypothesis later, List.append_assoc, List.singleton_append]

/-- Tokens that keep together are read as the items that they are, each behind its blank. -/
theorem splitItems_joinTokens {first : List Token} {rest : List (List Token)}
    (each : ∀ tokens ∈ first :: rest, KeepTogether tokens) (before : List Lexeme) :
    splitItems 0 before ((joinTokens ", " (first :: rest)).flatMap Token.lexemes) =
      some ((before ++ first.flatMap Token.lexemes) ::
        rest.map fun tokens => .plain ' ' :: tokens.flatMap Token.lexemes) := by
  induction rest generalizing first before with
  | nil =>
      have ended := splitItems_append (each first List.mem_cons_self 0) before []
      rw [List.append_nil] at ended
      rw [joinTokens, ended]
      rfl
  | cons second rest inductionHypothesis =>
      rw [List.forall_mem_cons] at each
      have parted : splitItems 0 (before ++ first.flatMap Token.lexemes)
          (.plain ',' :: .plain ' ' :: (joinTokens ", " (second :: rest)).flatMap Token.lexemes) =
            (splitItems 0 [.plain ' ']
              ((joinTokens ", " (second :: rest)).flatMap Token.lexemes)).map
                ((before ++ first.flatMap Token.lexemes) :: ·) := rfl
      rw [joinTokens_cons_cons, List.flatMap_append, splitItems_append (each.1 0),
        List.flatMap_cons]
      refine parted.trans ?_
      rw [inductionHypothesis each.2]
      rfl

/-! ## Items of a sort -/

/-- An item of a sort: what it sorts by, whether it only tests that for absence, its direction,
and where its keywords place absent values, if it has any. -/
structure SortItem where
  operand : List Sign
  testsNull : Bool
  direction : SortDirection
  nullsFirst : Option Bool
  deriving DecidableEq

/-- What is left when some keywords are taken off some signs. -/
def takeKeywords? : List String → List Sign → Option (List Sign)
  | [], signs => some signs
  | _ :: _, [] => none
  | keyword :: keywords, sign :: signs =>
      if sign.isKeyword keyword then takeKeywords? keywords signs else none

/-- The placement that an item ends in, if any, its signs being in reverse. -/
def takePlacement (signs : List Sign) : Option Bool × List Sign :=
  match takeKeywords? ["FIRST", "NULLS"] signs with
  | some rest => (some true, rest)
  | none =>
      match takeKeywords? ["LAST", "NULLS"] signs with
      | some rest => (some false, rest)
      | none => (none, signs)

/-- The direction that an item without a placement ends in, its signs being in reverse. -/
def takeDirection? (signs : List Sign) : Option (SortDirection × List Sign) :=
  match takeKeywords? ["ASC"] signs with
  | some rest => some (.ascending, rest)
  | none => (takeKeywords? ["DESC"] signs).map fun rest => (.descending, rest)

/-- Whether an item without a direction is a test for absence, its signs being in reverse, and
what it tests. -/
def takeNullTest (signs : List Sign) : Bool × List Sign :=
  match takeKeywords? ["NULL", "IS"] signs with
  | some rest => (true, rest)
  | none => (false, signs)

/-- The item that some signs are. -/
def readSortItem (signs : List Sign) : Option SortItem :=
  let (nullsFirst, rest) := takePlacement signs.reverse
  (takeDirection? rest).map fun (direction, rest) =>
    let (testsNull, rest) := takeNullTest rest
    ⟨rest.reverse, testsNull, direction, nullsFirst⟩

/-- The items of the sort that a text is. -/
def Dialect.readSort (dialect : Dialect) (text : String) : Option (List SortItem) := do
  let lexemes ← dialect.scan text
  if lexemes.isEmpty then some []
  else (← splitItems 0 [] lexemes).mapM fun item => readSortItem (signs item)

/-- The signs of a test for absence, behind what it tests. -/
def nullTestSigns (testsNull : Bool) : List Sign :=
  if testsNull then [.word "IS".toList, .word "NULL".toList] else []

/-- The sign of a direction. -/
def directionSign (direction : SortDirection) : Sign :=
  .word (directionKeyword direction).toList

/-- The signs of a placement. -/
def placementSigns : Option Bool → List Sign
  | none => []
  | some true => [.word "NULLS".toList, .word "FIRST".toList]
  | some false => [.word "NULLS".toList, .word "LAST".toList]

/-- The signs of an item. -/
def SortItem.itemSigns (item : SortItem) : List Sign :=
  item.operand ++ nullTestSigns item.testsNull ++
    directionSign item.direction :: placementSigns item.nullsFirst

theorem takePlacement_signs (nullsFirst : Option Bool) (direction : SortDirection)
    (rest : List Sign) :
    takePlacement ((placementSigns nullsFirst).reverse ++ directionSign direction :: rest) =
      (nullsFirst, directionSign direction :: rest) := by
  rcases nullsFirst with _ | _ | _ <;> cases direction <;> rfl

@[simp]
theorem takeDirection?_sign (direction : SortDirection) (rest : List Sign) :
    takeDirection? (directionSign direction :: rest) = some (direction, rest) := by
  cases direction <;> rfl

/-- The words at the end of an item are taken off one after the other. -/
theorem readSortItem_itemSigns {item : SortItem}
    (ends : takeNullTest item.operand.reverse = (false, item.operand.reverse)) :
    readSortItem item.itemSigns = some item := by
  have reversed : item.itemSigns.reverse = (placementSigns item.nullsFirst).reverse ++
      directionSign item.direction ::
        ((nullTestSigns item.testsNull).reverse ++ item.operand.reverse) := by
    simp [SortItem.itemSigns]
  have tested : takeNullTest ((nullTestSigns item.testsNull).reverse ++ item.operand.reverse) =
      (item.testsNull, item.operand.reverse) := by
    cases item.testsNull with
    | true => rfl
    | false => exact ends
  rw [readSortItem, reversed, takePlacement_signs]
  dsimp only
  rw [takeDirection?_sign, Option.map_some]
  dsimp only
  rw [tested, List.reverse_reverse]

/-! ## Operands -/

/-- Whether a lexeme can end the operand of an item: it is no blank, and no last letter of the
word that ends a test for absence. -/
def Lexeme.endsOperand : Lexeme → Bool
  | .plain c => !Text.isBlank c && c.toUpper != 'L'
  | _ => true

/-- Whether tokens end in a lexeme that can end an operand. -/
def EndOperand (tokens : List Token) : Prop :=
  ∃ front last, tokens.flatMap Token.lexemes = front ++ [last] ∧ last.endsOperand = true

theorem EndOperand.prepend {tokens : List Token} (ends : EndOperand tokens) (before : List Token) :
    EndOperand (before ++ tokens) := by
  obtain ⟨front, last, written, ends⟩ := ends
  refine ⟨before.flatMap Token.lexemes ++ front, last, ?_, ends⟩
  rw [List.flatMap_append, written, List.append_assoc]

theorem endOperand_identifier (name : String) : EndOperand [.identifier name] :=
  ⟨[], .identifier name, rfl, rfl⟩

theorem endOperand_string (value : String) : EndOperand [.string value] :=
  ⟨[], .string value, rfl, rfl⟩

theorem endOperand_verbatim {text : String} {front : List Char} {last : Char}
    (written : text.toList = front ++ [last]) (ends : (Lexeme.plain last).endsOperand = true) :
    EndOperand [.verbatim text] := by
  refine ⟨front.map .plain, .plain last, ?_, ends⟩
  rw [List.flatMap_singleton, Token.lexemes, written, List.map_append, List.map_singleton]

/-- A text that ends in a parenthesis ends an operand. -/
theorem endOperand_closing (text : String) : EndOperand [.verbatim (text ++ ")")] :=
  endOperand_verbatim (String.toList_append) rfl

theorem endsOperand_of_isDecimal {c : Char} (decimal : Double.IsDecimal c) :
    (Lexeme.plain c).endsOperand = true := by
  rcases decimal with digit | rfl
  · have other : c ≠ 'L' := by
      rintro rfl
      cases digit
    simp [Lexeme.endsOperand, Text.not_isBlank_of_isDigit digit, toUpper_of_isDigit digit, other]
  · rfl

theorem endOperand_of_decimals {text : String} {front decimals : List Char}
    (written : text.toList = front ++ decimals) (nonempty : decimals ≠ [])
    (each : ∀ c ∈ decimals, Double.IsDecimal c) : EndOperand [.verbatim text] := by
  have last : decimals = decimals.dropLast ++ [decimals.getLast nonempty] :=
    (List.dropLast_append_getLast nonempty).symm
  rw [last, ← List.append_assoc] at written
  exact endOperand_verbatim written (endsOperand_of_isDecimal (each _ (List.getLast_mem nonempty)))

theorem exists_integerText_eq (i : Int) :
    ∃ front, (Text.integerText i).toList = front ++ Text.digits i.natAbs := by
  rw [Text.integerText, String.toList_ofList]
  split
  · exact ⟨['-'], rfl⟩
  · exact ⟨[], rfl⟩

theorem endOperand_integerText (i : Int) : EndOperand [.verbatim (Text.integerText i)] := by
  obtain ⟨front, written⟩ := exists_integerText_eq i
  exact endOperand_of_decimals written (Text.digits_ne_nil _) fun _ listed =>
    .inl (Text.isDigit_of_mem_digits listed)

/-- A number ends in a digit or a point, unless it is not finite. -/
theorem endOperand_literalText (value : Double) : EndOperand [.verbatim value.literalText] := by
  match value with
  | .nan => exact ⟨[.plain 'N', .plain 'a'], .plain 'N', rfl, rfl⟩
  | .infinite false => exact ⟨[.plain 'i', .plain 'n'], .plain 'f', rfl, rfl⟩
  | .infinite true => exact ⟨[.plain '-', .plain 'i', .plain 'n'], .plain 'f', rfl, rfl⟩
  | .finite negative significand exponent normal =>
      have written : (Double.finite negative significand exponent normal).literalText.toList =
          (if negative then ['-'] else []) ++
            Double.Layout.literal.magnitude significand exponent := by
        cases negative <;> simp [Double.literalText, Double.Layout.text]
      obtain ⟨mantissa, isMantissa, plain | ⟨power, scientific⟩⟩ :=
        Double.magnitude_eq .literal significand exponent
      · obtain ⟨first, rest, rfl, digit, decimal⟩ := isMantissa
        rw [plain] at written
        exact endOperand_of_decimals written (List.cons_ne_nil _ _)
          (List.forall_mem_cons.mpr ⟨.inl digit, decimal⟩)
      · obtain ⟨front, powerWritten⟩ := exists_integerText_eq power
        rw [scientific, powerWritten, ← List.cons_append, ← List.append_assoc,
          ← List.append_assoc] at written
        exact endOperand_of_decimals written (Text.digits_ne_nil _) fun _ listed =>
          .inl (Text.isDigit_of_mem_digits listed)

theorem Literal.endOperand_tokens (value : Literal) : EndOperand value.tokens := by
  cases value with
  | integer value => exact endOperand_integerText value
  | float value => exact endOperand_literalText value
  | text value => exact endOperand_string value
  | timestamp instant =>
      exact (endOperand_string instant.secondText).prepend [.verbatim "TIMESTAMP "]

theorem endOperand_junctionTokens {separator neutral : String} {operands : List (List Token)}
    (endsNeutral : EndOperand [.verbatim neutral])
    (each : ∀ tokens ∈ operands, EndOperand tokens) :
    EndOperand (junctionTokens separator neutral operands) := by
  match operands with
  | [] => exact endsNeutral
  | [operand] => exact each operand List.mem_cons_self
  | first :: second :: rest =>
      rw [junctionTokens_cons_cons]
      exact (endOperand_closing "").prepend _

/-- The last lexeme of an expression is no part of a test for absence. -/
theorem Expr.endOperand_tokens (expr : Expr) : EndOperand expr.tokens := by
  have listed {exprs : List Expr} (each : ∀ expr ∈ exprs, EndOperand expr.tokens) :
      ∀ operand ∈ exprs.map tokens, EndOperand operand := by
    intro operand member
    obtain ⟨expr, inside, rfl⟩ := List.mem_map.mp member
    exact each expr inside
  induction expr using Expr.induction with
  | column name => exact endOperand_identifier name
  | literal value => exact value.endOperand_tokens
  | compare left operator right _ rightEnds =>
      rw [tokens, List.append_cons]
      exact rightEnds.prepend _
  | like expr pattern escape _ patternEnds =>
      cases escape with
      | none =>
          rw [tokens, List.append_nil, List.append_cons]
          exact patternEnds.prepend _
      | some escape =>
          rw [tokens, List.append_cons _ _ [_]]
          exact (endOperand_string (String.singleton escape)).prepend _
  | all exprs each =>
      rw [tokens, tokensOfList_eq_map]
      exact endOperand_junctionTokens ⟨['T', 'R', 'U'].map .plain, .plain 'E', rfl, rfl⟩
        (listed each)
  | any exprs each =>
      rw [tokens, tokensOfList_eq_map]
      exact endOperand_junctionTokens ⟨['F', 'A', 'L', 'S'].map .plain, .plain 'E', rfl, rfl⟩
        (listed each)
  | not expr ends =>
      rw [tokens]
      split
      · exact ends.prepend [.verbatim "NOT "]
      · exact (endOperand_closing "").prepend _
  | arithmetic operator left right _ _ => exact (endOperand_closing "").prepend _
  | cast expr typeName _ => exact (endOperand_closing (" AS " ++ typeName)).prepend _
  | call function arguments _ => exact (endOperand_closing "").prepend _
  | extract field expr _ => exact (endOperand_closing "").prepend _
  | aggregate function argument _ =>
      cases argument with
      | none =>
          have closed : "*)" = "*" ++ ")" := rfl
          rw [tokens, closed, ← String.append_assoc]
          exact endOperand_closing _
      | some argument => exact (endOperand_closing "").prepend _
  | case branches otherwise _ _ =>
      have ends : EndOperand [.verbatim " END"] :=
        ⟨[' ', 'E', 'N'].map .plain, .plain 'D', rfl, rfl⟩
      cases otherwise with
      | none => exact ends.prepend _
      | some otherwise => exact ends.prepend _

/-- A word that ends in another letter is not the one that ends a test for absence. -/
theorem not_isKeyword_null {letters : List Char} {c : Char} (other : c.toUpper ≠ 'L') :
    (Sign.word (letters ++ [c])).isKeyword "NULL" = false := by
  have different : (letters ++ [c]).map Char.toUpper ≠ "NULL".toList := by
    intro same
    have lastLetter := congrArg List.getLast? same
    rw [List.map_append, List.map_singleton, List.getLast?_concat] at lastLetter
    exact other (Option.some.inj lastLetter)
  simpa [Sign.isKeyword] using different

/-- The last sign of a lexeme that can end an operand, and of the word that stands before it. -/
theorem exists_sign_of_endsOperand {last : Lexeme} (ends : last.endsOperand = true)
    (letters : List Char) :
    ∃ before sign, signsFrom letters [last] = before ++ [sign] ∧
      sign.isKeyword "NULL" = false := by
  cases last with
  | plain c =>
      simp only [Lexeme.endsOperand, Bool.and_eq_true, Bool.not_eq_true', bne_iff_ne] at ends
      rw [signsFrom]
      split
      · exact ⟨[], .word (letters ++ [c]), by simp [signsFrom, completeWord],
          not_isKeyword_null ends.2⟩
      · exact ⟨completeWord letters, .mark c, by simp [signsFrom, completeWord, markOf, ends.1],
          rfl⟩
  | identifier name => exact ⟨completeWord letters, .identifier name, rfl, rfl⟩
  | string value => exact ⟨completeWord letters, .string value, rfl, rfl⟩

/-- The last sign of lexemes that can end an operand is not the word that ends a test for
absence. -/
theorem exists_last_sign {last : Lexeme} (ends : last.endsOperand = true)
    (front : List Lexeme) (letters : List Char) :
    ∃ before sign, signsFrom letters (front ++ [last]) = before ++ [sign] ∧
      sign.isKeyword "NULL" = false := by
  induction front generalizing letters with
  | nil => exact exists_sign_of_endsOperand ends letters
  | cons lexeme front inductionHypothesis =>
      rw [List.cons_append]
      obtain ⟨before, sign, written, other⟩ := inductionHypothesis []
      cases lexeme with
      | plain c =>
          rw [signsFrom]
          split
          · exact inductionHypothesis _
          · exact ⟨completeWord letters ++ markOf c ++ before, sign, by simp [written], other⟩
      | identifier name =>
          exact ⟨completeWord letters ++ .identifier name :: before, sign,
            by simp [signsFrom, written], other⟩
      | string value =>
          exact ⟨completeWord letters ++ .string value :: before, sign,
            by simp [signsFrom, written], other⟩

/-- Nothing is taken off an expression for a test. -/
theorem takeNullTest_signsOf (expr : Expr) :
    takeNullTest (signsOf expr.tokens).reverse = (false, (signsOf expr.tokens).reverse) := by
  obtain ⟨front, last, written, ends⟩ := expr.endOperand_tokens
  obtain ⟨before, sign, read, other⟩ := exists_last_sign ends front []
  have untaken : takeKeywords? ["NULL", "IS"] (sign :: before.reverse) = none := by
    rw [takeKeywords?, other]
    rfl
  rw [signsOf, written, signs, read, List.reverse_append, List.reverse_singleton,
    List.singleton_append, takeNullTest, untaken]

/-! ## The items that a sort is written as -/

/-- The items of a sort key. -/
def SortKey.items (ordering : NullOrdering) (key : SortKey) : List SortItem :=
  let operand := signsOf key.expr.tokens
  match ordering with
  | .keyword => [⟨operand, false, key.direction, some key.nullsFirst⟩]
  | .emulated =>
      [⟨operand, true, if key.nullsFirst then .descending else .ascending, none⟩,
        ⟨operand, false, key.direction, none⟩]

/-- What a statement has behind `ORDER BY`. -/
def Dialect.sortText (dialect : Dialect) (keys : List SortKey) : String :=
  dialect.write (joinTokens ", " (keys.map (SortKey.tokens dialect.nullOrdering)))

/-- The words at the end of an item. -/
def closingWords (testsNull : Bool) (direction : SortDirection) (nullsFirst : Option Bool) :
    String :=
  (if testsNull then "IS NULL " else "") ++ directionKeyword direction ++
    match nullsFirst with
    | none => ""
    | some true => " NULLS FIRST"
    | some false => " NULLS LAST"

/-- The tokens of the items of a sort key. -/
def SortKey.itemTokens (ordering : NullOrdering) (key : SortKey) : List (List Token) :=
  (key.items ordering).map fun item => key.expr.tokens ++
    [.verbatim (" " ++ closingWords item.testsNull item.direction item.nullsFirst)]

theorem signs_closingWords (testsNull : Bool) (direction : SortDirection)
    (nullsFirst : Option Bool) :
    signs ((closingWords testsNull direction nullsFirst).toList.map Lexeme.plain) =
      nullTestSigns testsNull ++ directionSign direction :: placementSigns nullsFirst := by
  rcases nullsFirst with _ | _ | _ <;> cases direction <;> cases testsNull <;> decide

/-- A sort key is written as its items are. -/
theorem SortKey.lexemes_tokens (ordering : NullOrdering) (key : SortKey) :
    (key.tokens ordering).flatMap Token.lexemes =
      (joinTokens ", " (key.itemTokens ordering)).flatMap Token.lexemes := by
  obtain ⟨expr, direction, nullsFirst⟩ := key
  cases ordering with
  | keyword => cases nullsFirst <;> cases direction <;> rfl
  | emulated =>
      cases nullsFirst <;> cases direction <;>
        simp [tokens, itemTokens, items, joinTokens, closingWords, directionKeyword, Token.lexemes]

theorem SortKey.itemTokens_ne_nil (ordering : NullOrdering) (key : SortKey) :
    key.itemTokens ordering ≠ [] := by
  cases ordering <;> exact List.cons_ne_nil _ _

/-- A sort is written as its items are. -/
theorem lexemes_joinTokens_keys (ordering : NullOrdering) (keys : List SortKey) :
    (joinTokens ", " (keys.map (SortKey.tokens ordering))).flatMap Token.lexemes =
      (joinTokens ", " (keys.flatMap (SortKey.itemTokens ordering))).flatMap Token.lexemes := by
  induction keys with
  | nil => rfl
  | cons key rest inductionHypothesis =>
      cases rest with
      | nil =>
          rw [List.map_singleton, List.flatMap_singleton]
          exact key.lexemes_tokens ordering
      | cons next rest =>
          have nonempty : (next :: rest).flatMap (SortKey.itemTokens ordering) ≠ [] := by
            rw [List.flatMap_cons]
            exact List.append_ne_nil_of_left_ne_nil (next.itemTokens_ne_nil ordering) _
          have parted : (key :: next :: rest).flatMap (SortKey.itemTokens ordering) =
              key.itemTokens ordering ++ (next :: rest).flatMap (SortKey.itemTokens ordering) :=
            List.flatMap_cons
          rw [parted, joinTokens_append ", " (key.itemTokens_ne_nil ordering) nonempty,
            List.map_cons, List.map_cons, joinTokens_cons_cons, ← List.map_cons,
            List.flatMap_append, List.flatMap_append, List.flatMap_cons, List.flatMap_cons,
            key.lexemes_tokens, inductionHypothesis]

/-! ## Reading a sort -/

/-- An expression with the words at the end of an item is read as the item. -/
theorem readSortItem_closed (expr : Expr) (testsNull : Bool) (direction : SortDirection)
    (nullsFirst : Option Bool) :
    readSortItem (signsOf (expr.tokens ++
        [.verbatim (" " ++ closingWords testsNull direction nullsFirst)])) =
      some ⟨signsOf expr.tokens, testsNull, direction, nullsFirst⟩ := by
  have spaced : (" " ++ closingWords testsNull direction nullsFirst).toList =
      ' ' :: (closingWords testsNull direction nullsFirst).toList := String.toList_append
  have blank : Lexeme.breaks (.plain ' ') = true := rfl
  have parted : signsOf (expr.tokens ++
      [.verbatim (" " ++ closingWords testsNull direction nullsFirst)]) =
        SortItem.itemSigns ⟨signsOf expr.tokens, testsNull, direction, nullsFirst⟩ := by
    rw [signsOf, List.flatMap_append, List.flatMap_singleton, Token.lexemes, spaced,
      List.map_cons, signs_append_break blank, signs_closingWords, SortItem.itemSigns,
      List.append_assoc, List.append_assoc]
    rfl
  rw [parted]
  exact readSortItem_itemSigns (takeNullTest_signsOf expr)

theorem readSortItem_itemTokens (ordering : NullOrdering) (key : SortKey) :
    (key.itemTokens ordering).mapM (fun tokens => readSortItem (signsOf tokens)) =
      some (key.items ordering) := by
  cases ordering with
  | keyword =>
      simp only [SortKey.itemTokens, SortKey.items, List.map_singleton, List.mapM_cons,
        readSortItem_closed]
      rfl
  | emulated =>
      simp only [SortKey.itemTokens, SortKey.items, List.map_cons, List.map_nil, List.mapM_cons,
        readSortItem_closed]
      rfl

theorem readSortItem_flatMap (ordering : NullOrdering) (keys : List SortKey) :
    (keys.flatMap (SortKey.itemTokens ordering)).mapM
        (fun tokens => readSortItem (signsOf tokens)) =
      some (keys.flatMap (SortKey.items ordering)) := by
  induction keys with
  | nil => rfl
  | cons key rest inductionHypothesis =>
      rw [List.flatMap_cons, List.flatMap_cons, List.mapM_append, readSortItem_itemTokens,
        inductionHypothesis]
      rfl

theorem isBareName_closingWords (testsNull : Bool) (direction : SortDirection)
    (nullsFirst : Option Bool) :
    IsBareName (" " ++ closingWords testsNull direction nullsFirst) := by
  rcases nullsFirst with _ | _ | _ <;> cases direction <;> cases testsNull <;> decide

/-- An item is something, and keeps together. -/
theorem keepTogether_itemTokens {ordering : NullOrdering} {key : SortKey}
    (bare : key.expr.NamesAreBare) :
    ∀ tokens ∈ key.itemTokens ordering,
      KeepTogether tokens ∧ tokens.flatMap Token.lexemes ≠ [] := by
  intro tokens listed
  obtain ⟨item, _, rfl⟩ := List.mem_map.mp listed
  constructor
  · exact (Expr.keepTogether_tokens bare).append
      (keepTogether_verbatim (isBareName_closingWords _ _ _).withinText)
  · simp [Token.lexemes]

/-- The text of a sort is read as the items of its keys. -/
theorem readSort_sortText (dialect : Dialect) {keys : List SortKey}
    (bare : ∀ key ∈ keys, key.expr.NamesAreBare) :
    dialect.readSort (dialect.sortText keys) =
      some (keys.flatMap (SortKey.items dialect.nullOrdering)) := by
  have legible : dialect.Legible
      (joinTokens ", " (keys.map (SortKey.tokens dialect.nullOrdering))) := by
    apply Dialect.Legible.joinTokens (Dialect.isPlainText_of_noQuotes (by decide)) (by decide)
    intro tokens listed
    obtain ⟨key, inside, rfl⟩ := List.mem_map.mp listed
    exact key.legible_tokens _ (bare key inside).namesArePlain
  have each : ∀ tokens ∈ keys.flatMap (SortKey.itemTokens dialect.nullOrdering),
      KeepTogether tokens ∧ tokens.flatMap Token.lexemes ≠ [] := by
    intro tokens listed
    obtain ⟨key, inside, listed⟩ := List.mem_flatMap.mp listed
    exact keepTogether_itemTokens (bare key inside) tokens listed
  have read := readSortItem_flatMap dialect.nullOrdering keys
  rw [Dialect.readSort, Dialect.sortText, legible.scan_write, lexemes_joinTokens_keys]
  cases written : keys.flatMap (SortKey.itemTokens dialect.nullOrdering) with
  | nil =>
      rw [written] at read
      exact read
  | cons first rest =>
      rw [written] at read each
      have split : splitItems 0 [] ((joinTokens ", " (first :: rest)).flatMap Token.lexemes) =
          some (first.flatMap Token.lexemes ::
            rest.map fun tokens => .plain ' ' :: tokens.flatMap Token.lexemes) :=
        splitItems_joinTokens (fun tokens listed => (each tokens listed).1) []
      have nonempty :
          ((joinTokens ", " (first :: rest)).flatMap Token.lexemes).isEmpty = false := by
        have something := (each first List.mem_cons_self).2
        cases rest <;> simp_all [joinTokens]
      have unblanked : (fun item => readSortItem (signs item)) ∘
          (fun tokens : List Token => .plain ' ' :: tokens.flatMap Token.lexemes) =
            fun tokens => readSortItem (signsOf tokens) := rfl
      rw [List.mapM_cons] at read
      simp only [Option.bind_eq_bind, Option.bind_some, nonempty, split, List.mapM_cons,
        List.mapM_map, unblanked, Bool.false_eq_true, if_false]
      exact read

end Rollup.Sql
