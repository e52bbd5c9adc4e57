import Rollup.Proofs.Plan.Conditions
import Rollup.Proofs.Sql.Pattern

/-!
# Searches read from their text

The conditions that look for a text in a column, read from the text that a database gets: the
dialect takes the quotes off, and what is left is read for the truth of the search in a row.
`LIKE` compares with a pattern and its escape character, and `instr` gives a position.  In every
dialect and for every text searched for, whatever signs of patterns, quotes and backslashes it
has, the search finds exactly the texts that hold it.
-/

namespace Rollup.Sql

section

variable (lower : Char → Char) (held : String → Option String)

/-! ## Reading a search -/

/-- Whether a sign names a type of texts. -/
def Sign.isTextType (sign : Sign) : Bool :=
  sign.isKeyword "TEXT" || sign.isKeyword "VARCHAR"

/-- The text of an operand, and the signs behind it.  A column has the text that the row holds, a
string its payload, `LOWER` the text of its operand in lower case, and a cast to a type of texts
the text of its operand. -/
def operandText? : List Sign → Option (String × List Sign)
  | .identifier name :: behind => (held name).map fun text => (text, behind)
  | .string payload :: behind => some (payload, behind)
  | .word letters :: .mark '(' :: operand =>
      match operandText? operand with
      | some (text, .mark ')' :: behind) =>
          if (Sign.word letters).isKeyword "LOWER" then some (text.map lower, behind) else none
      | some (text, keyword :: typeName :: .mark ')' :: behind) =>
          if (Sign.word letters).isKeyword "CAST" && keyword.isKeyword "AS" && typeName.isTextType
          then some (text, behind)
          else none
      | _ => none
  | _ => none

/-- The truth of a `LIKE` with an escape character. -/
def likeTruth? (signs : List Sign) : Option Bool :=
  match operandText? lower held signs with
  | some (text, keyword :: right) =>
      match operandText? lower held right with
      | some (pattern, [escape, .string character]) =>
          match character.toList with
          | [c] =>
              if keyword.isKeyword "LIKE" && escape.isKeyword "ESCAPE" then
                like? (some c) text.toList pattern.toList
              else none
          | _ => none
      | _ => none
  | _ => none

/-- The truth of a position being greater than zero. -/
def positionTruth? : List Sign → Option Bool
  | .word letters :: .mark '(' :: arguments =>
      match operandText? lower held arguments with
      | some (text, .mark ',' :: second) =>
          match operandText? lower held second with
          | some (needle, [.mark ')', .mark '>', .word ['0']]) =>
              if (Sign.word letters).isKeyword "INSTR" then
                some (decide (0 < position needle.toList text.toList))
              else none
          | _ => none
      | _ => none
  | _ => none

/-- The truth of a search in a row, as a dialect reads its text. -/
def Dialect.searchTruth? (dialect : Dialect) (sql : String) : Option Bool :=
  (dialect.scan sql).bind fun lexemes =>
    (likeTruth? lower held (signs lexemes)).or (positionTruth? lower held (signs lexemes))

/-! ## Operands -/

/-- Whether signs are an operand of a text, whatever stands behind them. -/
def Denotes (signs : List Sign) (text : String) : Prop :=
  ∀ behind, operandText? lower held (signs ++ behind) = some (text, behind)

variable {lower held}

theorem denotes_column {name text : String} (holds : held name = some text) :
    Denotes lower held (signsOf (Expr.column name).tokens) text := by
  intro behind
  change (held name).map (fun text => (text, behind)) = _
  rw [holds, Option.map_some]

theorem denotes_text (text : String) :
    Denotes lower held (signsOf (Expr.text text).tokens) text :=
  fun _ => rfl

variable {expr : Expr} {text : String} (operand : Denotes lower held (signsOf expr.tokens) text)
include operand

theorem denotes_lower :
    Denotes lower held (signsOf (Expr.lower expr).tokens) (text.map lower) := by
  intro behind
  have opens : signsOf [.verbatim "LOWER("] = [.word "LOWER".toList] ++ [.mark '('] := by decide
  have written : signsOf (Expr.lower expr).tokens =
      .word "LOWER".toList :: .mark '(' :: (signsOf expr.tokens ++ [.mark ')']) :=
    Expr.signsOf_parentheses (by decide) opens expr.tokens
  have inner := operand (.mark ')' :: behind)
  rw [written]
  simp only [List.cons_append, List.append_assoc, List.nil_append, operandText?, inner]
  rfl

/-- A cast to a type of texts, in the middle of which stands its operand. -/
theorem denotes_cast {typeName : String} (textual : typeName = "TEXT" ∨ typeName = "VARCHAR") :
    Denotes lower held (signsOf (Expr.cast expr typeName).tokens) text := by
  intro behind
  have opens : signsOf [.verbatim "CAST("] = [.word "CAST".toList, .mark '('] := by decide
  have closes : ∃ named, (Sign.word named).isTextType = true ∧
      signsOf [.verbatim (" AS " ++ typeName ++ ")")] =
        [.word "AS".toList, .word named, .mark ')'] ∧
      standsApart (" AS " ++ typeName ++ ")") = true := by
    rcases textual with rfl | rfl
    · exact ⟨"TEXT".toList, by decide, by decide, by decide⟩
    · exact ⟨"VARCHAR".toList, by decide, by decide, by decide⟩
  obtain ⟨named, isType, ends, apart⟩ := closes
  have written : signsOf (Expr.cast expr typeName).tokens =
      .word "CAST".toList :: .mark '(' ::
        (signsOf expr.tokens ++ [.word "AS".toList, .word named, .mark ')']) := by
    have nothing : signsOf [] = [] := rfl
    rw [Expr.tokens, List.cons_append, signsOf_verbatim_cons (by decide), opens,
      signsOf_append_verbatim apart, ends, nothing, List.append_nil]
    rfl
  have inner := operand (.word "AS".toList :: .word named :: .mark ')' :: behind)
  rw [written]
  simp only [List.cons_append, List.append_assoc, List.nil_append, operandText?, inner, isType]
  rfl

omit operand in
theorem denotes_searchOperand (dialect : Dialect) {column : String}
    (holds : held column = some text) :
    Denotes lower held (signsOf (dialect.searchOperand (.column column)).tokens) text := by
  have plain : Denotes lower held _ text := denotes_column holds
  cases dialect with
  | ansi => exact plain
  | mysql => exact plain
  | postgres => exact denotes_cast plain (.inl rfl)
  | sqlite => exact denotes_cast plain (.inl rfl)
  | presto format => exact denotes_cast plain (.inr rfl)

/-! ## Searches -/

/-- A `LIKE` compares the text of its operand with that of the pattern. -/
theorem likeTruth?_eq {pattern : Expr} {written : String}
    (denotes : Denotes lower held (signsOf pattern.tokens) written) (escape : Char) :
    likeTruth? lower held (signsOf (Expr.like expr pattern (some escape)).tokens) =
      like? (some escape) text.toList written.toList := by
  rw [Expr.signsOf_likeEscape, List.append_assoc, likeTruth?, operand]
  simp only [List.cons_append]
  rw [denotes]
  simp only [String.toList_singleton]
  rfl

omit operand in
/-- A search by position is written as a call with the operand and the text searched for. -/
theorem signsOf_instr (needle : String) :
    signsOf (Expr.compare (.call "instr" [expr, .text needle]) .greater (.integer 0)).tokens =
      .word "instr".toList :: .mark '(' :: (signsOf expr.tokens ++
        [.mark ',', .string needle, .mark ')', .mark '>', .word ['0']]) := by
  have comma : signsOf [.verbatim ", "] = [.mark ','] := by decide
  have opens : signsOf [.verbatim "instr("] = [.word "instr".toList] ++ [.mark '('] := by decide
  have greater : signsOf [.verbatim " > "] = [.mark '>'] := by decide
  have zero : signsOf (Expr.integer 0).tokens = [.word ['0']] := by decide
  have payload : signsOf (Expr.text needle).tokens = [.string needle] := rfl
  have arguments : signsOf (joinTokens ", " [expr.tokens, (Expr.text needle).tokens]) =
      signsOf expr.tokens ++ [.mark ',', .string needle] := by
    rw [joinTokens_cons_cons, signsOf_append_verbatim (by decide), comma, joinTokens, payload,
      List.append_assoc, List.singleton_append]
  have call : signsOf (Expr.call "instr" [expr, .text needle]).tokens =
      [.word "instr".toList] ++ (.mark '(' ::
        (signsOf expr.tokens ++ [.mark ',', .string needle]) ++ [.mark ')']) := by
    rw [← arguments]
    exact Expr.signsOf_parentheses (by decide) opens _
  have written : signsOf (Expr.compare (.call "instr" [expr, .text needle]) .greater
      (.integer 0)).tokens =
        signsOf (Expr.call "instr" [expr, .text needle]).tokens ++ [.mark '>'] ++
          [.word ['0']] := by
    rw [← greater, ← zero]
    exact signsOf_append_verbatim (by decide) _ _
  rw [written, call]
  simp

/-- A search by position is true of a text that occurs. -/
theorem positionTruth?_eq (needle : String) :
    positionTruth? lower held (signsOf (Expr.compare (.call "instr" [expr, .text needle]) .greater
        (.integer 0)).tokens) =
      some (decide (needle.toList <:+: text.toList)) := by
  rw [signsOf_instr, positionTruth?, operand]
  exact congrArg some (decide_eq_decide.mpr (position_pos_iff needle.toList text.toList))

/-- A search by position is no `LIKE`: a comma and a string stand where a cast has its type. -/
theorem likeTruth?_instr (needle : String) :
    likeTruth? lower held (signsOf (Expr.compare (.call "instr" [expr, .text needle]) .greater
        (.integer 0)).tokens) = none := by
  rw [signsOf_instr, likeTruth?, operandText?, operand]
  rfl

end

/-! ## Searches of a dialect -/

namespace Dialect

variable (dialect : Dialect) {lower : Char → Char} {held : String → Option String}

/-- The text of a predicate is read as its signs. -/
theorem searchTruth?_render {expr : Expr} (predicate : expr.IsPredicate) :
    dialect.searchTruth? lower held (expr.render dialect) =
      (likeTruth? lower held (signsOf expr.tokens)).or
        (positionTruth? lower held (signsOf expr.tokens)) := by
  have scanned : dialect.scan (expr.render dialect) =
      some (expr.tokens.flatMap Token.lexemes) :=
    (Expr.legible_tokens predicate.namesAreBare.namesArePlain).scan_write
  rw [searchTruth?, scanned, Option.bind_some]
  rfl

/-- In every dialect, a search for a text in a column is true of exactly the texts that hold it,
and a search that tells upper and lower case not apart is true of exactly those that hold it once
both are in lower case, as long as lower case leaves the signs of patterns alone.  The truth is
that of the text that the database gets, with the quotes taken off as the dialect does. -/
theorem searches_find_substrings (column needle text : String) :
    let held (name : String) : Option String := if name = column then some text else none
    (∀ lower, dialect.searchTruth? lower held
        ((dialect.contains (.column column) needle).render dialect) =
          some (decide (needle.toList <:+: text.toList))) ∧
      ∀ lower, KeepsPatternSigns lower →
        dialect.searchTruth? lower held
          ((dialect.containsInsensitive (.column column) needle).render dialect) =
            some (decide ((needle.map lower).toList <:+: (text.map lower).toList)) := by
  intro held
  have holds : held column = some text := if_pos rfl
  constructor
  · intro lower
    have operand : Denotes lower held _ text := denotes_searchOperand dialect holds
    rw [dialect.searchTruth?_render (dialect.isPredicate_contains column needle)]
    unfold contains
    split
    · rw [likeTruth?_instr operand, positionTruth?_eq operand]
      rfl
    · rw [likeTruth?_eq operand (denotes_text _), like?_containsPattern]
      rfl
  · intro lower keeps
    have operand : Denotes lower held _ text := denotes_searchOperand dialect holds
    rw [dialect.searchTruth?_render (dialect.isPredicate_containsInsensitive column needle),
      containsInsensitive,
      likeTruth?_eq (denotes_lower operand) (denotes_lower (denotes_text _)),
      keeps.map_containsPattern, like?_containsPattern]
    rfl

/-- Signs of patterns, a quote and a backslash are found as they are, and the letter behind them in
lower case only. -/
theorem searches_find_substrings_of_hostile_needle :
    let dialect := Dialect.mysql
    let needle := "5%_!'\\A"
    let text := "up to 5%_!'\\a off"
    let held (name : String) : Option String := if name = "note" then some text else none
    KeepsPatternSigns Char.toLower ∧
      (dialect.contains (.column "note") needle).render dialect =
        "\x60note\x60 LIKE '%5!%!_!!''\\\\A%' ESCAPE '!'" ∧
      dialect.searchTruth? Char.toLower held
        ((dialect.contains (.column "note") needle).render dialect) = some false ∧
      dialect.searchTruth? Char.toLower held
        ((dialect.containsInsensitive (.column "note") needle).render dialect) = some true := by
  intro dialect needle text held
  have apart : decide (needle.toList <:+: text.toList) = false := by decide +kernel
  have inside : decide ((needle.map Char.toLower).toList <:+: (text.map Char.toLower).toList) =
      true := by decide +kernel
  obtain ⟨exact, insensitive⟩ := dialect.searches_find_substrings "note" needle text
  refine ⟨keepsPatternSigns_toLower, by decide +kernel, ?_, ?_⟩
  · exact (exact Char.toLower).trans (congrArg some apart)
  · exact (insensitive Char.toLower keepsPatternSigns_toLower).trans (congrArg some inside)

end Dialect

end Rollup.Sql
