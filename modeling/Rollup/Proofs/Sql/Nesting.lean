import Rollup.Proofs.Sql.Legible
import Rollup.Proofs.Sql.Signs

/-!
# Parentheses

An expression whose functions, types and fields have bare names closes every parenthesis
that it opens, and no other, and all its commas stand between parentheses.  So it can be an
argument of a call, as the parenthesis that closes the call is found by counting, and an item of
a list, as the comma that ends the item is found by counting.
-/

namespace Rollup.Sql

/-! ## Bare names -/

/-- Whether a name consists of letters, digits, underscores, points and spaces. -/
def IsBareName (name : String) : Prop :=
  ∀ c ∈ name.toList, isWordChar c = true ∨ c = ' '

instance (name : String) : Decidable (IsBareName name) :=
  List.decidableBAll _ _

/-- Whether every function, type and field of an expression has a bare name. -/
def Expr.NamesAreBare (expr : Expr) : Prop :=
  ∀ name ∈ expr.bareNames, IsBareName name

/-! ## Tokens that keep the nesting -/

/-- The number of open parentheses after a text. -/
def nestText (depth : Nat) (text : String) : Option Nat :=
  text.toList.foldlM nestChar depth

/-- Whether tokens close every parenthesis that they open, and no other. -/
def KeepNesting (tokens : List Token) : Prop :=
  ∀ depth, (tokens.flatMap Token.lexemes).foldlM Lexeme.nest depth = some depth

@[simp]
theorem foldlM_nest_plain (text : List Char) (depth : Nat) :
    (text.map Lexeme.plain).foldlM Lexeme.nest depth = text.foldlM nestChar depth := by
  rw [List.foldlM_map]
  rfl

theorem foldlM_nestChar_of_ne {text : List Char} (flat : ∀ c ∈ text, c ≠ '(' ∧ c ≠ ')')
    (depth : Nat) : text.foldlM nestChar depth = some depth := by
  induction text with
  | nil => rfl
  | cons c rest inductionHypothesis =>
      rw [List.forall_mem_cons] at flat
      rw [List.foldlM_cons, nestChar_of_ne flat.1.1 flat.1.2]
      exact inductionHypothesis flat.2

theorem keepNesting_nil : KeepNesting [] :=
  fun _ => rfl

theorem KeepNesting.append {first second : List Token} (left : KeepNesting first)
    (right : KeepNesting second) : KeepNesting (first ++ second) := by
  intro depth
  rw [List.flatMap_append, List.foldlM_append, left depth]
  exact right depth

theorem keepNesting_verbatim {text : String}
    (flat : ∀ depth, nestText depth text = some depth) : KeepNesting [.verbatim text] := by
  intro depth
  rw [List.flatMap_singleton, Token.lexemes, foldlM_nest_plain]
  exact flat depth

theorem KeepNesting.append_verbatim {first second : List Token} {text : String}
    (left : KeepNesting first) (flat : ∀ depth, nestText depth text = some depth)
    (right : KeepNesting second) : KeepNesting (first ++ .verbatim text :: second) :=
  left.append ((keepNesting_verbatim flat).append right)

theorem nestText_append {first second : String} {depth middle : Nat}
    (left : nestText depth first = some middle) :
    nestText depth (first ++ second) = nestText middle second := by
  rw [nestText, String.toList_append, List.foldlM_append]
  rw [nestText] at left
  rw [left]
  rfl

theorem IsBareName.nestText {name : String} (bare : IsBareName name) (depth : Nat) :
    nestText depth name = some depth := by
  refine foldlM_nestChar_of_ne (fun c listed => ⟨?_, ?_⟩) depth
  all_goals
    rintro rfl
    exact absurd (bare _ listed) (by decide)

theorem KeepNesting.joinTokens {separator : String}
    (flat : ∀ depth, nestText depth separator = some depth) {lists : List (List Token)}
    (each : ∀ tokens ∈ lists, KeepNesting tokens) :
    KeepNesting (joinTokens separator lists) := by
  induction lists with
  | nil => exact keepNesting_nil
  | cons first rest inductionHypothesis =>
      rw [List.forall_mem_cons] at each
      cases rest with
      | nil => exact each.1
      | cons second rest => exact each.1.append_verbatim flat (inductionHypothesis each.2)

/-! ## Tokens that keep together -/

/-- The number of open parentheses after a lexeme of an item in a list; nothing at the comma
that ends the item. -/
def Lexeme.within (depth : Nat) : Lexeme → Option Nat
  | .plain ',' => if depth = 0 then none else some depth
  | lexeme => lexeme.nest depth

/-- The number of open parentheses after a text in an item of a list. -/
def withinText (depth : Nat) (text : String) : Option Nat :=
  (text.toList.map Lexeme.plain).foldlM Lexeme.within depth

/-- Whether tokens keep the nesting and have commas between parentheses only. -/
def KeepTogether (tokens : List Token) : Prop :=
  ∀ depth, (tokens.flatMap Token.lexemes).foldlM Lexeme.within depth = some depth

theorem Lexeme.within_of_ne {lexeme : Lexeme} (other : lexeme ≠ .plain ',') (depth : Nat) :
    lexeme.within depth = lexeme.nest depth := by
  unfold within
  split
  · exact absurd rfl other
  · rfl

theorem Lexeme.nest_of_within {lexeme : Lexeme} {depth after : Nat}
    (within : lexeme.within depth = some after) : lexeme.nest depth = some after := by
  unfold Lexeme.within at within
  split at within
  · split at within
    · cases within
    · exact within
  · exact within

/-- Inside parentheses, commas are like any other sign. -/
theorem Lexeme.within_succ {lexeme : Lexeme} {depth after : Nat}
    (nested : lexeme.nest depth = some after) : lexeme.within (depth + 1) = some (after + 1) := by
  by_cases comma : lexeme = .plain ','
  · subst comma
    cases nested
    rfl
  · rw [within_of_ne comma]
    cases lexeme with
    | plain c => exact nestChar_succ nested
    | identifier name =>
        cases nested
        rfl
    | string value =>
        cases nested
        rfl

theorem foldlM_nest_of_within {lexemes : List Lexeme} {depth after : Nat}
    (within : lexemes.foldlM Lexeme.within depth = some after) :
    lexemes.foldlM Lexeme.nest depth = some after := by
  induction lexemes generalizing depth with
  | nil => exact within
  | cons lexeme rest inductionHypothesis =>
      rw [List.foldlM_cons] at within ⊢
      obtain ⟨next, stepped, later⟩ := Option.bind_eq_some_iff.mp within
      rw [Lexeme.nest_of_within stepped]
      exact inductionHypothesis later

theorem foldlM_within_succ {lexemes : List Lexeme} {depth after : Nat}
    (nested : lexemes.foldlM Lexeme.nest depth = some after) :
    lexemes.foldlM Lexeme.within (depth + 1) = some (after + 1) := by
  induction lexemes generalizing depth with
  | nil =>
      cases nested
      rfl
  | cons lexeme rest inductionHypothesis =>
      rw [List.foldlM_cons] at nested ⊢
      obtain ⟨next, stepped, later⟩ := Option.bind_eq_some_iff.mp nested
      rw [Lexeme.within_succ stepped]
      exact inductionHypothesis later

theorem KeepTogether.keepNesting {tokens : List Token} (together : KeepTogether tokens) :
    KeepNesting tokens :=
  fun depth => foldlM_nest_of_within (together depth)

theorem keepTogether_nil : KeepTogether [] :=
  fun _ => rfl

theorem keepTogether_identifier (name : String) : KeepTogether [.identifier name] :=
  fun _ => rfl

theorem keepTogether_string (value : String) : KeepTogether [.string value] :=
  fun _ => rfl

theorem KeepTogether.append {first second : List Token} (left : KeepTogether first)
    (right : KeepTogether second) : KeepTogether (first ++ second) := by
  intro depth
  rw [List.flatMap_append, List.foldlM_append, left depth]
  exact right depth

theorem keepTogether_verbatim {text : String}
    (flat : ∀ depth, withinText depth text = some depth) : KeepTogether [.verbatim text] := by
  intro depth
  rw [List.flatMap_singleton, Token.lexemes]
  exact flat depth

theorem KeepTogether.append_verbatim {first second : List Token} {text : String}
    (left : KeepTogether first) (flat : ∀ depth, withinText depth text = some depth)
    (right : KeepTogether second) : KeepTogether (first ++ .verbatim text :: second) :=
  left.append ((keepTogether_verbatim flat).append right)

/-- Parentheses around tokens that keep the nesting. -/
theorem KeepTogether.wrap {tokens : List Token} {opening closing : String}
    (opens : ∀ depth, withinText depth opening = some (depth + 1))
    (inner : KeepNesting tokens)
    (closes : ∀ depth, withinText (depth + 1) closing = some depth) :
    KeepTogether (.verbatim opening :: tokens ++ [.verbatim closing]) := by
  intro depth
  have opened := opens depth
  have closed := closes depth
  rw [withinText] at opened closed
  rw [List.flatMap_append, List.flatMap_cons, List.foldlM_append, List.foldlM_append,
    List.flatMap_singleton, Token.lexemes, opened, Token.lexemes]
  simp only [Option.bind_eq_bind, Option.bind_some, foldlM_within_succ (inner depth)]
  exact closed

theorem withinText_append {first second : String} {depth middle : Nat}
    (left : withinText depth first = some middle) :
    withinText depth (first ++ second) = withinText middle second := by
  rw [withinText, String.toList_append, List.map_append, List.foldlM_append]
  rw [withinText] at left
  rw [left]
  rfl

/-- A text without a comma does in an item what it does to parentheses. -/
theorem withinText_eq {text : String} (uncommaed : ',' ∉ text.toList) (depth : Nat) :
    withinText depth text = nestText depth text := by
  rw [withinText, nestText]
  generalize text.toList = characters at uncommaed
  induction characters generalizing depth with
  | nil => rfl
  | cons c rest inductionHypothesis =>
      rw [List.mem_cons, not_or] at uncommaed
      have other : Lexeme.plain c ≠ .plain ',' := by
        rintro same
        cases same
        exact uncommaed.1 rfl
      rw [List.map_cons, List.foldlM_cons, List.foldlM_cons, Lexeme.within_of_ne other]
      exact congrArg (Option.bind _) (funext fun next => inductionHypothesis next uncommaed.2)

theorem IsBareName.withinText {name : String} (bare : IsBareName name) (depth : Nat) :
    withinText depth name = some depth := by
  rw [withinText_eq fun comma => absurd (bare _ comma) (by decide)]
  exact bare.nestText depth

theorem withinText_of_numerals {text : String}
    (numerals : ∀ c ∈ text.toList, Double.IsNumeral c) (depth : Nat) :
    withinText depth text = some depth := by
  have isNoNumeral : ¬ Double.IsNumeral ',' ∧ ¬ Double.IsNumeral '(' ∧ ¬ Double.IsNumeral ')' := by
    simp [Double.IsNumeral]
  rw [withinText_eq fun comma => isNoNumeral.1 (numerals _ comma)]
  refine foldlM_nestChar_of_ne (fun c listed => ⟨?_, ?_⟩) depth
  · rintro rfl
    exact isNoNumeral.2.1 (numerals _ listed)
  · rintro rfl
    exact isNoNumeral.2.2 (numerals _ listed)

theorem KeepTogether.flatMap {α : Type} {items : List α} {tokens : α → List Token}
    (each : ∀ item ∈ items, KeepTogether (tokens item)) : KeepTogether (items.flatMap tokens) := by
  induction items with
  | nil => exact keepTogether_nil
  | cons first rest inductionHypothesis =>
      rw [List.forall_mem_cons] at each
      exact each.1.append (inductionHypothesis each.2)

/-- One operand stands alone, and several stand between parentheses. -/
theorem keepTogether_junctionTokens {separator neutral : String} {operands : List (List Token)}
    (flat : ∀ depth, nestText depth separator = some depth)
    (flatNeutral : ∀ depth, withinText depth neutral = some depth)
    (each : ∀ tokens ∈ operands, KeepTogether tokens) :
    KeepTogether (junctionTokens separator neutral operands) := by
  match operands with
  | [] => exact keepTogether_verbatim flatNeutral
  | [operand] => exact each operand List.mem_cons_self
  | first :: second :: rest =>
      rw [junctionTokens_cons_cons]
      exact .wrap (fun _ => rfl) (.joinTokens flat fun tokens listed =>
        (each tokens listed).keepNesting) (fun _ => rfl)

theorem Literal.keepTogether_tokens (value : Literal) : KeepTogether value.tokens := by
  cases value with
  | integer value =>
      exact keepTogether_verbatim (withinText_of_numerals fun _ =>
        Double.isNumeral_of_mem_integerText)
  | float value =>
      exact keepTogether_verbatim (withinText_of_numerals fun _ =>
        Double.isNumeral_of_mem_literalText)
  | text value => exact keepTogether_string value
  | timestamp instant =>
      exact (keepTogether_verbatim fun _ => rfl).append (keepTogether_string instant.secondText)

namespace Expr

theorem keepTogether_case {branches : List (Expr × Expr)} {otherwise : Option Expr}
    (each : ∀ branch ∈ branches, KeepTogether branch.1.tokens ∧ KeepTogether branch.2.tokens)
    (last : ∀ expr ∈ otherwise, KeepTogether expr.tokens) :
    KeepTogether (Expr.case branches otherwise).tokens := by
  have chosen : KeepTogether (.verbatim "CASE" :: tokensOfBranches branches) := by
    refine (keepTogether_verbatim fun _ => rfl).append ?_
    rw [tokensOfBranches_eq_flatMap]
    refine .flatMap fun branch member => ?_
    exact ((keepTogether_verbatim fun _ => rfl).append (each branch member).1).append_verbatim
      (fun _ => rfl) (each branch member).2
  cases otherwise with
  | none => exact chosen.append_verbatim (fun _ => rfl) keepTogether_nil
  | some otherwise =>
      exact (chosen.append_verbatim (fun _ => rfl) (last otherwise rfl)).append_verbatim
        (fun _ => rfl) keepTogether_nil

/-- An expression with bare names closes the parentheses that it opens, and no other, and has
commas between them only. -/
theorem keepTogether_tokens {expr : Expr} (bare : expr.NamesAreBare) :
    KeepTogether expr.tokens := by
  have listed {exprs : List Expr}
      (each : ∀ expr ∈ exprs, expr.NamesAreBare → KeepTogether expr.tokens)
      (bare : ∀ expr ∈ exprs, expr.NamesAreBare) :
      ∀ operand ∈ exprs.map tokens, KeepTogether operand := by
    intro operand member
    obtain ⟨expr, inside, rfl⟩ := List.mem_map.mp member
    exact each expr inside (bare expr inside)
  induction expr using Expr.induction with
  | column name => exact keepTogether_identifier name
  | literal value => exact value.keepTogether_tokens
  | compare left operator right leftKept rightKept =>
      obtain ⟨leftBare, rightBare⟩ := forall_bareNames_compare.mp bare
      refine (leftKept leftBare).append_verbatim ?_ (rightKept rightBare)
      cases operator <;> exact fun _ => rfl
  | like expr pattern escape exprKept patternKept =>
      obtain ⟨exprBare, patternBare⟩ := forall_bareNames_like.mp bare
      have matched : KeepTogether (expr.tokens ++ .verbatim " LIKE " :: pattern.tokens) :=
        (exprKept exprBare).append_verbatim (fun _ => rfl) (patternKept patternBare)
      cases escape with
      | none => simpa [tokens] using matched
      | some escape =>
          exact matched.append_verbatim (fun _ => rfl)
            (keepTogether_string (String.singleton escape))
  | all exprs each =>
      rw [tokens, tokensOfList_eq_map]
      exact keepTogether_junctionTokens (fun _ => rfl) (fun _ => rfl)
        (listed each (forall_bareNames_all.mp bare))
  | any exprs each =>
      rw [tokens, tokensOfList_eq_map]
      exact keepTogether_junctionTokens (fun _ => rfl) (fun _ => rfl)
        (listed each (forall_bareNames_any.mp bare))
  | not expr kept =>
      have inner := kept (forall_bareNames_not.mp bare)
      rw [tokens]
      split
      · exact (keepTogether_verbatim fun _ => rfl).append inner
      · exact .wrap (fun _ => rfl) inner.keepNesting (fun _ => rfl)
  | arithmetic operator left right leftKept rightKept =>
      obtain ⟨leftBare, rightBare⟩ := forall_bareNames_arithmetic.mp bare
      have inner : KeepTogether
          (left.tokens ++ .verbatim (" " ++ operator.sign ++ " ") :: right.tokens) := by
        refine (leftKept leftBare).append_verbatim ?_ (rightKept rightBare)
        cases operator <;> exact fun _ => rfl
      exact .wrap (fun _ => rfl) inner.keepNesting (fun _ => rfl)
  | cast expr typeName kept =>
      obtain ⟨exprBare, typeBare⟩ := forall_bareNames_cast.mp bare
      refine .wrap (fun _ => rfl) (kept exprBare).keepNesting fun depth => ?_
      have separated : withinText (depth + 1) " AS " = some (depth + 1) := rfl
      rw [String.append_assoc, withinText_append separated,
        withinText_append (typeBare.withinText _)]
      rfl
  | call function arguments each =>
      obtain ⟨argumentsBare, functionBare⟩ := forall_bareNames_call.mp bare
      rw [tokens, tokensOfList_eq_map]
      refine .wrap (fun depth => ?_) (.joinTokens (fun _ => rfl) fun operand member =>
        (listed each argumentsBare operand member).keepNesting) (fun _ => rfl)
      rw [withinText_append (functionBare.withinText _)]
      rfl
  | extract field expr kept =>
      obtain ⟨exprBare, fieldBare⟩ := forall_bareNames_extract.mp bare
      refine .wrap (fun depth => ?_) (kept exprBare).keepNesting (fun _ => rfl)
      have opened : withinText depth "EXTRACT(" = some (depth + 1) := rfl
      rw [String.append_assoc, withinText_append opened,
        withinText_append (fieldBare.withinText _)]
      rfl
  | aggregate function argument kept =>
      cases argument with
      | none =>
          cases function <;> exact keepTogether_verbatim fun _ => rfl
      | some argument =>
          have inner := kept argument rfl (forall_bareNames_aggregate.mp bare argument rfl)
          refine .wrap ?_ inner.keepNesting (fun _ => rfl)
          cases function <;> exact fun _ => rfl
  | case branches otherwise each kept =>
      obtain ⟨branchesBare, otherwiseBare⟩ := forall_bareNames_case.mp bare
      refine keepTogether_case (fun branch member => ?_) fun expr listed =>
        kept expr listed (otherwiseBare expr listed)
      obtain ⟨conditionBare, resultBare⟩ := branchesBare branch member
      exact ⟨(each branch member).1 conditionBare, (each branch member).2 resultBare⟩

/-- An expression with bare names closes the parentheses that it opens, and no other. -/
theorem keepNesting_tokens {expr : Expr} (bare : expr.NamesAreBare) :
    KeepNesting expr.tokens :=
  (keepTogether_tokens bare).keepNesting

end Expr

end Rollup.Sql
