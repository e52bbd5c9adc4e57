import Rollup.Proofs.Sql.Nesting
import Rollup.Proofs.Sql.Reader
import Rollup.Proofs.Sql.Value

/-!
# Conditions read back

Expressions in the form of conditions: connectives and negations over predicates that the
grammar knows.  Their text is read back as a condition of the same predicates, whatever
connectives of one operand and negations stand inside each other, and the condition that is
read has the truth value of the expression under every truth value of its predicates.
-/

namespace Rollup.Sql

/-! ## Operands -/

/-- Whether a name can be that of a function: a word that is no keyword of conditions. -/
def IsFunctionName (name : String) : Prop :=
  name ≠ "" ∧ name.toList.all isWordChar = true ∧ (Sign.word name.toList).isReserved = false

instance (name : String) : Decidable (IsFunctionName name) :=
  inferInstanceAs (Decidable (_ ∧ _ ∧ _))

/-- The expressions that stand in predicates. -/
inductive Expr.IsOperand : Expr → Prop
  | column (name : String) : IsOperand (.column name)
  | literal (value : Literal) : IsOperand (.literal value)
  | cast {expr : Expr} {typeName : String} (bare : expr.NamesAreBare)
      (bareType : IsBareName typeName) : IsOperand (.cast expr typeName)
  | call {function : String} {arguments : List Expr} (named : IsFunctionName function)
      (bare : ∀ argument ∈ arguments, argument.NamesAreBare) :
      IsOperand (.call function arguments)
  | aggregate {function : AggregateFunction} {argument : Option Expr}
      (bare : ∀ expr ∈ argument, expr.NamesAreBare) : IsOperand (.aggregate function argument)

theorem IsFunctionName.isBareName {name : String} (named : IsFunctionName name) :
    IsBareName name :=
  fun c listed => .inl (List.all_eq_true.mp named.2.1 c listed)

theorem IsBareName.isPlainText {dialect : Dialect} {name : String} (bare : IsBareName name) :
    dialect.IsPlainText name := by
  refine fun c listed => Dialect.isPlain_of_noQuote ⟨?_, ?_, ?_⟩
  all_goals
    rintro rfl
    exact absurd (bare _ listed) (by decide)

namespace Expr

/-- Bare names open no quotes. -/
theorem NamesAreBare.namesArePlain {dialect : Dialect} {expr : Expr}
    (bare : expr.NamesAreBare) : expr.NamesArePlain dialect :=
  fun name listed => (bare name listed).isPlainText

theorem IsOperand.namesAreBare {expr : Expr} (operand : expr.IsOperand) :
    expr.NamesAreBare := by
  cases operand with
  | column name => exact fun _ listed => by cases listed
  | literal value => exact fun _ listed => by cases listed
  | cast bare bareType => exact forall_bareNames_cast.mpr ⟨bare, bareType⟩
  | call named bare => exact forall_bareNames_call.mpr ⟨bare, named.isBareName⟩
  | aggregate bare => exact forall_bareNames_aggregate.mpr bare

end Expr

/-- A word in front of parentheses that hold balanced lexemes. -/
theorem signs_call {letters : List Char} {arguments : List Lexeme} (nonempty : letters ≠ [])
    (word : ∀ c ∈ letters, isWordChar c = true) :
    signs (letters.map .plain ++ .plain '(' :: (arguments ++ [.plain ')'])) =
      .word letters :: .mark '(' :: signs arguments ++ [.mark ')'] := by
  have opens : (Lexeme.plain '(').breaks = true := by decide
  have closes : (Lexeme.plain ')').breaks = true := by decide
  have opening : signs [.plain '('] = [.mark '('] := rfl
  have closing : signs [.plain ')'] = [.mark ')'] := rfl
  have nothing : signs [] = [] := rfl
  rw [signs_append_break opens, signs_append_break closes, signs_word nonempty word, opening,
    closing, nothing, List.append_nil]
  rfl

namespace Expr

/-- A call, a cast or an aggregate is written as a word and balanced parentheses after
it. -/
def IsCallOf (tokens : List Token) : Prop :=
  ∃ (letters : List Char) (arguments : List Sign),
    (Sign.word letters).isReserved = false ∧ IsBalanced arguments ∧
      signsOf tokens = .word letters :: .mark '(' :: arguments ++ [.mark ')']

theorem isCallOf_of_lexemes {tokens : List Token} {name : String} {arguments : List Lexeme}
    (named : IsFunctionName name)
    (layout : tokens.flatMap Token.lexemes =
      name.toList.map .plain ++ .plain '(' :: (arguments ++ [.plain ')']))
    (nested : arguments.foldlM Lexeme.nest 0 = some 0) : IsCallOf tokens := by
  refine ⟨name.toList, signs arguments, named.2.2, ?_, ?_⟩
  · exact (foldlM_nest_signs arguments 0).trans nested
  · rw [signsOf, layout]
    exact signs_call (fun empty => named.1 (String.toList_inj.mp empty))
      (List.all_eq_true.mp named.2.1)

theorem isCallOf_cast {expr : Expr} {typeName : String} (bare : expr.NamesAreBare)
    (bareType : IsBareName typeName) : IsCallOf (Expr.cast expr typeName).tokens := by
  have named : IsFunctionName "CAST" := by decide
  have flat : nestText 0 (" AS " ++ typeName) = some 0 := by
    have separated : nestText 0 " AS " = some 0 := rfl
    rw [nestText_append separated, bareType.nestText]
  have nested : (expr.tokens.flatMap Token.lexemes ++
      (" AS " ++ typeName).toList.map Lexeme.plain).foldlM Lexeme.nest 0 = some 0 := by
    rw [List.foldlM_append, keepNesting_tokens bare]
    exact (foldlM_nest_plain _ 0).trans flat
  refine isCallOf_of_lexemes named ?_ nested
  simp [tokens, Token.lexemes]

theorem isCallOf_call {function : String} {arguments : List Expr}
    (named : IsFunctionName function)
    (bare : ∀ argument ∈ arguments, argument.NamesAreBare) :
    IsCallOf (Expr.call function arguments).tokens := by
  have each : ∀ operand ∈ arguments.map tokens, KeepNesting operand := by
    intro operand member
    obtain ⟨argument, inside, rfl⟩ := List.mem_map.mp member
    exact keepNesting_tokens (bare argument inside)
  have flat : ∀ depth, nestText depth ", " = some depth := fun _ => rfl
  refine isCallOf_of_lexemes named ?_ (KeepNesting.joinTokens flat each 0)
  simp [tokens, Token.lexemes]

theorem isCallOf_aggregate {function : AggregateFunction} {argument : Option Expr}
    (bare : ∀ expr ∈ argument, expr.NamesAreBare) :
    IsCallOf (Expr.aggregate function argument).tokens := by
  have opening : ∃ (name : String) (lead : List Char), IsFunctionName name ∧
      function.opening.toList = name.toList ++ '(' :: lead ∧
        lead.foldlM nestChar 0 = some 0 := by
    cases function with
    | sum => exact ⟨"SUM", [], by decide, rfl, rfl⟩
    | min => exact ⟨"MIN", [], by decide, rfl, rfl⟩
    | max => exact ⟨"MAX", [], by decide, rfl, rfl⟩
    | count => exact ⟨"COUNT", [], by decide, rfl, rfl⟩
    | countDistinct => exact ⟨"COUNT", "DISTINCT ".toList, by decide, rfl, rfl⟩
  obtain ⟨name, lead, named, written, flat⟩ := opening
  cases argument with
  | none =>
      have nested : ((lead ++ ['*']).map Lexeme.plain).foldlM Lexeme.nest 0 = some 0 := by
        rw [foldlM_nest_plain, List.foldlM_append, flat]
        rfl
      refine isCallOf_of_lexemes named ?_ nested
      simp [tokens, Token.lexemes, written]
  | some argument =>
      have nested : (lead.map Lexeme.plain ++ argument.tokens.flatMap Token.lexemes).foldlM
          Lexeme.nest 0 = some 0 := by
        rw [List.foldlM_append, foldlM_nest_plain, flat]
        exact keepNesting_tokens (bare argument rfl) 0
      refine isCallOf_of_lexemes named ?_ nested
      simp [tokens, Token.lexemes, written]

/-- An operand is written as an operand. -/
theorem IsOperand.signsOf_tokens {expr : Expr} (operand : expr.IsOperand) :
    Sql.IsOperand (signsOf expr.tokens) := by
  have called {tokens : List Token} (call : IsCallOf tokens) : Sql.IsOperand (signsOf tokens) := by
    obtain ⟨letters, arguments, free, balanced, read⟩ := call
    rw [read]
    exact .call free balanced
  cases operand with
  | column name => exact .identifier name
  | literal value =>
      cases value with
      | integer value =>
          obtain ⟨letters, free, read | read⟩ := signsOf_integerText value
          · rw [tokens, Literal.tokens, read]
            exact .word free
          · rw [tokens, Literal.tokens, read]
            exact .negative free
      | float value =>
          obtain ⟨letters, free, read | read⟩ := signsOf_literalText value
          · rw [tokens, Literal.tokens, read]
            exact .word free
          · rw [tokens, Literal.tokens, read]
            exact .negative free
      | text value => exact .string value
      | timestamp instant => exact @Sql.IsOperand.timestamp (.word "TIMESTAMP".toList) rfl _
  | cast bare bareType => exact called (isCallOf_cast bare bareType)
  | call named bare => exact called (isCallOf_call named bare)
  | aggregate bare => exact called (isCallOf_aggregate bare)

/-! ## Predicates -/

/-- The signs that an expression is written in. -/
def writtenSigns (expr : Expr) : List Sign :=
  signsOf expr.tokens

/-- The expressions that are predicates of conditions. -/
inductive IsPredicate : Expr → Prop
  | compare {left right : Expr} (operator : Operator) (leftOperand : left.IsOperand)
      (rightOperand : right.IsOperand) : IsPredicate (.compare left operator right)
  | like {expr pattern : Expr} (escape : Option Char) (operand : expr.IsOperand)
      (patternOperand : pattern.IsOperand) : IsPredicate (.like expr pattern escape)
  | call {function : String} {arguments : List Expr} (named : IsFunctionName function)
      (bare : ∀ argument ∈ arguments, argument.NamesAreBare) :
      IsPredicate (.call function arguments)

theorem IsPredicate.namesAreBare {expr : Expr} (predicate : expr.IsPredicate) :
    expr.NamesAreBare := by
  cases predicate with
  | compare operator left right =>
      exact forall_bareNames_compare.mpr ⟨left.namesAreBare, right.namesAreBare⟩
  | like escape operand pattern =>
      exact forall_bareNames_like.mpr ⟨operand.namesAreBare, pattern.namesAreBare⟩
  | call named bare => exact forall_bareNames_call.mpr ⟨bare, named.isBareName⟩

/-- The sign of a comparison, with the blanks around it, is the operator of one. -/
theorem isComparison_sign (operator : Operator) :
    IsComparison (signsOf [.verbatim (" " ++ operator.sign ++ " ")]) := by
  cases operator with
  | equal => exact .mark (by decide)
  | less => exact .mark (by decide)
  | greater => exact .mark (by decide)
  | atLeast => exact .atLeast
  | regexp => exact @IsComparison.regexp (.word "REGEXP".toList) (by decide)
  | tilde => exact .mark (by decide)

/-- The keyword of a `LIKE` stands between its operands. -/
theorem signsOf_like (expr pattern : Expr) :
    signsOf (expr.tokens ++ .verbatim " LIKE " :: pattern.tokens) =
      signsOf expr.tokens ++ .word "LIKE".toList :: signsOf pattern.tokens := by
  have apart : standsApart " LIKE " = true := by decide
  have keyword : signsOf [.verbatim " LIKE "] = [.word "LIKE".toList] := by decide
  rw [signsOf_append_verbatim apart, keyword, List.append_assoc, List.singleton_append]

/-- The escape character of a `LIKE` stands behind its operands. -/
theorem signsOf_likeEscape (expr pattern : Expr) (c : Char) :
    signsOf (like expr pattern (some c)).tokens =
      signsOf expr.tokens ++ .word "LIKE".toList :: signsOf pattern.tokens ++
        [.word "ESCAPE".toList, .string (String.singleton c)] := by
  have apart : standsApart " ESCAPE " = true := by decide
  have keyword : signsOf [.verbatim " ESCAPE "] = [.word "ESCAPE".toList] := by decide
  have character : signsOf [.string (String.singleton c)] = [.string (String.singleton c)] := rfl
  rw [tokens, signsOf_append_verbatim apart, signsOf_like, keyword, character, List.append_assoc,
    List.singleton_append]

/-- A predicate is written as a predicate. -/
theorem IsPredicate.isPredicate_writtenSigns {expr : Expr} (predicate : expr.IsPredicate) :
    Sql.IsPredicate expr.writtenSigns := by
  cases predicate with
  | compare operator left right =>
      have apart : standsApart (" " ++ operator.sign ++ " ") = true := by
        cases operator <;> decide
      rw [writtenSigns, tokens, signsOf_append_verbatim apart]
      exact .compare left.signsOf_tokens (isComparison_sign operator) right.signsOf_tokens
  | @like expr pattern escape operand patternOperand =>
      cases escape with
      | none =>
          rw [writtenSigns, tokens, List.append_nil, signsOf_like]
          exact .like operand.signsOf_tokens (by decide) patternOperand.signsOf_tokens
      | some c =>
          rw [writtenSigns, signsOf_likeEscape]
          exact .likeEscape operand.signsOf_tokens (by decide) patternOperand.signsOf_tokens
            (by decide) (String.singleton c)
  | call named bare =>
      obtain ⟨letters, arguments, free, balanced, read⟩ := isCallOf_call named bare
      rw [writtenSigns, read]
      exact .call free balanced

/-! ## Conditions -/

/-- Predicates under connectives of one operand or more and negations. -/
inductive IsCondition : Expr → Prop
  | predicate {expr : Expr} (shaped : expr.IsPredicate) : IsCondition expr
  | all {exprs : List Expr} (nonempty : exprs ≠ []) (each : ∀ expr ∈ exprs, IsCondition expr) :
      IsCondition (.all exprs)
  | any {exprs : List Expr} (nonempty : exprs ≠ []) (each : ∀ expr ∈ exprs, IsCondition expr) :
      IsCondition (.any exprs)
  | not {expr : Expr} (operand : IsCondition expr) : IsCondition (.not expr)

theorem IsCondition.namesAreBare {expr : Expr} (condition : expr.IsCondition) :
    expr.NamesAreBare := by
  induction condition with
  | predicate shaped => exact shaped.namesAreBare
  | all _ _ each => exact forall_bareNames_all.mpr each
  | any _ _ each => exact forall_bareNames_any.mpr each
  | not _ operand => exact forall_bareNames_not.mpr operand

mutual

/-- The truth value of an expression under one for each of its predicates: connectives and
negations are Kleene's. -/
def truthUnder (assign : Expr → Truth) : Expr → Truth
  | .all exprs => Truth.all (truthsUnder assign exprs)
  | .any exprs => Truth.any (truthsUnder assign exprs)
  | .not expr => (truthUnder assign expr).not
  | expr => assign expr
termination_by structural expr => expr

/-- The truth values of some expressions. -/
def truthsUnder (assign : Expr → Truth) : List Expr → List Truth
  | [] => []
  | expr :: rest => truthUnder assign expr :: truthsUnder assign rest
termination_by structural exprs => exprs

end

@[simp]
theorem truthsUnder_eq_map (assign : Expr → Truth) (exprs : List Expr) :
    truthsUnder assign exprs = exprs.map (truthUnder assign) := by
  induction exprs with
  | nil => rfl
  | cons expr rest inductionHypothesis => rw [truthsUnder, inductionHypothesis, List.map_cons]

/-- In an environment, an expression has the truth value under those of its predicates. -/
theorem truth_eq_truthUnder (environment : Environment) (expr : Expr) :
    expr.truth environment = expr.truthUnder fun leaf => leaf.truth environment := by
  induction expr using Expr.induction with
  | all exprs each =>
      rw [truth_all, truthUnder, truthsUnder_eq_map]
      exact congrArg Truth.all (List.map_congr_left each)
  | any exprs each =>
      rw [truth_any, truthUnder, truthsUnder_eq_map]
      exact congrArg Truth.any (List.map_congr_left each)
  | not expr same => rw [truth_not, truthUnder, same]
  | _ => rfl

mutual

/-- An expression as a condition of its predicates.  Connectives bind to the left. -/
def asCondition : Expr → Condition Expr
  | .all exprs => Condition.chain .and (.leaf (.all exprs)) (asConditions exprs)
  | .any exprs => Condition.chain .or (.leaf (.any exprs)) (asConditions exprs)
  | .not expr => .not (asCondition expr)
  | expr => .leaf expr
termination_by structural expr => expr

/-- Some expressions as conditions. -/
def asConditions : List Expr → List (Condition Expr)
  | [] => []
  | expr :: rest => asCondition expr :: asConditions rest
termination_by structural exprs => exprs

end

@[simp]
theorem asConditions_eq_map (exprs : List Expr) :
    asConditions exprs = exprs.map asCondition := by
  induction exprs with
  | nil => rfl
  | cons expr rest inductionHypothesis => rw [asConditions, inductionHypothesis, List.map_cons]

theorem IsPredicate.asCondition_eq {expr : Expr} (predicate : expr.IsPredicate) :
    expr.asCondition = .leaf expr := by
  cases predicate <;> rfl

theorem IsPredicate.truthUnder_eq {expr : Expr} (predicate : expr.IsPredicate)
    (assign : Expr → Truth) : expr.truthUnder assign = assign expr := by
  cases predicate <;> rfl

/-- A condition has the truth value of its expression. -/
theorem IsCondition.truth_asCondition {expr : Expr} (condition : expr.IsCondition)
    (assign : Expr → Truth) : expr.asCondition.truth assign = expr.truthUnder assign := by
  induction condition with
  | predicate shaped => rw [shaped.asCondition_eq, shaped.truthUnder_eq, Condition.truth]
  | @all exprs nonempty _ same =>
      rw [asCondition, truthUnder, asConditions_eq_map, truthsUnder_eq_map,
        Condition.truth_chain (fun _ _ => rfl) Truth.and_assoc Truth.and_true
          (by simpa using nonempty), List.map_map]
      exact congrArg Truth.all (List.map_congr_left same)
  | @any exprs nonempty _ same =>
      rw [asCondition, truthUnder, asConditions_eq_map, truthsUnder_eq_map,
        Condition.truth_chain (fun _ _ => rfl) Truth.or_assoc Truth.or_false
          (by simpa using nonempty), List.map_map]
      exact congrArg Truth.any (List.map_congr_left same)
  | not _ same => rw [asCondition, truthUnder, Condition.truth, same]

/-! ## Reading -/

/-- The condition that the signs of an expression are read as. -/
def readCondition (expr : Expr) : Condition (List Sign) :=
  expr.asCondition.map writtenSigns

/-- Tokens in parentheses that a text opens. -/
theorem signsOf_parentheses {opening : String} {before : List Sign}
    (apart : endsApart opening = true)
    (opens : signsOf [.verbatim opening] = before ++ [.mark '(']) (tokens : List Token) :
    signsOf (.verbatim opening :: tokens ++ [.verbatim ")"]) =
      before ++ (.mark '(' :: signsOf tokens ++ [.mark ')']) := by
  have closing : standsApart ")" = true := by decide
  have closes : signsOf [.verbatim ")"] = [.mark ')'] := by decide
  have nothing : signsOf [] = [] := rfl
  rw [List.cons_append, signsOf_verbatim_cons apart, signsOf_append_verbatim closing, opens, closes,
    nothing]
  simp

/-- Operands with a keyword between them: the first one, and the keyword before each of the
others. -/
theorem signsOf_joinTokens {separator : String} {keyword : Sign}
    (apart : standsApart separator = true) (named : signsOf [.verbatim separator] = [keyword])
    (first : Expr) (rest : List Expr) :
    signsOf (joinTokens separator ((first :: rest).map tokens)) =
      first.writtenSigns ++ rest.flatMap fun expr => keyword :: expr.writtenSigns := by
  induction rest generalizing first with
  | nil => simp [joinTokens, writtenSigns]
  | cons second rest inductionHypothesis =>
      have later := inductionHypothesis second
      rw [List.map_cons] at later
      rw [List.map_cons, List.map_cons, joinTokens_cons_cons, signsOf_append_verbatim apart, named,
        later]
      simp [writtenSigns]

section

variable {binding : Binding} {keyword : Sign}
  {connect : Condition (List Sign) → Condition (List Sign) → Condition (List Sign)}

/-- Conditions with a keyword between them are read from the left. -/
theorem reads_chain
    (joins : ∀ {left right first second}, Reads binding left first → Reads .negation right second →
      Reads binding (left ++ keyword :: right) (connect first second))
    {signs : List Sign} {condition : Condition (List Sign)}
    (read : Reads binding signs condition) {rest : List Expr}
    (each : ∀ expr ∈ rest, Reads .negation expr.writtenSigns expr.readCondition) :
    Reads binding (signs ++ rest.flatMap fun expr => keyword :: expr.writtenSigns)
      ((rest.map readCondition).foldl connect condition) := by
  induction rest generalizing signs condition with
  | nil => simpa using read
  | cons second rest inductionHypothesis =>
      rw [List.forall_mem_cons] at each
      have longer := inductionHypothesis (joins read each.1) each.2
      rw [List.map_cons, List.foldl_cons]
      simpa using longer

/-- A connective whose operands are read as conditions is read as the chain of them: one
operand stands alone, and more stand in parentheses. -/
theorem reads_junctionTokens {separator : String}
    (apart : standsApart separator = true) (named : signsOf [.verbatim separator] = [keyword])
    (starts : ∀ {signs condition}, Reads .negation signs condition → Reads binding signs condition)
    (joins : ∀ {left right first second}, Reads binding left first → Reads .negation right second →
      Reads binding (left ++ keyword :: right) (connect first second))
    (ends : ∀ {signs condition}, Reads binding signs condition →
      Reads .disjunction signs condition)
    {exprs : List Expr} (nonempty : exprs ≠ [])
    (each : ∀ expr ∈ exprs, Reads .negation expr.writtenSigns expr.readCondition)
    (word : String) (neutral : Condition (List Sign)) :
    Reads .negation (signsOf (junctionTokens separator word (exprs.map tokens)))
      (Condition.chain connect neutral (exprs.map readCondition)) := by
  match exprs with
  | [only] => exact each only List.mem_cons_self
  | first :: second :: rest =>
      rw [List.forall_mem_cons] at each
      have chained := reads_chain joins (starts each.1) each.2
      rw [← signsOf_joinTokens apart named] at chained
      have opens : signsOf [.verbatim "("] = [] ++ [.mark '('] := by decide
      rw [List.map_cons, List.map_cons, junctionTokens_cons_cons,
        signsOf_parentheses (by decide) opens]
      exact .group (ends chained)

end

/-- What an expression that is a condition is read as: the condition of its predicates. -/
theorem IsCondition.reads {expr : Expr} (condition : expr.IsCondition) :
    Reads .negation expr.writtenSigns expr.readCondition := by
  induction condition with
  | predicate shaped =>
      rw [readCondition, shaped.asCondition_eq]
      exact .predicate shaped.isPredicate_writtenSigns
  | @all exprs nonempty _ each =>
      have chained := reads_junctionTokens (by decide)
        (show signsOf [.verbatim " AND "] = [.word "AND".toList] by decide) .conjunct
        (fun left right => .and left (by decide) right) .disjunct nonempty each "TRUE"
        (.leaf (writtenSigns (.all exprs)))
      rw [writtenSigns, tokens, tokensOfList_eq_map, readCondition, asCondition,
        Condition.map_chain fun _ _ => rfl, asConditions_eq_map, List.map_map]
      exact chained
  | @any exprs nonempty _ each =>
      have chained := reads_junctionTokens (by decide)
        (show signsOf [.verbatim " OR "] = [.word "OR".toList] by decide)
        (fun read => .disjunct (.conjunct read))
        (fun left right => .or left (by decide) (.conjunct right)) id nonempty each "FALSE"
        (.leaf (writtenSigns (.any exprs)))
      rw [writtenSigns, tokens, tokensOfList_eq_map, readCondition, asCondition,
        Condition.map_chain fun _ _ => rfl, asConditions_eq_map, List.map_map]
      exact chained
  | @not expr _ operand =>
      have negation : (Sign.word "NOT".toList).isKeyword "NOT" = true := by decide
      rw [writtenSigns, tokens]
      split
      · have apart : endsApart "NOT " = true := by decide
        have keyword : signsOf [.verbatim "NOT "] = [.word "NOT".toList] := by decide
        rw [signsOf_verbatim_cons apart, keyword]
        exact .not negation operand
      · have opens : signsOf [.verbatim "NOT ("] = [.word "NOT".toList] ++ [.mark '('] := by decide
        rw [signsOf_parentheses (by decide) opens]
        exact .not negation (.group (.disjunct (.conjunct operand)))

end Expr

/-- Whether a text is read as a condition in a dialect. -/
def Dialect.ReadsAs (dialect : Dialect) (sql : String) (condition : Condition (List Sign)) :
    Prop :=
  ∃ lexemes, dialect.scan sql = some lexemes ∧ Reads .disjunction (signs lexemes) condition

/-- The text of an expression that is a condition is read as the condition of its
predicates, and as no other. -/
theorem Expr.IsCondition.readsAs_render_iff {expr : Expr} (condition : expr.IsCondition)
    (dialect : Dialect) (read : Condition (List Sign)) :
    dialect.ReadsAs (expr.render dialect) read ↔ read = expr.readCondition := by
  have scanned : dialect.scan (expr.render dialect) =
      some (expr.tokens.flatMap Token.lexemes) :=
    (Expr.legible_tokens condition.namesAreBare.namesArePlain).scan_write
  have reads : Reads .disjunction (signs (expr.tokens.flatMap Token.lexemes))
      expr.readCondition :=
    .disjunct (.conjunct condition.reads)
  constructor
  · rintro ⟨lexemes, same, other⟩
    rw [scanned] at same
    cases same
    exact other.unique reads
  · rintro rfl
    exact ⟨_, scanned, reads⟩

/-- The text of an expression that is a condition has one reading, which has the truth value of
the expression whatever truth values its predicates have. -/
theorem Expr.IsCondition.exists_reading {expr : Expr} (condition : expr.IsCondition)
    (dialect : Dialect) :
    ∃ reading : Condition Expr,
      (∀ read, dialect.ReadsAs (expr.render dialect) read ↔
        read = reading.map Expr.writtenSigns) ∧
      ∀ assign : Expr → Truth, reading.truth assign = expr.truthUnder assign :=
  ⟨expr.asCondition, condition.readsAs_render_iff dialect, condition.truth_asCondition⟩

end Rollup.Sql
