import Rollup.Proofs.Double.Notation
import Rollup.Proofs.Sql.Lexer
import Rollup.Proofs.Sql.Tree

/-!
# Legible statements

Functions, types and fields are named without quotes.  Where none of those names opens a
quote, the tokens of an expression or of a statement are legible: numbers and keywords hold
no quotes, and two quoted tokens never meet.
-/

namespace Rollup.Sql

/-! ## Names without quotes -/

namespace Expr

/-- The function, type or field that a node names without quotes. -/
def ownBareNames : Expr → List String
  | .cast _ typeName => [typeName]
  | .call function _ => [function]
  | .extract field _ => [field]
  | _ => []

/-- The functions, types and fields that an expression names without quotes. -/
def bareNames (expr : Expr) : List String :=
  expr.collect ownBareNames

section

variable {P : String → Prop}

@[simp]
theorem forall_bareNames_compare {left right : Expr} {operator : Operator} :
    (∀ name ∈ (compare left operator right).bareNames, P name) ↔
      (∀ name ∈ left.bareNames, P name) ∧ ∀ name ∈ right.bareNames, P name := by
  rw [bareNames, forall_collect_compare]
  exact and_iff_left (List.forall_mem_nil P)

@[simp]
theorem forall_bareNames_like {expr pattern : Expr} {escape : Option Char} :
    (∀ name ∈ (like expr pattern escape).bareNames, P name) ↔
      (∀ name ∈ expr.bareNames, P name) ∧ ∀ name ∈ pattern.bareNames, P name := by
  rw [bareNames, forall_collect_like]
  exact and_iff_left (List.forall_mem_nil P)

@[simp]
theorem forall_bareNames_all {exprs : List Expr} :
    (∀ name ∈ (all exprs).bareNames, P name) ↔
      ∀ expr ∈ exprs, ∀ name ∈ expr.bareNames, P name := by
  rw [bareNames, forall_collect_all]
  exact and_iff_left (List.forall_mem_nil P)

@[simp]
theorem forall_bareNames_any {exprs : List Expr} :
    (∀ name ∈ (any exprs).bareNames, P name) ↔
      ∀ expr ∈ exprs, ∀ name ∈ expr.bareNames, P name :=
  forall_bareNames_all

@[simp]
theorem forall_bareNames_not {expr : Expr} :
    (∀ name ∈ (not expr).bareNames, P name) ↔ ∀ name ∈ expr.bareNames, P name := by
  rw [bareNames, forall_collect_not]
  exact and_iff_left (List.forall_mem_nil P)

@[simp]
theorem forall_bareNames_arithmetic {operator : ArithmeticOperator} {left right : Expr} :
    (∀ name ∈ (arithmetic operator left right).bareNames, P name) ↔
      (∀ name ∈ left.bareNames, P name) ∧ ∀ name ∈ right.bareNames, P name := by
  rw [bareNames, forall_collect_arithmetic]
  exact and_iff_left (List.forall_mem_nil P)

@[simp]
theorem forall_bareNames_cast {expr : Expr} {typeName : String} :
    (∀ name ∈ (cast expr typeName).bareNames, P name) ↔
      (∀ name ∈ expr.bareNames, P name) ∧ P typeName := by
  rw [bareNames, forall_collect_cast]
  exact and_congr_right' List.forall_mem_singleton

@[simp]
theorem forall_bareNames_call {function : String} {arguments : List Expr} :
    (∀ name ∈ (call function arguments).bareNames, P name) ↔
      (∀ argument ∈ arguments, ∀ name ∈ argument.bareNames, P name) ∧ P function := by
  rw [bareNames, forall_collect_call]
  exact and_congr_right' List.forall_mem_singleton

@[simp]
theorem forall_bareNames_extract {field : String} {expr : Expr} :
    (∀ name ∈ (extract field expr).bareNames, P name) ↔
      (∀ name ∈ expr.bareNames, P name) ∧ P field := by
  rw [bareNames, forall_collect_extract]
  exact and_congr_right' List.forall_mem_singleton

@[simp]
theorem forall_bareNames_aggregate {function : AggregateFunction} {argument : Option Expr} :
    (∀ name ∈ (aggregate function argument).bareNames, P name) ↔
      ∀ expr ∈ argument, ∀ name ∈ expr.bareNames, P name := by
  rw [bareNames, forall_collect_aggregate]
  exact and_iff_left (List.forall_mem_nil P)

@[simp]
theorem forall_bareNames_case {branches : List (Expr × Expr)} {otherwise : Option Expr} :
    (∀ name ∈ (case branches otherwise).bareNames, P name) ↔
      (∀ branch ∈ branches, (∀ name ∈ branch.1.bareNames, P name) ∧
        ∀ name ∈ branch.2.bareNames, P name) ∧
      ∀ expr ∈ otherwise, ∀ name ∈ expr.bareNames, P name := by
  rw [bareNames, forall_collect_case]
  exact and_iff_left (List.forall_mem_nil P)

end

end Expr

/-- The expression of an item of a `SELECT` list. -/
def Projection.exprs : Projection → List Expr
  | .expr value _ => [value]
  | .allOf _ => []

/-- The expressions of a statement, those of its source being given. -/
def selectExprs (source : List Expr) (projections : List Projection) (filter : Option Expr)
    (grouping : List Expr) (having : Option Expr) (order : List SortKey) : List Expr :=
  projections.flatMap Projection.exprs ++ source ++ filter.toList ++ grouping ++
    having.toList ++ order.map SortKey.expr

theorem forall_selectExprs {P : Expr → Prop} {source : List Expr} {projections : List Projection}
    {filter : Option Expr} {grouping : List Expr} {having : Option Expr} {order : List SortKey} :
    (∀ expr ∈ selectExprs source projections filter grouping having order, P expr) ↔
      (∀ projection ∈ projections, ∀ expr ∈ projection.exprs, P expr) ∧
        (∀ expr ∈ source, P expr) ∧ (∀ expr ∈ filter, P expr) ∧ (∀ expr ∈ grouping, P expr) ∧
          (∀ expr ∈ having, P expr) ∧ ∀ key ∈ order, P key.expr := by
  simp only [selectExprs, List.forall_mem_append, List.forall_mem_flatMap, List.forall_mem_map,
    Option.mem_toList, Option.mem_def, and_assoc]

/-- The expressions of a source of rows. -/
def Relation.exprs : Relation → List Expr
  | .table _ => []
  | .subquery ⟨projections, source, filter, grouping, having, order, _⟩ _ =>
      selectExprs source.exprs projections filter grouping having order
termination_by structural relation => relation

/-- The expressions of a statement and of the statements inside it. -/
def SelectFrom.exprs (select : Select) : List Expr :=
  selectExprs select.source.exprs select.projections select.filter select.grouping
    select.having select.order

/-- Whether no function, type or field of an expression opens a quote. -/
def Expr.NamesArePlain (dialect : Dialect) (expr : Expr) : Prop :=
  ∀ name ∈ expr.bareNames, dialect.IsPlainText name

instance (dialect : Dialect) (expr : Expr) : Decidable (expr.NamesArePlain dialect) :=
  inferInstanceAs (Decidable (∀ name ∈ expr.bareNames, dialect.IsPlainText name))

/-- Whether no function, type or field of a statement opens a quote. -/
def SelectFrom.NamesArePlain (dialect : Dialect) (select : Select) : Prop :=
  ∀ expr ∈ select.exprs, expr.NamesArePlain dialect

instance (dialect : Dialect) (select : Select) : Decidable (select.NamesArePlain dialect) :=
  inferInstanceAs (Decidable (∀ expr ∈ select.exprs, expr.NamesArePlain dialect))

/-! ## Texts without quotes -/

section

variable {dialect : Dialect}

theorem isPlainText_naturalText (n : Nat) : dialect.IsPlainText (Text.naturalText n) := by
  intro c listed
  rw [Text.naturalText, String.toList_ofList] at listed
  exact Dialect.isPlain_of_isDigit (Text.isDigit_of_mem_digits listed)

theorem isPlain_of_isNumeral {c : Char} (numeral : Double.IsNumeral c) : dialect.IsPlain c := by
  refine Dialect.isPlain_of_noQuote ⟨?_, ?_, ?_⟩
  all_goals
    rintro rfl
    revert numeral
    simp [Double.IsNumeral]

theorem isPlainText_integerText (i : Int) : dialect.IsPlainText (Text.integerText i) :=
  fun _ listed => isPlain_of_isNumeral (Double.isNumeral_of_mem_integerText listed)

theorem isPlainText_literalText (value : Double) : dialect.IsPlainText value.literalText :=
  fun _ listed => isPlain_of_isNumeral (Double.isNumeral_of_mem_literalText listed)

theorem isPlainText_indentation (level : Nat) : dialect.IsPlainText (indentation level) := by
  intro c listed
  rw [indentation, String.toList_ofList] at listed
  rw [List.eq_of_mem_replicate listed]
  exact Dialect.isPlain_of_noQuote (by decide)

theorem isPlainText_limitClause (limit : Nat) :
    dialect.IsPlainText (dialect.limitClause limit) := by
  unfold Dialect.limitClause
  split
  · exact ((Dialect.isPlainText_of_noQuotes (by decide)).append
      (isPlainText_naturalText limit)).append (Dialect.isPlainText_of_noQuotes (by decide))
  · exact (Dialect.isPlainText_of_noQuotes (by decide)).append (isPlainText_naturalText limit)

/-! ## Legible tokens -/

/-- Legible tokens are joined by a fixed text without quotes. -/
theorem legible_fixed {first second : List Token} {text : String}
    (left : dialect.Legible first) (right : dialect.Legible second)
    (noQuotes : text ≠ "" ∧ Dialect.hasNoQuotes text = true) :
    dialect.Legible (first ++ .verbatim text :: second) :=
  left.append_verbatim (Dialect.isPlainText_of_noQuotes noQuotes.2) noQuotes.1 right

theorem legible_junctionTokens {separator neutral : String} {operands : List (List Token)}
    (plain : dialect.IsPlainText separator) (nonempty : separator ≠ "")
    (plainNeutral : dialect.IsPlainText neutral)
    (each : ∀ tokens ∈ operands, dialect.Legible tokens) :
    dialect.Legible (junctionTokens separator neutral operands) := by
  match operands with
  | [] => exact Dialect.legible_verbatim plainNeutral
  | [operand] => exact each operand List.mem_cons_self
  | first :: second :: rest =>
      rw [junctionTokens_cons_cons]
      exact legible_fixed ((Dialect.Legible.joinTokens plain nonempty each).verbatim_cons
        (Dialect.isPlainText_of_noQuotes (by decide))) Dialect.legible_nil (by decide)

theorem Literal.legible_tokens (value : Literal) : dialect.Legible value.tokens := by
  cases value with
  | integer value => exact Dialect.legible_verbatim (isPlainText_integerText value)
  | float value => exact Dialect.legible_verbatim (isPlainText_literalText value)
  | text value => exact Dialect.legible_string value
  | timestamp instant =>
      exact (Dialect.legible_string instant.secondText).verbatim_cons
        (Dialect.isPlainText_of_noQuotes (by decide))

namespace Expr

/-- A `CASE` is read back if the conditions and results of its branches are. -/
theorem legible_case {branches : List (Expr × Expr)} {otherwise : Option Expr}
    (each : ∀ branch ∈ branches,
      dialect.Legible branch.1.tokens ∧ dialect.Legible branch.2.tokens)
    (last : ∀ expr ∈ otherwise, dialect.Legible expr.tokens) :
    dialect.Legible (Expr.case branches otherwise).tokens := by
  have keyword : dialect.IsPlainText "CASE" := Dialect.isPlainText_of_noQuotes (by decide)
  have opening : dialect.IsPlainText " WHEN " := Dialect.isPlainText_of_noQuotes (by decide)
  have chosen : dialect.Legible (.verbatim "CASE" :: tokensOfBranches branches) := by
    refine Dialect.Legible.verbatim_cons keyword ?_
    rw [tokensOfBranches_eq_flatMap]
    refine Dialect.Legible.flatMap (fun branch member => ?_) fun branch member =>
      Dialect.startsPlain_verbatim opening (by decide) _
    exact legible_fixed ((each branch member).1.verbatim_cons opening) (each branch member).2
      (by decide)
  cases otherwise with
  | none => exact legible_fixed chosen Dialect.legible_nil (by decide)
  | some otherwise =>
      exact legible_fixed (legible_fixed chosen (last otherwise rfl) (by decide))
        Dialect.legible_nil (by decide)

/-- An expression is read back if its functions, types and fields open no quote. -/
theorem legible_tokens {expr : Expr} (plain : expr.NamesArePlain dialect) :
    dialect.Legible expr.tokens := by
  have fixed {text : String} (noQuotes : Dialect.hasNoQuotes text = true) :
      dialect.IsPlainText text := Dialect.isPlainText_of_noQuotes noQuotes
  have listed {exprs : List Expr}
      (each : ∀ expr ∈ exprs, expr.NamesArePlain dialect → dialect.Legible expr.tokens)
      (plain : ∀ expr ∈ exprs, expr.NamesArePlain dialect) :
      ∀ operand ∈ exprs.map tokens, dialect.Legible operand := by
    intro operand member
    obtain ⟨expr, inside, rfl⟩ := List.mem_map.mp member
    exact each expr inside (plain expr inside)
  induction expr using Expr.induction with
  | column name => exact Dialect.legible_identifier name
  | literal value => exact value.legible_tokens
  | compare left operator right leftLegible rightLegible =>
      obtain ⟨leftPlain, rightPlain⟩ := forall_bareNames_compare.mp plain
      refine legible_fixed (leftLegible leftPlain) (rightLegible rightPlain) ?_
      cases operator <;> decide
  | like expr pattern escape exprLegible patternLegible =>
      obtain ⟨exprPlain, patternPlain⟩ := forall_bareNames_like.mp plain
      have matched : dialect.Legible (expr.tokens ++ .verbatim " LIKE " :: pattern.tokens) :=
        legible_fixed (exprLegible exprPlain) (patternLegible patternPlain) (by decide)
      cases escape with
      | none => simpa [tokens] using matched
      | some escape =>
          exact legible_fixed matched (Dialect.legible_string (String.singleton escape))
            (by decide)
  | all exprs each =>
      rw [tokens, tokensOfList_eq_map]
      exact legible_junctionTokens (fixed (by decide)) (by decide) (fixed (by decide))
        (listed each (forall_bareNames_all.mp plain))
  | any exprs each =>
      rw [tokens, tokensOfList_eq_map]
      exact legible_junctionTokens (fixed (by decide)) (by decide) (fixed (by decide))
        (listed each (forall_bareNames_any.mp plain))
  | not expr legible =>
      have inner := legible (forall_bareNames_not.mp plain)
      rw [tokens]
      split
      · exact inner.verbatim_cons (fixed (by decide))
      · exact legible_fixed (inner.verbatim_cons (fixed (by decide)))
          Dialect.legible_nil (by decide)
  | arithmetic operator left right leftLegible rightLegible =>
      obtain ⟨leftPlain, rightPlain⟩ := forall_bareNames_arithmetic.mp plain
      refine legible_fixed (legible_fixed (leftLegible leftPlain) (rightLegible rightPlain) ?_
        |>.verbatim_cons (fixed (by decide))) Dialect.legible_nil (by decide)
      cases operator <;> decide
  | cast expr typeName legible =>
      obtain ⟨exprPlain, typePlain⟩ := forall_bareNames_cast.mp plain
      have closing : dialect.IsPlainText (" AS " ++ typeName ++ ")") :=
        ((fixed (by decide)).append typePlain).append (fixed (by decide))
      exact ((legible exprPlain).verbatim_cons (fixed (by decide))).append_verbatim closing
        (by simp) Dialect.legible_nil
  | call function arguments each =>
      obtain ⟨argumentsPlain, functionPlain⟩ := forall_bareNames_call.mp plain
      rw [tokens, tokensOfList_eq_map]
      have opening : dialect.IsPlainText (function ++ "(") :=
        functionPlain.append (fixed (by decide))
      have joined : dialect.Legible (joinTokens ", " (arguments.map tokens)) :=
        Dialect.Legible.joinTokens (fixed (by decide)) (by decide) (listed each argumentsPlain)
      exact legible_fixed (joined.verbatim_cons opening) Dialect.legible_nil (by decide)
  | extract field expr legible =>
      obtain ⟨exprPlain, fieldPlain⟩ := forall_bareNames_extract.mp plain
      have opening : dialect.IsPlainText ("EXTRACT(" ++ field ++ " FROM ") :=
        ((fixed (by decide)).append fieldPlain).append (fixed (by decide))
      exact legible_fixed ((legible exprPlain).verbatim_cons opening) Dialect.legible_nil
        (by decide)
  | aggregate function argument legible =>
      have opening : dialect.IsPlainText function.opening := by
        refine fixed ?_
        cases function <;> decide
      cases argument with
      | none => exact Dialect.legible_verbatim (opening.append (fixed (by decide)))
      | some argument =>
          have inner := legible argument rfl (forall_bareNames_aggregate.mp plain argument rfl)
          exact legible_fixed (inner.verbatim_cons opening)
            Dialect.legible_nil (by decide)
  | case branches otherwise each legible =>
      obtain ⟨branchesPlain, otherwisePlain⟩ := forall_bareNames_case.mp plain
      refine legible_case (fun branch member => ?_) fun expr listed =>
        legible expr listed (otherwisePlain expr listed)
      obtain ⟨conditionPlain, resultPlain⟩ := branchesPlain branch member
      exact ⟨(each branch member).1 conditionPlain, (each branch member).2 resultPlain⟩

end Expr

theorem Projection.legible_tokens {projection : Projection}
    (plain : ∀ expr ∈ projection.exprs, expr.NamesArePlain dialect) :
    dialect.Legible projection.tokens := by
  rcases projection with ⟨value, _ | name⟩ | relation
  · exact Expr.legible_tokens (plain value List.mem_cons_self)
  · rw [tokens]
    exact legible_fixed (Expr.legible_tokens (plain value List.mem_cons_self))
      (Dialect.legible_identifier name) (by decide)
  · have joined : dialect.Legible ([.identifier relation] ++ [.verbatim ".*"]) :=
      legible_fixed (Dialect.legible_identifier relation) Dialect.legible_nil (by decide)
    exact joined

theorem SortKey.legible_tokens {key : SortKey} (ordering : NullOrdering)
    (plain : key.expr.NamesArePlain dialect) : dialect.Legible (key.tokens ordering) := by
  have legible := Expr.legible_tokens plain
  cases ordering with
  | keyword =>
      rw [tokens]
      refine legible_fixed legible Dialect.legible_nil ?_
      cases key.direction <;> cases key.nullsFirst <;> decide
  | emulated =>
      have doubled : dialect.Legible (key.expr.tokens ++
          .verbatim (if key.nullsFirst then " IS NULL DESC, " else " IS NULL ASC, ") ::
            key.expr.tokens) := by
        refine legible_fixed legible legible ?_
        cases key.nullsFirst <;> decide
      refine legible_fixed doubled Dialect.legible_nil ?_
      cases key.direction <;> decide

theorem legible_clauseTokens {keyword : String} {clause : Option Expr}
    (plainKeyword : dialect.IsPlainText keyword)
    (plain : ∀ expr ∈ clause, expr.NamesArePlain dialect) :
    dialect.Legible (clauseTokens keyword clause) := by
  cases clause with
  | none => exact Dialect.legible_nil
  | some expr =>
      exact (Expr.legible_tokens (plain expr rfl)).verbatim_cons plainKeyword

theorem startsPlain_clauseTokens {keyword : String} (clause : Option Expr)
    (plainKeyword : dialect.IsPlainText keyword) (nonempty : keyword ≠ "") :
    dialect.StartsPlain (clauseTokens keyword clause) := by
  cases clause with
  | none => exact .inl rfl
  | some expr => exact Dialect.startsPlain_verbatim plainKeyword nonempty _

theorem legible_listClauseTokens {keyword : String} {items : List (List Token)}
    (plainKeyword : dialect.IsPlainText keyword)
    (each : ∀ item ∈ items, dialect.Legible item) :
    dialect.Legible (listClauseTokens keyword items) := by
  cases items with
  | nil => exact Dialect.legible_nil
  | cons first rest =>
      exact (Dialect.Legible.joinTokens (Dialect.isPlainText_of_noQuotes (by decide)) (by decide)
        each).verbatim_cons plainKeyword

theorem startsPlain_listClauseTokens {keyword : String} (items : List (List Token))
    (plainKeyword : dialect.IsPlainText keyword) (nonempty : keyword ≠ "") :
    dialect.StartsPlain (listClauseTokens keyword items) := by
  cases items with
  | nil => exact .inl rfl
  | cons first rest => exact Dialect.startsPlain_verbatim plainKeyword nonempty _

/-- A statement is read back if its source is and its functions, types and fields open no
quote. -/
theorem legible_selectTokens (level : Nat) {source : List Token} {sourceExprs : List Expr}
    {projections : List Projection} {filter : Option Expr} {grouping : List Expr}
    {having : Option Expr} {order : List SortKey} (limit : Option Nat)
    (sourceLegible : dialect.Legible source)
    (plain : ∀ expr ∈ selectExprs sourceExprs projections filter grouping having order,
      expr.NamesArePlain dialect) :
    dialect.Legible
      (selectTokens dialect level source projections filter grouping having order limit) := by
  obtain ⟨plainProjections, -, plainFilter, plainGrouping, plainHaving, plainOrder⟩ :=
    forall_selectExprs.mp plain
  have fixed {text : String} (noQuotes : Dialect.hasNoQuotes text = true) :
      dialect.IsPlainText text := Dialect.isPlainText_of_noQuotes noQuotes
  have keyword {text : String} (plainText : dialect.IsPlainText text) :
      dialect.IsPlainText ("\n" ++ indentation level ++ text) :=
    ((fixed (by decide)).append (isPlainText_indentation level)).append plainText
  have nonempty (text : String) : "\n" ++ indentation level ++ text ≠ "" := by
    simp
  have opened : dialect.Legible (.verbatim (indentation level ++ "SELECT ") ::
      joinTokens ", " (projections.map Projection.tokens)) := by
    refine Dialect.Legible.verbatim_cons
      ((isPlainText_indentation level).append (fixed (by decide)))
      (Dialect.Legible.joinTokens (fixed (by decide)) (by decide) fun item listed => ?_)
    obtain ⟨projection, member, rfl⟩ := List.mem_map.mp listed
    exact Projection.legible_tokens (plainProjections projection member)
  have grouped : ∀ item ∈ grouping.map Expr.tokens, dialect.Legible item := by
    intro item listed
    obtain ⟨expr, member, rfl⟩ := List.mem_map.mp listed
    exact Expr.legible_tokens (plainGrouping expr member)
  have sorted : ∀ item ∈ order.map (SortKey.tokens dialect.nullOrdering),
      dialect.Legible item := by
    intro item listed
    obtain ⟨key, member, rfl⟩ := List.mem_map.mp listed
    exact SortKey.legible_tokens _ (plainOrder key member)
  have sourced := opened.append_verbatim (keyword (fixed (by decide))) (nonempty "FROM ")
    sourceLegible
  have filtered := sourced.append
    (legible_clauseTokens (keyword (fixed (by decide))) plainFilter)
    (startsPlain_clauseTokens filter (keyword (fixed (by decide))) (nonempty "WHERE "))
  have grouped := filtered.append
    (legible_listClauseTokens (keyword (fixed (by decide))) grouped)
    (startsPlain_listClauseTokens _ (keyword (fixed (by decide))) (nonempty "GROUP BY "))
  have chosen := grouped.append
    (legible_clauseTokens (keyword (fixed (by decide))) plainHaving)
    (startsPlain_clauseTokens having (keyword (fixed (by decide))) (nonempty "HAVING "))
  have ordered := chosen.append
    (legible_listClauseTokens (keyword (fixed (by decide))) sorted)
    (startsPlain_listClauseTokens _ (keyword (fixed (by decide))) (nonempty "ORDER BY "))
  cases limit with
  | none => simpa only [selectTokens, List.append_nil] using ordered
  | some limit =>
      exact ordered.append_verbatim (keyword (isPlainText_limitClause limit))
        (nonempty (dialect.limitClause limit)) Dialect.legible_nil

theorem Relation.legible_tokens (level : Nat) :
    ∀ relation : Relation, (∀ expr ∈ relation.exprs, expr.NamesArePlain dialect) →
      dialect.Legible (relation.tokens dialect level)
  | .table parts, _ => by
      refine Dialect.Legible.joinTokens (Dialect.isPlainText_of_noQuotes (by decide)) (by decide)
        fun item listed => ?_
      obtain ⟨part, _, rfl⟩ := List.mem_map.mp listed
      exact Dialect.legible_identifier part
  | .subquery ⟨projections, source, filter, grouping, having, order, limit⟩ name, plain => by
      have inside : ∀ expr ∈ source.exprs, expr.NamesArePlain dialect :=
        (forall_selectExprs.mp plain).2.1
      have inner := legible_selectTokens (level + 1) limit
        (Relation.legible_tokens (level + 1) source inside) plain
      refine (inner.verbatim_cons (Dialect.isPlainText_of_noQuotes (by decide))).append_verbatim
        ?_ (by simp) (Dialect.legible_identifier name)
      exact ((Dialect.isPlainText_of_noQuotes (by decide)).append
        (isPlainText_indentation level)).append (Dialect.isPlainText_of_noQuotes (by decide))

/-- A statement is read back if its functions, types and fields open no quote. -/
theorem SelectFrom.legible_tokens {select : Select} (plain : select.NamesArePlain dialect) :
    dialect.Legible (select.tokens dialect) := by
  have inside : ∀ expr ∈ select.source.exprs, expr.NamesArePlain dialect :=
    (forall_selectExprs.mp plain).2.1
  exact legible_selectTokens 0 select.limit (Relation.legible_tokens 0 select.source inside) plain

end

end Rollup.Sql
