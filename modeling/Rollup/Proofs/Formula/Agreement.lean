import Rollup.Proofs.Formula.Checked
import Rollup.Proofs.Sql.Arithmetic

/-!
# The two ways of computing post-aggregations

The engine's expression of a checked post-aggregation and its value computed from the row
are the same number, or are both absent.  Arithmetic is exact on both sides: the value is
computed over rationals, by the functions that compute it over doubles.

The expression folds sums, differences and products from the first operand and stops at
`NULL` on the way; the computation first looks for an absent operand and then folds sums
from zero and products from one.  A quotient is a `CASE` on one side and three cases of
present and absent operands on the other.
-/

namespace Rollup

open Sql

/-! ## Expressions and results -/

namespace PostAggregation

/-- An expression and a computed result are both absent or the same number. -/
def Agree (environment : Environment) (expr : Expr) (result : Option (Number ℚ)) : Prop :=
  Option.Rel Value.Denotes (expr.value environment) result

variable {environment : Environment}

theorem agree_literal (number : Number) :
    Agree environment (literal number) (Number.ofConstant? number) := by
  cases number with
  | integer value => exact .some rfl
  | float value =>
      change Option.Rel Value.Denotes (value.rational?.map .real) (value.rational?.map .float)
      cases value.rational? with
      | none => exact .none
      | some exact => exact .some rfl

/-! ## Operations -/

/-- An operation other than a quotient keeps agreement, an absent operand making both
results absent. -/
theorem Agree.arithmetic {operator : ArithmeticOperator} (noQuotient : operator ≠ .divide)
    {left right : Expr} {first second : Option (Number ℚ)}
    (leftAgrees : Agree environment left first) (rightAgrees : Agree environment right second) :
    Agree environment (.arithmetic operator left right)
      (first.bind fun a => second.map fun b => Number.arithmetic.operation operator a b) := by
  unfold Agree at leftAgrees rightAgrees ⊢
  rw [Expr.value]
  generalize left.value environment = leftValue at leftAgrees ⊢
  generalize right.value environment = rightValue at rightAgrees ⊢
  cases leftAgrees with
  | none => exact .none
  | some leftNumber =>
      cases rightAgrees with
      | none => exact .none
      | some rightNumber =>
          obtain ⟨value, found, isNumber⟩ :=
            environment.engine.operate_number? noQuotient leftNumber rightNumber
          rw [Option.bind_some, Option.bind_some, found]
          refine .some ?_
          rw [Value.Denotes, isNumber, Number.floating_operation]

/-- A fold of expressions stops at `NULL` on the way; the fold of results looks for an
absent one first. -/
theorem Agree.foldl {operator : ArithmeticOperator} (noQuotient : operator ≠ .divide)
    {exprs : List Expr} {results : List (Option (Number ℚ))}
    (operands : List.Forall₂ (Agree environment) exprs results) :
    ∀ {first : Expr} {start : Option (Number ℚ)}, Agree environment first start →
      Agree environment (exprs.foldl (.arithmetic operator) first)
        (start.bind fun number => (Arithmetic.present results).map
          (·.foldl (Number.arithmetic.operation operator) number)) := by
  induction operands with
  | nil =>
      intro first start agrees
      simpa [Arithmetic.present] using agrees
  | @cons expr result exprs results operand _ inductionHypothesis =>
      intro first start agrees
      have later := inductionHypothesis (agrees.arithmetic noQuotient operand)
      rw [List.foldl_cons]
      cases start with
      | none => exact later
      | some number =>
          cases result with
          | none => exact later
          | some operandNumber =>
              simpa only [Arithmetic.present, Option.map_map, Option.bind_some,
                Option.map_some, Function.comp_def, List.foldl_cons] using later

/-- The `CASE` of a quotient is zero for a divisor of zero, even of an absent dividend,
and absent for an absent divisor. -/
theorem Agree.safeQuotient {dividend divisor : Expr} {first second : Option (Number ℚ)}
    (dividendAgrees : Agree environment dividend first)
    (divisorAgrees : Agree environment divisor second) :
    Agree environment (safeQuotient environment.dialect dividend divisor)
      (Number.arithmetic.quotient [first, second]) := by
  unfold Agree PostAggregation.safeQuotient at *
  simp only [Expr.value, Expr.chosen, Expr.integer, Literal.value, Option.bind_some]
  generalize dividend.value environment = dividendValue at dividendAgrees ⊢
  generalize divisor.value environment = divisorValue at divisorAgrees ⊢
  cases divisorAgrees with
  | none =>
      simp only [Option.bind_none, Option.bind_fun_none, Truth.ofValue, reduceCtorEq, if_false]
      exact .none
  | @some divisorValue divisorNumber denoted =>
      have isZero : environment.engine.compare .equal divisorValue (.integer 0) =
          some (decide (divisorNumber.floating = 0)) :=
        environment.engine.compare_numbers .equal denoted rfl
      rw [Option.bind_some, isZero, Option.map_some, Truth.ofValue, Arithmetic.quotient]
      by_cases zero : divisorNumber.floating = 0
      · rw [if_pos (congrArg some (decide_eq_true zero)),
          if_pos (Number.isZero_iff.mpr zero)]
        refine .some ?_
        change some ((0 : Int) : ℚ) = some 0
        rw [Int.cast_zero]
      · have nonzero : ¬ some (decide (divisorNumber.floating = 0)) = some true := by simp [zero]
        rw [if_neg nonzero, if_neg (mt Number.isZero_iff.mp zero)]
        cases dividendAgrees with
        | none => exact .none
        | some dividendDenoted =>
            rw [Option.bind_some, environment.engine.cast_floatType _ dividendDenoted,
              Option.bind_some, Option.bind_some,
              environment.engine.operate_divide_real denoted zero]
            exact .some rfl

/-- An operation that can have a number of operands has an expression of that many, which
agrees with its result. -/
theorem operationExpr_agrees {operator : ArithmeticOperator} {exprs : List Expr}
    {results : List (Option (Number ℚ))}
    (operands : List.Forall₂ (Agree environment) exprs results)
    (arity : arityError? operator exprs.length = none) :
    ∃ expr, operationExpr environment.dialect operator exprs = .ok expr ∧
      Agree environment expr (Number.arithmetic.apply operator results) := by
  obtain ⟨nonempty, quotient⟩ := arityError?_eq_none_iff.mp arity
  cases operands with
  | nil => exact absurd rfl nonempty
  | @cons first start rest others agrees restAgree =>
      by_cases divides : operator = .divide
      · subst divides
        have single : rest.length = 1 := Nat.succ.inj (quotient rfl)
        cases restAgree with
        | nil => cases single
        | @cons divisor second rest others divisorAgrees restAgree =>
            obtain rfl := List.length_eq_zero_iff.mp (Nat.succ.inj single)
            cases restAgree
            exact ⟨_, rfl, agrees.safeQuotient divisorAgrees⟩
      · refine ⟨rest.foldl (.arithmetic operator) first, ?_, ?_⟩
        · cases operator <;> first | rfl | contradiction
        · rw [Number.apply_cons divides]
          exact Agree.foldl divides restAgree agrees

/-! ## Trees -/

/-- A post-aggregation has an expression and a computed result, and they agree. -/
def Computes (query : Query) (environment : Environment) (row : String → Option String)
    (post : PostAggregation) : Prop :=
  ∃ expr result, post.expression query environment.dialect = .ok expr ∧
    Number.arithmetic.evaluate row post = .ok result ∧ Agree environment expr result

/-- Operands that are each computed in both ways are so as a list. -/
theorem operands_agree {query : Query} {row : String → Option String}
    {fields : List PostAggregation}
    (operands : ∀ field ∈ fields, Computes query environment row field) :
    ∃ exprs results, expressions query environment.dialect fields = .ok exprs ∧
      Number.arithmetic.evaluateList row fields = .ok results ∧
      exprs.length = fields.length ∧ List.Forall₂ (Agree environment) exprs results := by
  induction fields with
  | nil => exact ⟨[], [], rfl, rfl, rfl, .nil⟩
  | cons field rest inductionHypothesis =>
      obtain ⟨first, others⟩ := List.forall_mem_cons.mp operands
      obtain ⟨expr, result, compiled, evaluated, agrees⟩ := first
      obtain ⟨exprs, results, allCompiled, allEvaluated, sameLength, allAgree⟩ :=
        inductionHypothesis others
      refine ⟨expr :: exprs, result :: results, ?_, ?_, ?_, .cons agrees allAgree⟩
      · rw [expressions, compiled, allCompiled]
        rfl
      · rw [Arithmetic.evaluateList, evaluated, allEvaluated]
        rfl
      · rw [List.length_cons, List.length_cons, sameLength]

/-- A field is read back as the number whose text the row gives, or as absent. -/
theorem evaluate_field {column : Option Value} {row : String → Option String}
    {aggregation : String} (same : Option.Rel Value.IsWritten column (row aggregation)) :
    ∃ result, Number.arithmetic.evaluate row (.field aggregation) = .ok result ∧
      Option.Rel Value.Denotes column result := by
  rw [Arithmetic.evaluate]
  generalize row aggregation = text? at same ⊢
  cases same with
  | none => exact ⟨none, rfl, .none⟩
  | @some value text written =>
      obtain ⟨decimal, isDecimal, equal⟩ := written
      obtain ⟨number, found, same⟩ := Number.exists_ofText?_of_decimal isDecimal
      refine ⟨some number, ?_, .some (equal.trans (congrArg some same.symm))⟩
      have read : Number.arithmetic.read aggregation text = .ok number := by
        rw [Arithmetic.read, show Number.arithmetic.ofText? text = some number from found]
      change (Number.arithmetic.read aggregation text).map some = .ok (some number)
      rw [read]
      rfl

/-- In every dialect and engine, a checked post-aggregation has an expression and has a
result over the rationals on every row that gives each aggregation of the query a text of the
number in its column, or neither.  The value of the expression is that result, `NULL` being an
absent one.  A constant that is no rational has no value in either way. -/
theorem expression_agrees_with_evaluation (query : Query) (post : PostAggregation)
    (checked : post.validate query = .ok ()) (environment : Environment)
    (row : String → Option String)
    (assigned : ∀ name, (query.aggregation? name).isSome →
      Option.Rel Value.IsWritten (environment.column name) (row name)) :
    ∃ (expr : Expr) (result : Option (Number ℚ)),
      post.expression query environment.dialect = .ok expr ∧
        post.evaluate row = .ok result ∧
        Option.Rel Value.Denotes (expr.value environment) result := by
  change Computes query environment row post
  refine checked_induction ?constant ?field ?arithmetic ?sketchEstimate ?sketchOperation
    post checked
  case constant =>
    intro name value
    exact ⟨_, _, rfl, rfl, agree_literal value⟩
  case field =>
    intro aggregation found
    have compiled : (PostAggregation.field aggregation).expression query environment.dialect =
        .ok (.column aggregation) := by
      rw [expression, checkReference_eq_ok_iff.mpr found]
      rfl
    obtain ⟨result, evaluated, agrees⟩ := evaluate_field (assigned aggregation found)
    exact ⟨_, result, compiled, evaluated, agrees⟩
  case arithmetic =>
    intro name operator fields arity operands
    obtain ⟨exprs, results, compiled, evaluated, sameLength, agree⟩ := operands_agree operands
    obtain ⟨expr, built, agrees⟩ := operationExpr_agrees agree (sameLength ▸ arity)
    refine ⟨expr, _, ?_, ?_, agrees⟩
    · rw [expression, arity, compiled]
      exact built
    · rw [Arithmetic.evaluate, arity, evaluated]
      rfl
  case sketchEstimate =>
    intro name operand computes
    exact computes
  case sketchOperation =>
    intro name operator operand size sized computes
    obtain ⟨expr, result, compiled, evaluated, agrees⟩ := computes
    refine ⟨expr, result, ?_, ?_, agrees⟩
    · rw [expression]
      exact check_eq_ok_iff.mpr ⟨sized, compiled⟩
    · rw [Arithmetic.evaluate]
      exact check_eq_ok_iff.mpr ⟨sized, evaluated⟩

/-- A sum divided by the quotient of an absent number by a difference of zero. -/
theorem expression_agrees_on_nested_quotients :
    let query : Query := {
      dataSource := "ads"
      aggregations := [.ofField .longSum "clicks" "clicks", .ofField .doubleSum "spend" "spend"] }
    let sum : PostAggregation :=
      .arithmetic "sum" .add [.field "clicks", .constant "three" (.integer 3)]
    let difference : PostAggregation :=
      .arithmetic "difference" .subtract [.field "clicks", .field "clicks"]
    let post : PostAggregation :=
      .arithmetic "rate" .divide
        [sum, .arithmetic "quotient" .divide [.field "spend", difference]]
    let environment : Environment := {
      dialect := .sqlite
      engine := .plain
      column := fun name => if name = "clicks" then some (.integer 7) else none }
    let row : String → Option String := fun name => if name = "clicks" then some " 7" else none
    post.validate query = .ok () ∧
      (∀ name, (query.aggregation? name).isSome →
        Option.Rel Value.IsWritten (environment.column name) (row name)) ∧
      ∃ (expr : Expr) (result : Option (Number ℚ)),
        post.expression query environment.dialect = .ok expr ∧
          post.evaluate row = .ok result ∧
          Option.Rel Value.Denotes (expr.value environment) result := by
  intro query sum difference post environment row
  have checked : post.validate query = .ok () := rfl
  have assigned : ∀ name, (query.aggregation? name).isSome →
      Option.Rel Value.IsWritten (environment.column name) (row name) := by
    intro name _
    by_cases clicks : name = "clicks"
    · rw [clicks]
      refine .some ⟨⟨false, 7, 0⟩, rfl, ?_⟩
      simp [Value.number?, Decimal.value, Double.signed]
    · have noValue : environment.column name = none := if_neg clicks
      have noText : row name = none := if_neg clicks
      rw [noValue, noText]
      exact .none
  exact ⟨checked, assigned,
    expression_agrees_with_evaluation query post checked environment row assigned⟩

end PostAggregation

end Rollup
