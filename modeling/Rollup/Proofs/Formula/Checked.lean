import Rollup.Plan.Formula
import Rollup.Proofs.Sql.Inherited
import Rollup.Proofs.Steps

/-!
# Checked post-aggregations

What a post-aggregation looks like once its checks have passed: every field names an
aggregation of the query, every operation has the operands it needs, and an operation on
sketches has a single operand, whose value it takes over.  From this follows what its
expressions can be built of.
-/

namespace Rollup.PostAggregation

@[simp]
theorem failOn_eq_ok_iff {error? : Option Error} : failOn error? = .ok () ↔ error? = none := by
  cases error? with
  | none => exact iff_of_true rfl rfl
  | some error =>
      constructor
      · intro passed
        cases passed
      · intro absent
        cases absent

/-- An operation can have a number of operands if there is one, and two for a quotient. -/
@[simp]
theorem arityError?_eq_none_iff {operator : ArithmeticOperator} {operands : Nat} :
    arityError? operator operands = none ↔
      operands ≠ 0 ∧ (operator = .divide → operands = 2) := by
  unfold arityError?
  by_cases wrongQuotient : operator = .divide ∧ operands ≠ 2
  · rw [if_pos wrongQuotient]
    constructor
    · intro absent
      cases absent
    · rintro ⟨_, quotient⟩
      exact absurd (quotient wrongQuotient.1) wrongQuotient.2
  · rw [if_neg wrongQuotient]
    simp only [not_and, ne_eq, Decidable.not_not] at wrongQuotient
    by_cases empty : operands = 0
    · simp [empty]
    · simpa [empty] using wrongQuotient

@[simp]
theorem checkReference_eq_ok_iff {query : Query} {name : String} :
    checkReference query name = .ok () ↔ (query.aggregation? name).isSome := by
  unfold checkReference
  by_cases found : (query.aggregation? name).isSome
  · simp [found]
  · simp [found]

@[simp]
theorem checkName_eq_ok_iff {post : PostAggregation} :
    checkName post = .ok () ↔ post.name? ≠ some "" := by
  unfold checkName
  by_cases empty : post.name? = some ""
  · simp [empty]
  · simp [empty]

/-- A checked post-aggregation has no name or one that is not empty. -/
theorem name?_ne_empty_of_validate {query : Query} {post : PostAggregation}
    (checked : post.validate query = .ok ()) : post.name? ≠ some "" := by
  cases post with
  | constant name value => exact checkName_eq_ok_iff.mp checked
  | field aggregation => exact (Option.some_ne_none "").symm
  | arithmetic name operator fields => exact checkName_eq_ok_iff.mp (andThen_eq_ok_iff.mp checked).1
  | sketchEstimate name operand => exact checkName_eq_ok_iff.mp (andThen_eq_ok_iff.mp checked).1
  | sketchOperation name operator fields size =>
      rcases fields with _ | ⟨operand, _ | ⟨second, rest⟩⟩
      · exact checkName_eq_ok_iff.mp (andThen_eq_ok_iff.mp checked).1
      · exact checkName_eq_ok_iff.mp (andThen_eq_ok_iff.mp checked).1
      · exact checkName_eq_ok_iff.mp (andThen_eq_ok_iff.mp checked).1

/-- Some post-aggregations pass their checks exactly when each of them does. -/
@[simp]
theorem validateList_eq_ok_iff {query : Query} {posts : List PostAggregation} :
    validateList query posts = .ok () ↔ ∀ post ∈ posts, post.validate query = .ok () := by
  induction posts with
  | nil => simp [validateList]
  | cons post rest inductionHypothesis =>
      rw [List.forall_mem_cons, ← inductionHypothesis, validateList, andThen_eq_ok_iff]

/-- What holds of every constant and field, and of an operation as soon as it holds of each
operand, holds of every post-aggregation. -/
@[elab_as_elim]
theorem induction {motive : PostAggregation → Prop}
    (constant : ∀ name value, motive (.constant name value))
    (field : ∀ aggregation, motive (.field aggregation))
    (arithmetic : ∀ name operator fields, (∀ field ∈ fields, motive field) →
      motive (.arithmetic name operator fields))
    (sketchEstimate : ∀ name operand, motive operand → motive (.sketchEstimate name operand))
    (sketchOperation : ∀ name operator fields size, (∀ field ∈ fields, motive field) →
      motive (.sketchOperation name operator fields size))
    (post : PostAggregation) : motive post :=
  @PostAggregation.rec motive (fun posts => ∀ post ∈ posts, motive post) constant field
    arithmetic sketchEstimate sketchOperation (fun _ listed => by cases listed)
    (fun _ _ first rest => List.forall_mem_cons.mpr ⟨first, rest⟩) post

/-- What holds of a checked post-aggregation as soon as it holds of its operands holds of
every one. -/
@[elab_as_elim]
theorem checked_induction {query : Query} {motive : PostAggregation → Prop}
    (constant : ∀ name value, motive (.constant name value))
    (field : ∀ aggregation, (query.aggregation? aggregation).isSome → motive (.field aggregation))
    (arithmetic : ∀ name operator fields, arityError? operator fields.length = none →
      (∀ field ∈ fields, motive field) → motive (.arithmetic name operator fields))
    (sketchEstimate : ∀ name operand, motive operand → motive (.sketchEstimate name operand))
    (sketchOperation : ∀ name operator operand size, size ≠ some 0 → motive operand →
      motive (.sketchOperation name operator [operand] size))
    (post : PostAggregation) (checked : post.validate query = .ok ()) : motive post := by
  induction post using PostAggregation.induction with
  | constant name value => exact constant name value
  | field aggregation => exact field aggregation (checkReference_eq_ok_iff.mp checked)
  | arithmetic name operator fields operands =>
      obtain ⟨_, afterName⟩ := andThen_eq_ok_iff.mp checked
      obtain ⟨arity, operandsChecked⟩ := andThen_eq_ok_iff.mp afterName
      refine arithmetic name operator fields (failOn_eq_ok_iff.mp arity) ?_
      intro field member
      exact operands field member (validateList_eq_ok_iff.mp operandsChecked field member)
  | sketchEstimate name operand operandHolds =>
      obtain ⟨_, operandChecked⟩ := andThen_eq_ok_iff.mp checked
      exact sketchEstimate name operand (operandHolds operandChecked)
  | sketchOperation name operator fields size operands =>
      rcases fields with _ | ⟨operand, _ | ⟨second, rest⟩⟩
      · obtain ⟨_, refused⟩ := andThen_eq_ok_iff.mp checked
        cases refused
      · obtain ⟨_, afterName⟩ := andThen_eq_ok_iff.mp checked
        obtain ⟨sized, operandChecked⟩ := check_eq_ok_iff.mp afterName
        exact sketchOperation name operator operand size sized
          (operands operand (List.mem_singleton_self operand) operandChecked)
      · obtain ⟨_, refused⟩ := andThen_eq_ok_iff.mp checked
        cases refused

/-! ## Expressions -/

open Sql

section

variable {P : Expr → Prop} (inherited : Expr.IsInherited P) {query : Query} {dialect : Dialect}
include inherited

theorem safeQuotient_inherited {dividend divisor : Expr} (dividendHolds : P dividend)
    (divisorHolds : P divisor) : P (safeQuotient dialect dividend divisor) := by
  have zero : P (.integer 0) := inherited.literal _
  have compared := inherited.compare .equal divisorHolds zero
  have cast := inherited.cast dialect.isBareName_floatType dividendHolds
  refine inherited.case (List.forall_mem_singleton.mpr ⟨compared, zero⟩) fun expr listed => ?_
  cases listed
  exact inherited.arithmetic .divide cast divisorHolds

/-- The expression of an operation has the inherited properties of its operands. -/
theorem operationExpr_inherited {operator : ArithmeticOperator} {operands : List Expr}
    {expr : Expr} (each : ∀ operand ∈ operands, P operand)
    (built : operationExpr dialect operator operands = .ok expr) : P expr := by
  have folded {first : Expr} {rest : List Expr} (firstHolds : P first)
      (restHolds : ∀ operand ∈ rest, P operand) :
      P (rest.foldl (.arithmetic operator) first) := by
    induction rest generalizing first with
    | nil => exact firstHolds
    | cons second rest inductionHypothesis =>
        rw [List.forall_mem_cons] at restHolds
        exact inductionHypothesis (inherited.arithmetic operator firstHolds restHolds.1)
          restHolds.2
  unfold operationExpr at built
  split at built
  · cases built
  · next first rest =>
    rw [List.forall_mem_cons] at each
    split at built
    · cases built
    · next divisor _ =>
      cases built
      exact safeQuotient_inherited inherited each.1 (each.2 divisor List.mem_cons_self)
    · cases built
      exact folded each.1 each.2

/-- The expression of a checked post-aggregation has the inherited properties of the columns
of aggregations. -/
theorem expression_inherited
    (columns : ∀ name, (query.aggregation? name).isSome → P (.column name))
    {post : PostAggregation} (checked : post.validate query = .ok ()) (expr : Expr)
    (built : post.expression query dialect = .ok expr) : P expr := by
  revert expr
  refine checked_induction ?constant ?field ?arithmetic ?sketchEstimate ?sketchOperation
    post checked
  case constant =>
    intro name value expr built
    cases built
    cases value <;> exact inherited.literal _
  case field =>
    intro aggregation found expr built
    obtain ⟨_, _, built⟩ := bind_eq_ok_iff.mp built
    cases built
    exact columns aggregation found
  case arithmetic =>
    intro name operator fields _ operands expr built
    obtain ⟨_, _, built⟩ := bind_eq_ok_iff.mp built
    obtain ⟨exprs, compiled, built⟩ := bind_eq_ok_iff.mp built
    have each : List.Forall₂ (fun field expr => field.expression query dialect = .ok expr)
        fields exprs :=
      forall₂_of_collected (expressions query dialect) rfl (fun _ _ => rfl) compiled
    exact operationExpr_inherited inherited
      (forall_results_of_forall₂ each fun field listed expr => operands field listed expr) built
  case sketchEstimate =>
    intro name operand inner expr built
    exact inner expr built
  case sketchOperation =>
    intro name operator operand size _ inner expr built
    rw [expression] at built
    exact inner expr (check_eq_ok_iff.mp built).2

end

end Rollup.PostAggregation
