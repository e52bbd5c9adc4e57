import Rollup.Sql.Writer

/-!
# Expressions as trees

An induction over expressions whose cases are the forms of expressions, operands in lists
and branches being covered at once; what is found at the nodes of an expression; and the
token lists of operands and branches as maps.
-/

namespace Rollup.Sql

@[simp]
theorem joinTokens_cons_cons (separator : String) (first second : List Token)
    (rest : List (List Token)) :
    joinTokens separator (first :: second :: rest) =
      first ++ .verbatim separator :: joinTokens separator (second :: rest) :=
  rfl

theorem joinTokens_append (separator : String) {first second : List (List Token)}
    (nonempty : first ≠ []) (nonemptySecond : second ≠ []) :
    joinTokens separator (first ++ second) =
      joinTokens separator first ++ .verbatim separator :: joinTokens separator second := by
  induction first with
  | nil => exact absurd rfl nonempty
  | cons tokens rest inductionHypothesis =>
      cases rest with
      | nil =>
          obtain ⟨next, others, rfl⟩ := List.exists_cons_of_ne_nil nonemptySecond
          rfl
      | cons next rest =>
          rw [List.cons_append, List.cons_append, joinTokens_cons_cons, joinTokens_cons_cons,
            ← List.cons_append, inductionHypothesis (List.cons_ne_nil _ _), List.append_assoc,
            List.cons_append]

/-- Two operands or more stand in parentheses. -/
@[simp]
theorem junctionTokens_cons_cons (separator neutral : String) (first second : List Token)
    (rest : List (List Token)) :
    junctionTokens separator neutral (first :: second :: rest) =
      .verbatim "(" :: joinTokens separator (first :: second :: rest) ++ [.verbatim ")"] :=
  rfl

namespace Expr

/-- What holds of an expression as soon as it holds of its operands holds of every
expression. -/
@[elab_as_elim]
theorem induction {motive : Expr → Prop}
    (column : ∀ name, motive (.column name))
    (literal : ∀ value, motive (.literal value))
    (compare : ∀ left operator right, motive left → motive right →
      motive (.compare left operator right))
    (like : ∀ expr pattern escape, motive expr → motive pattern →
      motive (.like expr pattern escape))
    (all : ∀ exprs, (∀ expr ∈ exprs, motive expr) → motive (.all exprs))
    (any : ∀ exprs, (∀ expr ∈ exprs, motive expr) → motive (.any exprs))
    (not : ∀ expr, motive expr → motive (.not expr))
    (arithmetic : ∀ operator left right, motive left → motive right →
      motive (.arithmetic operator left right))
    (cast : ∀ expr typeName, motive expr → motive (.cast expr typeName))
    (call : ∀ function arguments, (∀ argument ∈ arguments, motive argument) →
      motive (.call function arguments))
    (extract : ∀ field expr, motive expr → motive (.extract field expr))
    (aggregate : ∀ function argument, (∀ expr ∈ argument, motive expr) →
      motive (.aggregate function argument))
    (case : ∀ branches otherwise,
      (∀ branch ∈ branches, motive branch.1 ∧ motive branch.2) →
        (∀ expr ∈ otherwise, motive expr) → motive (.case branches otherwise))
    (expr : Expr) : motive expr :=
  @Expr.rec motive (fun exprs => ∀ expr ∈ exprs, motive expr)
    (fun optional => ∀ expr ∈ optional, motive expr)
    (fun branches => ∀ branch ∈ branches, motive branch.1 ∧ motive branch.2)
    (fun branch => motive branch.1 ∧ motive branch.2)
    column literal compare like all any not arithmetic cast call extract aggregate case
    (fun _ listed => by cases listed)
    (fun _ _ first rest => List.forall_mem_cons.mpr ⟨first, rest⟩)
    (fun _ listed => by cases listed)
    (fun _ found _ listed => by cases listed; exact found)
    (fun _ listed => by cases listed)
    (fun _ _ first rest => List.forall_mem_cons.mpr ⟨first, rest⟩)
    (fun _ _ first second => ⟨first, second⟩)
    expr

/-! ## Token lists -/

@[simp]
theorem tokensOfList_eq_map (exprs : List Expr) : tokensOfList exprs = exprs.map tokens := by
  induction exprs with
  | nil => rfl
  | cons expr rest inductionHypothesis => rw [tokensOfList, inductionHypothesis, List.map_cons]

/-- The tokens of a branch of a `CASE`. -/
def tokensOfBranch (branch : Expr × Expr) : List Token :=
  .verbatim " WHEN " :: branch.1.tokens ++ .verbatim " THEN " :: branch.2.tokens

@[simp]
theorem tokensOfBranches_eq_flatMap (branches : List (Expr × Expr)) :
    tokensOfBranches branches = branches.flatMap tokensOfBranch := by
  induction branches with
  | nil => rfl
  | cons branch rest inductionHypothesis =>
      rw [tokensOfBranches, inductionHypothesis, List.flatMap_cons]
      rfl

/-! ## Nodes -/

section

variable {α : Type} (own : Expr → List α)

mutual

/-- Everything found at the nodes of an expression, at operands before the node
itself. -/
def collect : Expr → List α
  | .column name => own (.column name)
  | .literal value => own (.literal value)
  | .compare left operator right =>
      collect left ++ collect right ++ own (.compare left operator right)
  | .like expr pattern escape =>
      collect expr ++ collect pattern ++ own (.like expr pattern escape)
  | .all exprs => collectList exprs ++ own (.all exprs)
  | .any exprs => collectList exprs ++ own (.any exprs)
  | .not expr => collect expr ++ own (.not expr)
  | .arithmetic operator left right =>
      collect left ++ collect right ++ own (.arithmetic operator left right)
  | .cast expr typeName => collect expr ++ own (.cast expr typeName)
  | .call function arguments => collectList arguments ++ own (.call function arguments)
  | .extract field expr => collect expr ++ own (.extract field expr)
  | .aggregate function none => own (.aggregate function none)
  | .aggregate function (some argument) =>
      collect argument ++ own (.aggregate function (some argument))
  | .case branches none => collectBranches branches ++ own (.case branches none)
  | .case branches (some otherwise) =>
      collectBranches branches ++ collect otherwise ++ own (.case branches (some otherwise))
termination_by structural expr => expr

/-- Everything found at the nodes of some expressions. -/
def collectList : List Expr → List α
  | [] => []
  | expr :: rest => collect expr ++ collectList rest
termination_by structural exprs => exprs

/-- Everything found at the nodes of some branches. -/
def collectBranches : List (Expr × Expr) → List α
  | [] => []
  | (condition, result) :: rest => collect condition ++ collect result ++ collectBranches rest
termination_by structural branches => branches

end

attribute [local simp] collect collectList collectBranches

@[simp]
theorem collectList_eq_flatMap (exprs : List Expr) :
    collectList own exprs = exprs.flatMap (collect own) := by
  induction exprs with
  | nil => rfl
  | cons expr rest inductionHypothesis =>
      rw [collectList, inductionHypothesis, List.flatMap_cons]

@[simp]
theorem collectBranches_eq_flatMap (branches : List (Expr × Expr)) :
    collectBranches own branches =
      branches.flatMap fun branch => collect own branch.1 ++ collect own branch.2 := by
  induction branches with
  | nil => rfl
  | cons branch rest inductionHypothesis =>
      rw [collectBranches, inductionHypothesis, List.flatMap_cons]

end

section

variable {α : Type} {own : Expr → List α} {P : α → Prop}

@[simp]
theorem forall_collect_compare {left right : Expr} {operator : Operator} :
    (∀ found ∈ (compare left operator right).collect own, P found) ↔
      ((∀ found ∈ left.collect own, P found) ∧ ∀ found ∈ right.collect own, P found) ∧
        ∀ found ∈ own (compare left operator right), P found := by
  rw [collect, List.forall_mem_append, List.forall_mem_append]

@[simp]
theorem forall_collect_like {expr pattern : Expr} {escape : Option Char} :
    (∀ found ∈ (like expr pattern escape).collect own, P found) ↔
      ((∀ found ∈ expr.collect own, P found) ∧ ∀ found ∈ pattern.collect own, P found) ∧
        ∀ found ∈ own (like expr pattern escape), P found := by
  rw [collect, List.forall_mem_append, List.forall_mem_append]

@[simp]
theorem forall_collect_all {exprs : List Expr} :
    (∀ found ∈ (all exprs).collect own, P found) ↔
      (∀ expr ∈ exprs, ∀ found ∈ expr.collect own, P found) ∧
        ∀ found ∈ own (all exprs), P found := by
  rw [collect, collectList_eq_flatMap, List.forall_mem_append, List.forall_mem_flatMap]

@[simp]
theorem forall_collect_any {exprs : List Expr} :
    (∀ found ∈ (any exprs).collect own, P found) ↔
      (∀ expr ∈ exprs, ∀ found ∈ expr.collect own, P found) ∧
        ∀ found ∈ own (any exprs), P found := by
  rw [collect, collectList_eq_flatMap, List.forall_mem_append, List.forall_mem_flatMap]

@[simp]
theorem forall_collect_not {expr : Expr} :
    (∀ found ∈ (not expr).collect own, P found) ↔
      (∀ found ∈ expr.collect own, P found) ∧ ∀ found ∈ own (not expr), P found := by
  rw [collect, List.forall_mem_append]

@[simp]
theorem forall_collect_arithmetic {operator : ArithmeticOperator} {left right : Expr} :
    (∀ found ∈ (arithmetic operator left right).collect own, P found) ↔
      ((∀ found ∈ left.collect own, P found) ∧ ∀ found ∈ right.collect own, P found) ∧
        ∀ found ∈ own (arithmetic operator left right), P found := by
  rw [collect, List.forall_mem_append, List.forall_mem_append]

@[simp]
theorem forall_collect_cast {expr : Expr} {typeName : String} :
    (∀ found ∈ (cast expr typeName).collect own, P found) ↔
      (∀ found ∈ expr.collect own, P found) ∧ ∀ found ∈ own (cast expr typeName), P found := by
  rw [collect, List.forall_mem_append]

@[simp]
theorem forall_collect_call {function : String} {arguments : List Expr} :
    (∀ found ∈ (call function arguments).collect own, P found) ↔
      (∀ argument ∈ arguments, ∀ found ∈ argument.collect own, P found) ∧
        ∀ found ∈ own (call function arguments), P found := by
  rw [collect, collectList_eq_flatMap, List.forall_mem_append, List.forall_mem_flatMap]

@[simp]
theorem forall_collect_extract {field : String} {expr : Expr} :
    (∀ found ∈ (extract field expr).collect own, P found) ↔
      (∀ found ∈ expr.collect own, P found) ∧ ∀ found ∈ own (extract field expr), P found := by
  rw [collect, List.forall_mem_append]

@[simp]
theorem forall_collect_aggregate {function : AggregateFunction} {argument : Option Expr} :
    (∀ found ∈ (aggregate function argument).collect own, P found) ↔
      (∀ expr ∈ argument, ∀ found ∈ expr.collect own, P found) ∧
        ∀ found ∈ own (aggregate function argument), P found := by
  cases argument with
  | none => exact (and_iff_right fun expr listed => nomatch listed).symm
  | some argument => simp only [collect, List.forall_mem_append, Option.mem_some_iff, forall_eq']

@[simp]
theorem forall_collect_case {branches : List (Expr × Expr)} {otherwise : Option Expr} :
    (∀ found ∈ (case branches otherwise).collect own, P found) ↔
      ((∀ branch ∈ branches, (∀ found ∈ branch.1.collect own, P found) ∧
          ∀ found ∈ branch.2.collect own, P found) ∧
        ∀ expr ∈ otherwise, ∀ found ∈ expr.collect own, P found) ∧
        ∀ found ∈ own (case branches otherwise), P found := by
  cases otherwise with
  | none =>
      have absent : ∀ expr ∈ (none : Option Expr), ∀ found ∈ expr.collect own, P found :=
        fun expr listed => nomatch listed
      rw [collect, collectBranches_eq_flatMap, List.forall_mem_append, List.forall_mem_flatMap,
        and_iff_left absent]
      simp only [List.forall_mem_append]
  | some otherwise =>
      simp only [collect, collectBranches_eq_flatMap, List.forall_mem_append,
        List.forall_mem_flatMap, Option.mem_some_iff, forall_eq']

end

end Expr

end Rollup.Sql
