import Rollup.Proofs.Having.Faults
import Rollup.Proofs.Sql.Arithmetic

/-!
# The meaning of having trees

A having tree read on the aggregates of a group.  A comparison is unknown where its aggregate
is `NULL`, and connectives are Kleene's; one that the query names is the one of that name.  The
tree names aggregates, while its condition holds their calls: where no two aggregates have the
same name, both mean the same.
-/

namespace Rollup

open Sql

/-- Whether a number stands in a comparison to a constant. -/
def Comparison.holds (comparison : Comparison) (number constant : ℚ) : Bool :=
  match comparison with
  | .equal => decide (number = constant)
  | .less => decide (number < constant)
  | .greater => decide (constant < number)

namespace Having

/-! ## Truth values of trees -/

mutual

/-- The truth value of a having tree under one for each of its comparisons. -/
def truth (compares : String → Comparison → Double → Truth) : Having → Truth
  | .compare name comparison constant => compares name comparison constant
  | .all clauses => Truth.all (truths compares clauses)
  | .any clauses => Truth.any (truths compares clauses)
  | .not clause => (truth compares clause).not
  | .multi .and clauses => Truth.all (truths compares clauses)
  | .multi .or clauses => Truth.any (truths compares clauses)
termination_by structural having => having

/-- The truth values of some having trees. -/
def truths (compares : String → Comparison → Double → Truth) : List Having → List Truth
  | [] => []
  | clause :: rest => truth compares clause :: truths compares rest
termination_by structural clauses => clauses

end

/-- The truth value of a comparison where aggregates of some names have some values: unknown
for one that has none, and for a constant that is no rational. -/
def comparesValues (values : String → Option ℚ) (name : String) (comparison : Comparison)
    (constant : Double) : Truth :=
  (values name).bind fun number => constant.rational?.map (comparison.holds number)

@[simp]
theorem truths_eq_map (compares : String → Comparison → Double → Truth) (clauses : List Having) :
    truths compares clauses = clauses.map (truth compares) := by
  induction clauses with
  | nil => rfl
  | cons clause rest inductionHypothesis => rw [truths, inductionHypothesis, List.map_cons]

/-! ## Truth values of conditions -/

variable {aggregates : List Aggregate}

/-- The condition of a having tree has the truth value of the tree, as soon as each comparison
with the call of an aggregate has that of the comparison with its name. -/
theorem truthUnder_condition {assign : Expr → Truth}
    {compares : String → Comparison → Double → Truth}
    (agrees : ∀ aggregate ∈ aggregates, ∀ comparison constant,
      compares aggregate.name comparison constant =
        assign (.compare aggregate.call comparison.operator (.float constant)))
    (having : Having) (expr : Expr) (compiled : condition aggregates having = .ok expr) :
    expr.truthUnder assign = having.truth compares := by
  have operands {clauses : List Having} {exprs : List Expr}
      (each : ∀ clause ∈ clauses, ∀ expr, condition aggregates clause = .ok expr →
        expr.truthUnder assign = clause.truth compares)
      (found : conditions aggregates clauses = .ok exprs) :
      Expr.truthsUnder assign exprs = truths compares clauses := by
    rw [Expr.truthsUnder_eq_map, truths_eq_map]
    apply map_results_eq (conditions_forall₂ found)
    intro clause listed expr built
    exact each clause listed expr built
  induction having using Having.induction generalizing expr with
  | compare name comparison constant =>
      rw [condition] at compiled
      split at compiled
      · next aggregate found =>
        cases compiled
        obtain rfl : aggregate.name = name := by simpa using List.find?_some found
        exact (agrees aggregate (List.mem_of_find?_eq_some found) comparison constant).symm
      · cases compiled
  | all clauses each =>
      simp only [condition, check_eq_ok_iff] at compiled
      obtain ⟨exprs, found, built⟩ := bind_eq_ok_iff.mp compiled.2
      cases built
      rw [Expr.truthUnder, operands each found, truth]
  | any clauses each =>
      simp only [condition, check_eq_ok_iff] at compiled
      obtain ⟨exprs, found, built⟩ := bind_eq_ok_iff.mp compiled.2
      cases built
      rw [Expr.truthUnder, operands each found, truth]
  | not clause negated =>
      obtain ⟨inner, found, built⟩ := bind_eq_ok_iff.mp compiled
      cases built
      rw [Expr.truthUnder, negated inner found, truth]
  | multi connective clauses each =>
      simp only [condition, check_eq_ok_iff] at compiled
      obtain ⟨exprs, found, built⟩ := bind_eq_ok_iff.mp compiled.2
      cases connective with
      | and =>
          cases built
          rw [Expr.truthUnder, operands each found, truth]
      | or =>
          cases built
          rw [Expr.truthUnder, operands each found, truth]

end Having

/-! ## Groups -/

namespace Sql

/-- Whether every aggregate of a group is a number or `NULL`. -/
def Environment.HasNumbers (environment : Environment) : Prop :=
  ∀ function argument value, environment.aggregate function argument = some value →
    ∃ number, value.number? = some number

/-- The number that the call of an aggregate is in a group. -/
def Aggregate.number? (environment : Environment) (aggregate : Aggregate) : Option ℚ :=
  (environment.aggregate aggregate.function aggregate.argument).bind Value.number?

/-- The comparison of a call with a constant is unknown on `NULL` and for a constant that is no
rational, and otherwise compares the numbers. -/
theorem truth_compare_call {environment : Environment} (numbers : environment.HasNumbers)
    (aggregate : Aggregate) (comparison : Comparison) (constant : Double) :
    (Expr.compare aggregate.call comparison.operator (.float constant)).truth environment =
      (aggregate.number? environment).bind fun number =>
        constant.rational?.map (comparison.holds number) := by
  have literal : (Expr.float constant).value environment = constant.rational?.map .real := by
    rw [Expr.float, Expr.value, Literal.value]
  rw [Expr.truth, Expr.value, Aggregate.call, Expr.value, Aggregate.number?, literal]
  cases held : environment.aggregate aggregate.function aggregate.argument with
  | none => rfl
  | some value =>
      obtain ⟨number, isNumber⟩ := numbers _ _ value held
      rw [Option.bind_some, Option.bind_some, isNumber, Option.bind_some]
      cases constant.rational? with
      | none => rfl
      | some exact =>
          have compared : environment.engine.compare comparison.operator value (.real exact) =
              some (comparison.holds number exact) := by
            rw [environment.engine.compare_numbers comparison.operator isNumber rfl]
            cases comparison <;> rfl
          rw [Option.map_some, Option.bind_some, compared]
          rfl

end Sql

/-! ## Compiled having trees -/

namespace Having

/-- Where no two aggregates have the same name, what belongs to each of them belongs to its
name. -/
theorem exists_byName {α : Type} [Inhabited α] {aggregates : List Aggregate}
    (distinct : (aggregates.map Aggregate.name).Nodup) (own : Aggregate → α) :
    ∃ named : String → α, ∀ aggregate ∈ aggregates, named aggregate.name = own aggregate := by
  refine ⟨fun name => ((aggregates.find? (·.name == name)).map own).getD default, ?_⟩
  intro aggregate listed
  simp only [Query.find?_key_of_mem distinct listed, Option.map_some, Option.getD_some]

/-- Over aggregates with different names, a having tree has a condition exactly if it is
admitted: its comparisons are with names of aggregates, and its connectives have clauses.  Any
other tree is refused with the fault of the first faulty node, the nodes before which are not
faulty.  In every group, where each aggregate is a number or `NULL`, the condition has Kleene's
truth value of the tree over the values of the calls, each under the name of its aggregate.

This is so as well for whatever other truth values the comparisons have, as where engines
disagree on constants that are no numbers. -/
theorem condition_means_having (aggregates : List Aggregate)
    (distinct : (aggregates.map Aggregate.name).Nodup) (having : Having) :
    ((∃ expr, condition aggregates having = .ok expr) ↔ Admits aggregates having) ∧
      (∀ error, condition aggregates having = .error error ↔
        ∃ before node after, having.nodes = before ++ node :: after ∧
          fault? aggregates node = some error ∧
          ∀ earlier ∈ before, fault? aggregates earlier = none) ∧
      ∀ expr, condition aggregates having = .ok expr →
        (∀ environment : Environment, environment.HasNumbers →
          ∃ values : String → Option ℚ,
            (∀ aggregate ∈ aggregates,
              values aggregate.name = aggregate.number? environment) ∧
            expr.truth environment = having.truth (comparesValues values)) ∧
        ∀ assign : Expr → Truth, ∃ compares : String → Comparison → Double → Truth,
          (∀ aggregate ∈ aggregates, ∀ comparison constant,
            compares aggregate.name comparison constant =
              assign (.compare aggregate.call comparison.operator (.float constant))) ∧
          expr.truthUnder assign = having.truth compares := by
  refine ⟨?accepted, ?refused, ?meaning⟩
  case accepted =>
    rw [← failure?_eq_none_iff, failure?_condition, List.findSome?_eq_none_iff, admits_iff]
  case refused =>
    intro error
    rw [← failure?_eq_some_iff, failure?_condition, List.findSome?_eq_some_iff]
  case meaning =>
    intro expr compiled
    constructor
    · intro environment numbers
      obtain ⟨values, named⟩ := exists_byName distinct fun aggregate =>
        aggregate.number? environment
      refine ⟨values, named, ?_⟩
      rw [Expr.truth_eq_truthUnder]
      apply truthUnder_condition _ having expr compiled
      intro aggregate listed comparison constant
      rw [truth_compare_call numbers, comparesValues, named aggregate listed]
    · intro assign
      obtain ⟨compares, named⟩ := exists_byName distinct
        fun aggregate (comparison : Comparison) (constant : Double) =>
          assign (.compare aggregate.call comparison.operator (.float constant))
      refine ⟨compares, ?_, ?_⟩
      · intro aggregate listed comparison constant
        rw [named aggregate listed]
      · apply truthUnder_condition _ having expr compiled
        intro aggregate listed comparison constant
        rw [named aggregate listed]

/-- In a group whose amounts are all absent the sum is unknown, but the number of rows is not
zero, and a disjunction under the other spelling of the connective is true. -/
theorem condition_means_having_of_absent_total :
    let aggregates : List Aggregate :=
      [⟨.sum, some (.column "amount"), "total"⟩, ⟨.count, none, "rows"⟩]
    let having : Having :=
      .multi .or [.compare "total" .less (Double.ofRatio false 11 2),
        .not (.compare "rows" .equal (Double.zero false))]
    let environment : Environment :=
      { dialect := .ansi, engine := .plain, column := fun _ => none,
        aggregate := fun function _ => if function = .count then some (.integer 3) else none }
    (aggregates.map Aggregate.name).Nodup ∧ environment.HasNumbers ∧
      ∃ expr, condition aggregates having = .ok expr ∧
        ∃ values : String → Option ℚ, values "total" = none ∧ values "rows" = some 3 ∧
          expr.truth environment = having.truth (comparesValues values) ∧
          expr.truth environment = some true := by
  intro aggregates having environment
  have distinct : (aggregates.map Aggregate.name).Nodup := by decide
  have numbers : environment.HasNumbers := by
    intro function argument value held
    change (if function = .count then some (Value.integer 3) else none) = some value at held
    split at held
    · cases held
      exact ⟨_, rfl⟩
    · cases held
  obtain ⟨_, _, meaning⟩ := condition_means_having aggregates distinct having
  obtain ⟨values, named, same⟩ := (meaning _ rfl).1 environment numbers
  have total : values "total" = none := named _ List.mem_cons_self
  have rows : values "rows" = some 3 := named _ (List.mem_cons_of_mem _ List.mem_cons_self)
  refine ⟨distinct, numbers, _, rfl, values, total, rows, same, ?_⟩
  rw [same]
  simp [having, truth, truths, comparesValues, total, rows, Comparison.holds, Truth.any, Truth.or,
    Truth.not]

end Having

end Rollup
