/-!
# Three-valued truth

A condition of SQL is true, false or unknown.  The connectives are those of Kleene: a
result is known as soon as the known operands decide it, whatever the others are.
-/

namespace Rollup.Sql

/-- A truth value; `none` is the unknown one. -/
abbrev Truth := Option Bool

namespace Truth

/-- The negation, unknown where the operand is. -/
def not (truth : Truth) : Truth :=
  truth.map Bool.not

/-- The conjunction of two truth values. -/
def and : Truth → Truth → Truth
  | some false, _ => some false
  | some true, second => second
  | none, some false => some false
  | none, _ => none

/-- The disjunction of two truth values. -/
def or : Truth → Truth → Truth
  | some true, _ => some true
  | some false, second => second
  | none, some true => some true
  | none, _ => none

/-- The conjunction of some truth values, true when there are none. -/
def all (truths : List Truth) : Truth :=
  truths.foldr and (some true)

/-- The disjunction of some truth values, false when there are none. -/
def any (truths : List Truth) : Truth :=
  truths.foldr or (some false)

/-! ## Connectives in a row -/

theorem and_assoc (first second third : Truth) :
    (first.and second).and third = first.and (second.and third) := by
  rcases first with _ | _ | _ <;> rcases second with _ | _ | _ <;>
    rcases third with _ | _ | _ <;> rfl

theorem or_assoc (first second third : Truth) :
    (first.or second).or third = first.or (second.or third) := by
  rcases first with _ | _ | _ <;> rcases second with _ | _ | _ <;>
    rcases third with _ | _ | _ <;> rfl

@[simp]
theorem and_true (truth : Truth) : truth.and (some true) = truth := by
  rcases truth with _ | _ | _ <;> rfl

@[simp]
theorem or_false (truth : Truth) : truth.or (some false) = truth := by
  rcases truth with _ | _ | _ <;> rfl

/-! ## Operands that are all known or all unknown -/

@[simp]
theorem any_map_some (values : List Bool) : any (values.map some) = some (values.any id) := by
  induction values with
  | nil => rfl
  | cons value rest inductionHypothesis =>
      change or (some value) (any (rest.map some)) = _
      rw [inductionHypothesis]
      cases value <;> rfl

@[simp]
theorem any_replicate_none (count : Nat) : any (List.replicate (count + 1) none) = none := by
  induction count with
  | zero => rfl
  | succ count inductionHypothesis =>
      change or none (any (List.replicate (count + 1) none)) = none
      rw [inductionHypothesis]
      rfl

/-! ## When a connective has a known value -/

@[simp]
theorem not_eq_some_iff {truth : Truth} {value : Bool} :
    truth.not = some value ↔ truth = some (!value) := by
  rcases truth with _ | known
  · simp [not]
  · cases known <;> cases value <;> simp [not]

@[simp]
theorem and_eq_true_iff {first second : Truth} :
    first.and second = some true ↔ first = some true ∧ second = some true := by
  rcases first with _ | _ | _ <;> rcases second with _ | _ | _ <;> simp [and]

@[simp]
theorem and_eq_false_iff {first second : Truth} :
    first.and second = some false ↔ first = some false ∨ second = some false := by
  rcases first with _ | _ | _ <;> rcases second with _ | _ | _ <;> simp [and]

@[simp]
theorem or_eq_true_iff {first second : Truth} :
    first.or second = some true ↔ first = some true ∨ second = some true := by
  rcases first with _ | _ | _ <;> rcases second with _ | _ | _ <;> simp [or]

@[simp]
theorem or_eq_false_iff {first second : Truth} :
    first.or second = some false ↔ first = some false ∧ second = some false := by
  rcases first with _ | _ | _ <;> rcases second with _ | _ | _ <;> simp [or]

/-- A conjunction is true exactly when every operand is. -/
@[simp]
theorem all_eq_true_iff {truths : List Truth} :
    all truths = some true ↔ ∀ truth ∈ truths, truth = some true := by
  induction truths with
  | nil => simp [all]
  | cons first rest inductionHypothesis =>
      change first.and (all rest) = some true ↔ _
      rw [and_eq_true_iff, inductionHypothesis, List.forall_mem_cons]

/-- A conjunction is false exactly when one operand is. -/
@[simp]
theorem all_eq_false_iff {truths : List Truth} :
    all truths = some false ↔ some false ∈ truths := by
  induction truths with
  | nil => simp [all]
  | cons first rest inductionHypothesis =>
      change first.and (all rest) = some false ↔ _
      rw [and_eq_false_iff, inductionHypothesis, List.mem_cons, eq_comm]

/-- A disjunction is true exactly when one operand is. -/
@[simp]
theorem any_eq_true_iff {truths : List Truth} :
    any truths = some true ↔ some true ∈ truths := by
  induction truths with
  | nil => simp [any]
  | cons first rest inductionHypothesis =>
      change first.or (any rest) = some true ↔ _
      rw [or_eq_true_iff, inductionHypothesis, List.mem_cons, eq_comm]

/-- A disjunction is false exactly when every operand is. -/
@[simp]
theorem any_eq_false_iff {truths : List Truth} :
    any truths = some false ↔ ∀ truth ∈ truths, truth = some false := by
  induction truths with
  | nil => simp [any]
  | cons first rest inductionHypothesis =>
      change first.or (any rest) = some false ↔ _
      rw [or_eq_false_iff, inductionHypothesis, List.forall_mem_cons]

end Truth

end Rollup.Sql
