import Rollup.Proofs.Sql.Signs
import Rollup.Proofs.Sql.Truth

/-!
# The grammar of conditions

Conditions as SQL reads them: `OR` binds least, then `AND`, then `NOT`, which may be
repeated; parentheses group; and predicates are comparisons, `LIKE` with or without an
escape character, and calls.
-/

namespace Rollup.Sql

/-! ## Conditions -/

/-- A condition over predicates of some kind. -/
inductive Condition (α : Type) where
  | leaf (predicate : α)
  | and (left right : Condition α)
  | or (left right : Condition α)
  | not (operand : Condition α)
  deriving DecidableEq

namespace Condition

variable {α β : Type}

/-- A condition over the images of its predicates. -/
def map (image : α → β) : Condition α → Condition β
  | .leaf predicate => .leaf (image predicate)
  | .and left right => .and (left.map image) (right.map image)
  | .or left right => .or (left.map image) (right.map image)
  | .not operand => .not (operand.map image)

/-- The truth value of a condition under one for each predicate. -/
def truth (assign : α → Truth) : Condition α → Truth
  | .leaf predicate => assign predicate
  | .and left right => (left.truth assign).and (right.truth assign)
  | .or left right => (left.truth assign).or (right.truth assign)
  | .not operand => (operand.truth assign).not

/-- Conditions under a connective that binds to the left; `neutral` stands for none. -/
def chain (connect : Condition α → Condition α → Condition α) (neutral : Condition α) :
    List (Condition α) → Condition α
  | [] => neutral
  | first :: rest => rest.foldl connect first

variable {connect : Condition α → Condition α → Condition α} {conditions : List (Condition α)}
  {neutral : Condition α}

/-- A connective that is associative combines the truth values of its operands in either
direction. -/
theorem truth_chain {combine : Truth → Truth → Truth} {unit : Truth} {assign : α → Truth}
    (same : ∀ first second,
      (connect first second).truth assign = combine (first.truth assign) (second.truth assign))
    (assoc : ∀ first second third,
      combine (combine first second) third = combine first (combine second third))
    (right_unit : ∀ truth, combine truth unit = truth) (nonempty : conditions ≠ []) :
    (chain connect neutral conditions).truth assign =
      (conditions.map fun condition => condition.truth assign).foldr combine unit := by
  obtain ⟨first, rest, rfl⟩ := List.exists_cons_of_ne_nil nonempty
  have general : (rest.foldl connect first).truth assign = combine (first.truth assign)
      ((rest.map fun condition => condition.truth assign).foldr combine unit) := by
    clear nonempty
    induction rest generalizing first with
    | nil => exact (right_unit _).symm
    | cons second rest inductionHypothesis =>
        rw [List.foldl_cons, inductionHypothesis, same, assoc]
        rfl
  exact general

theorem map_chain {image : α → β} {mapped : Condition β → Condition β → Condition β}
    (same : ∀ first second,
      (connect first second).map image = mapped (first.map image) (second.map image)) :
    (chain connect neutral conditions).map image =
      chain mapped (neutral.map image) (conditions.map fun condition => condition.map image) := by
  cases conditions with
  | nil => rfl
  | cons first rest =>
      change (rest.foldl connect first).map image = _
      induction rest generalizing first with
      | nil => rfl
      | cons second rest inductionHypothesis =>
          rw [List.foldl_cons, inductionHypothesis, List.map_cons, same]
          rfl

end Condition

/-! ## The grammar -/

/-- The operands of predicates: names, strings, numbers, timestamps, and calls with
whatever arguments. -/
inductive IsOperand : List Sign → Prop
  | identifier (name : String) : IsOperand [.identifier name]
  | string (value : String) : IsOperand [.string value]
  | word {letters : List Char} (free : (Sign.word letters).isReserved = false) :
      IsOperand [.word letters]
  | negative {letters : List Char} (free : (Sign.word letters).isReserved = false) :
      IsOperand [.mark '-', .word letters]
  | timestamp {keyword : Sign} (named : keyword.isKeyword "TIMESTAMP" = true) (value : String) :
      IsOperand [keyword, .string value]
  | call {letters : List Char} {arguments : List Sign}
      (free : (Sign.word letters).isReserved = false) (balanced : IsBalanced arguments) :
      IsOperand (.word letters :: .mark '(' :: arguments ++ [.mark ')'])

/-- The operators of comparisons. -/
inductive IsComparison : List Sign → Prop
  | mark {c : Char} (listed : c ∈ ['=', '<', '>', '~']) : IsComparison [.mark c]
  | atLeast : IsComparison [.mark '>', .mark '=']
  | regexp {keyword : Sign} (named : keyword.isKeyword "REGEXP" = true) : IsComparison [keyword]

/-- Predicates: comparisons, `LIKE` and calls. -/
inductive IsPredicate : List Sign → Prop
  | compare {left operator right : List Sign} (leftOperand : IsOperand left)
      (comparison : IsComparison operator) (rightOperand : IsOperand right) :
      IsPredicate (left ++ operator ++ right)
  | like {text pattern : List Sign} {keyword : Sign} (textOperand : IsOperand text)
      (named : keyword.isKeyword "LIKE" = true) (patternOperand : IsOperand pattern) :
      IsPredicate (text ++ keyword :: pattern)
  | likeEscape {text pattern : List Sign} {keyword escape : Sign} (textOperand : IsOperand text)
      (named : keyword.isKeyword "LIKE" = true) (patternOperand : IsOperand pattern)
      (escapeNamed : escape.isKeyword "ESCAPE" = true) (value : String) :
      IsPredicate (text ++ keyword :: pattern ++ [escape, .string value])
  | call {letters : List Char} {arguments : List Sign}
      (free : (Sign.word letters).isReserved = false) (balanced : IsBalanced arguments) :
      IsPredicate (.word letters :: .mark '(' :: arguments ++ [.mark ')'])

/-- How much a condition binds. -/
inductive Binding where
  | disjunction
  | conjunction
  | negation

/-- How signs are read as a condition that binds at least so much. -/
inductive Reads : Binding → List Sign → Condition (List Sign) → Prop
  | predicate {signs : List Sign} (shaped : IsPredicate signs) :
      Reads .negation signs (.leaf signs)
  | group {signs : List Sign} {condition : Condition (List Sign)}
      (inner : Reads .disjunction signs condition) :
      Reads .negation (.mark '(' :: signs ++ [.mark ')']) condition
  | not {keyword : Sign} {signs : List Sign} {condition : Condition (List Sign)}
      (named : keyword.isKeyword "NOT" = true) (operand : Reads .negation signs condition) :
      Reads .negation (keyword :: signs) (.not condition)
  | conjunct {signs : List Sign} {condition : Condition (List Sign)}
      (only : Reads .negation signs condition) : Reads .conjunction signs condition
  | and {keyword : Sign} {left right : List Sign} {first second : Condition (List Sign)}
      (leftRead : Reads .conjunction left first) (named : keyword.isKeyword "AND" = true)
      (rightRead : Reads .negation right second) :
      Reads .conjunction (left ++ keyword :: right) (.and first second)
  | disjunct {signs : List Sign} {condition : Condition (List Sign)}
      (only : Reads .conjunction signs condition) : Reads .disjunction signs condition
  | or {keyword : Sign} {left right : List Sign} {first second : Condition (List Sign)}
      (leftRead : Reads .disjunction left first) (named : keyword.isKeyword "OR" = true)
      (rightRead : Reads .conjunction right second) :
      Reads .disjunction (left ++ keyword :: right) (.or first second)

end Rollup.Sql
