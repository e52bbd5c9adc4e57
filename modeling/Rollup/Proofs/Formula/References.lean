import Rollup.Proofs.Formula.Checked

/-!
# Aggregations that post-aggregations refer to

The aggregations that a post-aggregation refers to, in the order in which they are read from a
row.  A checked one refers to aggregations of its query only.
-/

namespace Rollup

namespace PostAggregation

mutual

/-- The aggregations that a post-aggregation refers to, from the left. -/
def references : PostAggregation → List String
  | .constant .. => []
  | .field aggregation => [aggregation]
  | .arithmetic _ _ fields => referencesOfList fields
  | .sketchEstimate _ operand => references operand
  | .sketchOperation _ _ fields _ => referencesOfList fields
termination_by structural post => post

/-- The aggregations that some post-aggregations refer to, from the left. -/
def referencesOfList : List PostAggregation → List String
  | [] => []
  | post :: rest => references post ++ referencesOfList rest
termination_by structural posts => posts

end

@[simp]
theorem referencesOfList_eq_flatMap (posts : List PostAggregation) :
    referencesOfList posts = posts.flatMap references := by
  induction posts with
  | nil => rfl
  | cons post rest inductionHypothesis =>
      rw [referencesOfList, inductionHypothesis, List.flatMap_cons]

@[simp]
theorem forall_references_arithmetic {P : String → Prop} {name : String}
    {operator : ArithmeticOperator} {fields : List PostAggregation} :
    (∀ aggregation ∈ (arithmetic name operator fields).references, P aggregation) ↔
      ∀ field ∈ fields, ∀ aggregation ∈ field.references, P aggregation := by
  rw [references, referencesOfList_eq_flatMap, List.forall_mem_flatMap]

/-- An operation on sketches refers to what its one operand refers to. -/
@[simp]
theorem references_sketchOperation (name : String) (operator : SetOperator)
    (operand : PostAggregation) (size : Option Nat) :
    (sketchOperation name operator [operand] size).references = operand.references :=
  List.append_nil _

/-- A checked post-aggregation refers to aggregations of its query. -/
theorem isSome_aggregation?_of_mem_references {query : Query} {post : PostAggregation}
    (checked : post.validate query = .ok ()) :
    ∀ aggregation ∈ post.references, (query.aggregation? aggregation).isSome := by
  refine checked_induction ?constant ?field ?arithmetic ?sketchEstimate ?sketchOperation
    post checked
  case constant =>
    intro name value
    exact List.forall_mem_nil _
  case field =>
    intro aggregation known
    exact List.forall_mem_singleton.mpr known
  case arithmetic =>
    intro name operator fields _ operands
    exact forall_references_arithmetic.mpr operands
  case sketchEstimate =>
    intro name operand inner
    exact inner
  case sketchOperation =>
    intro name operator operand size _ inner
    rw [references_sketchOperation]
    exact inner

end PostAggregation

namespace Arithmetic

variable {α : Type} (arithmetic : Arithmetic α) {row : String → Option String}

/-- Whether the text that a row holds for an aggregation, if any, is that of a number. -/
def Reads (row : String → Option String) (aggregation : String) : Prop :=
  ∀ text, row aggregation = some text → ∃ value, arithmetic.ofText? text = some value

end Arithmetic

end Rollup
