import Rollup.Proofs.Formula.References

/-!
# Values of checked post-aggregations

What a post-aggregation denotes once the values of the aggregations are known.  A checked
one always has its value computed: no error is left for it but a text that is no number.
-/

namespace Rollup

namespace Arithmetic

variable {α : Type} (arithmetic : Arithmetic α)

mutual

/-- The value of a post-aggregation over the values of the aggregations. -/
def valueOf (values : String → Option α) : PostAggregation → Option α
  | .constant _ value => arithmetic.ofNumber? value
  | .field aggregation => values aggregation
  | .arithmetic _ operator fields => arithmetic.apply operator (valuesOf values fields)
  | .sketchEstimate _ operand => valueOf values operand
  | .sketchOperation _ _ [operand] _ => valueOf values operand
  | .sketchOperation .. => none
termination_by structural post => post

/-- The values of some post-aggregations over the values of the aggregations. -/
def valuesOf (values : String → Option α) : List PostAggregation → List (Option α)
  | [] => []
  | post :: rest => valueOf values post :: valuesOf values rest
termination_by structural posts => posts

end

@[simp]
theorem valuesOf_eq_map (values : String → Option α) (posts : List PostAggregation) :
    arithmetic.valuesOf values posts = posts.map (arithmetic.valueOf values) := by
  induction posts with
  | nil => rfl
  | cons post rest inductionHypothesis => rw [valuesOf, inductionHypothesis, List.map_cons]

/-- The value of a post-aggregation depends on the aggregations that it refers to alone. -/
theorem valueOf_congr {values others : String → Option α} {post : PostAggregation} :
    (∀ aggregation ∈ post.references, values aggregation = others aggregation) →
      arithmetic.valueOf values post = arithmetic.valueOf others post := by
  induction post using PostAggregation.induction with
  | constant name value => exact fun _ => rfl
  | field aggregation => exact fun same => same aggregation (List.mem_singleton_self _)
  | arithmetic name operator fields operands =>
      intro same
      rw [PostAggregation.forall_references_arithmetic] at same
      rw [valueOf, valueOf, valuesOf_eq_map, valuesOf_eq_map]
      congr 1
      exact List.map_congr_left fun field listed => operands field listed (same field listed)
  | sketchEstimate name operand inner => exact inner
  | sketchOperation name operator fields size operands =>
      intro same
      rcases fields with _ | ⟨operand, _ | ⟨second, rest⟩⟩
      · rfl
      · rw [PostAggregation.references_sketchOperation] at same
        exact operands operand (List.mem_singleton_self _) same
      · rfl

/-- Operands that each have their value computed have all of them computed, in order. -/
theorem evaluateList_eq_valuesOf {row : String → Option String} {values : String → Option α}
    {fields : List PostAggregation}
    (operands : ∀ field ∈ fields,
      arithmetic.evaluate row field = .ok (arithmetic.valueOf values field)) :
    arithmetic.evaluateList row fields = .ok (arithmetic.valuesOf values fields) := by
  induction fields with
  | nil => rfl
  | cons field rest inductionHypothesis =>
      obtain ⟨first, others⟩ := List.forall_mem_cons.mp operands
      rw [evaluateList, first, inductionHypothesis others]
      rfl

/-- On a row from which every aggregation that it refers to can be read, a checked
post-aggregation has its value over the values that are read. -/
theorem evaluate_eq_valueOf {query : Query} {row : String → Option String}
    {post : PostAggregation} (checked : post.validate query = .ok ()) :
    (∀ aggregation ∈ post.references, arithmetic.Reads row aggregation) →
      arithmetic.evaluate row post =
        .ok (arithmetic.valueOf (fun name => (row name).bind arithmetic.ofText?) post) := by
  refine PostAggregation.checked_induction ?constant ?field ?arithmetic ?sketchEstimate
    ?sketchOperation post checked
  case constant =>
    intro name value _
    rfl
  case field =>
    intro aggregation _ readable
    rw [evaluate, valueOf]
    cases held : row aggregation with
    | none => rfl
    | some text =>
        obtain ⟨value, found⟩ := readable aggregation (List.mem_singleton_self _) text held
        simp only [read, Option.bind_some, found]
        rfl
  case arithmetic =>
    intro name operator fields arity operands readable
    rw [PostAggregation.forall_references_arithmetic] at readable
    have each := fun field listed => operands field listed (readable field listed)
    rw [evaluate, arity, arithmetic.evaluateList_eq_valuesOf each]
    rfl
  case sketchEstimate =>
    intro name operand computed
    exact computed
  case sketchOperation =>
    intro name operator operand size sized computed readable
    rw [PostAggregation.references_sketchOperation] at readable
    rw [evaluate]
    exact check_eq_ok_iff.mpr ⟨sized, computed readable⟩

end Arithmetic

end Rollup
