import Rollup.Document.Query
import Rollup.Proofs.Document.Leaves
import Rollup.Proofs.Plan.Floats

/-!
# The doubles of queries in documents

The constants of having trees and the floating-point constants of post-aggregations are read
from leaves of the document of a query, at whatever depth they stand.  Decoding neither checks
nor changes them.
-/

namespace Rollup

open Document

variable {P : Double → Prop} {form : Form}

/-! ## Having trees -/

namespace Having

theorem carries_decodeComparison (comparison : Comparison) :
    Carries P (decodeComparison comparison) fun having => ∀ value ∈ having.thresholds, P value := by
  intro document having doubles found
  obtain ⟨given, foundFields, found⟩ := bind_eq_ok_iff.mp found
  obtain ⟨name, _, found⟩ := bind_eq_ok_iff.mp found
  obtain ⟨value, foundValue, built⟩ := bind_eq_ok_iff.mp found
  cases built
  rw [thresholds_compare, List.forall_mem_singleton]
  exact carries_toDouble.required (forallDoubles_of_fields doubles foundFields) foundValue

/-- The constants of a having tree that is decoded are doubles of the document. -/
theorem carries_decodeWithin (fuel : Nat) (form : Form) :
    Carries P (decodeWithin fuel form) fun having => ∀ value ∈ having.thresholds, P value := by
  induction fuel generalizing form with
  | zero =>
      intro document having _ found
      cases found
  | succ fuel inductionHypothesis =>
      intro document having doubles found
      obtain ⟨⟨type, rest⟩, foundType, found⟩ := bind_eq_ok_iff.mp found
      have inside := forallDoubles_of_tagged doubles foundType
      have clauses {given : Given} {found : List Having} {names : List String}
          (foundFields : fields .resolved names rest = .ok given)
          (foundClauses : required given "havingSpecs" (toList (decodeWithin fuel .resolved)) =
            .ok found) : ∀ value ∈ found.flatMap thresholds, P value := by
        rw [List.forall_mem_flatMap]
        exact (inductionHypothesis .resolved).toList.required
          (forallDoubles_of_fields inside foundFields) foundClauses
      dsimp only at found
      split at found
      · exact carries_decodeComparison _ rest having inside found
      · exact carries_decodeComparison _ rest having inside found
      · exact carries_decodeComparison _ rest having inside found
      · obtain ⟨given, foundFields, found⟩ := bind_eq_ok_iff.mp found
        obtain ⟨operands, foundClauses, built⟩ := bind_eq_ok_iff.mp found
        cases built
        rw [thresholds_all]
        exact clauses foundFields foundClauses
      · obtain ⟨given, foundFields, found⟩ := bind_eq_ok_iff.mp found
        obtain ⟨operands, foundClauses, built⟩ := bind_eq_ok_iff.mp found
        cases built
        rw [thresholds_any]
        exact clauses foundFields foundClauses
      · obtain ⟨given, foundFields, found⟩ := bind_eq_ok_iff.mp found
        obtain ⟨operand, foundClause, built⟩ := bind_eq_ok_iff.mp found
        cases built
        rw [thresholds_not]
        exact (inductionHypothesis .resolved).required
          (forallDoubles_of_fields inside foundFields) foundClause
      · obtain ⟨given, foundFields, found⟩ := bind_eq_ok_iff.mp found
        obtain ⟨connective, _, found⟩ := bind_eq_ok_iff.mp found
        obtain ⟨operands, foundClauses, built⟩ := bind_eq_ok_iff.mp found
        cases built
        rw [thresholds_multi]
        exact clauses foundFields foundClauses

end Having

/-! ## Post-aggregations -/

namespace PostAggregation

/-- The floating-point constants of a post-aggregation that is decoded are doubles of the
document. -/
theorem carries_decodeWithin (fuel : Nat) (form : Form) :
    Carries P (decodeWithin fuel form) fun post => ∀ value, .float value ∈ post.constants →
      P value := by
  induction fuel generalizing form with
  | zero =>
      intro document post _ found
      cases found
  | succ fuel inductionHypothesis =>
      intro document post doubles found
      obtain ⟨⟨type, rest⟩, foundType, found⟩ := bind_eq_ok_iff.mp found
      have inside := forallDoubles_of_tagged doubles foundType
      have operands {given : Given} {found : List PostAggregation} {names : List String}
          (foundFields : fields .resolved names rest = .ok given)
          (foundOperands : required given "fields" (toList (decodeWithin fuel .resolved)) =
            .ok found) : ∀ value, .float value ∈ constantsOfList found → P value := by
        intro value listed
        rw [constantsOfList_eq_flatMap, List.mem_flatMap] at listed
        obtain ⟨operand, member, constant⟩ := listed
        exact (inductionHypothesis .resolved).toList.required
          (forallDoubles_of_fields inside foundFields) foundOperands operand member value constant
      dsimp only at found
      split at found
      · obtain ⟨given, foundFields, found⟩ := bind_eq_ok_iff.mp found
        obtain ⟨name, _, found⟩ := bind_eq_ok_iff.mp found
        obtain ⟨number, foundNumber, built⟩ := bind_eq_ok_iff.mp found
        cases built
        intro value listed
        exact carries_toNumber.required (forallDoubles_of_fields inside foundFields) foundNumber
          value (List.mem_singleton.mp listed).symm
      · obtain ⟨given, foundFields, found⟩ := bind_eq_ok_iff.mp found
        obtain ⟨name, _, built⟩ := bind_eq_ok_iff.mp found
        cases built
        exact fun value listed => absurd listed List.not_mem_nil
      · obtain ⟨given, foundFields, found⟩ := bind_eq_ok_iff.mp found
        obtain ⟨name, _, found⟩ := bind_eq_ok_iff.mp found
        obtain ⟨operator, _, found⟩ := bind_eq_ok_iff.mp found
        obtain ⟨decoded, foundOperands, built⟩ := bind_eq_ok_iff.mp found
        cases built
        exact operands foundFields foundOperands
      · obtain ⟨given, foundFields, found⟩ := bind_eq_ok_iff.mp found
        obtain ⟨name, _, found⟩ := bind_eq_ok_iff.mp found
        obtain ⟨operand, foundOperand, built⟩ := bind_eq_ok_iff.mp found
        cases built
        have inner : ∀ value, .float value ∈ operand.constants → P value :=
          (inductionHypothesis .resolved).required
            (forallDoubles_of_fields inside foundFields) foundOperand
        exact inner
      · obtain ⟨given, foundFields, found⟩ := bind_eq_ok_iff.mp found
        obtain ⟨name, _, found⟩ := bind_eq_ok_iff.mp found
        obtain ⟨operator, _, found⟩ := bind_eq_ok_iff.mp found
        obtain ⟨decoded, foundOperands, found⟩ := bind_eq_ok_iff.mp found
        obtain ⟨size, _, built⟩ := bind_eq_ok_iff.mp found
        cases built
        exact operands foundFields foundOperands

end PostAggregation

/-! ## Queries -/

namespace Query

/-- Whether every double of a query has a property: the constants that its having tree
compares with and the floating-point constants of its post-aggregations. -/
structure ForallDoubles (P : Double → Prop) (query : Query) : Prop where
  having : ∀ having ∈ query.having, ∀ value ∈ having.thresholds, P value
  posts : ∀ post ∈ query.postAggregations, ∀ value, .float value ∈ post.constants → P value

/-- A query with one more field has only doubles of its document: post-aggregations and the
having tree are the fields that hold any. -/
theorem ForallDoubles.withField {query decoded : Query} {name : String} {document : Document}
    (holds : query.ForallDoubles P) (doubles : document.ForallDoubles P)
    (found : query.withField form name document = .ok decoded) : decoded.ForallDoubles P := by
  unfold Query.withField at found
  split at found
  case h_8 =>
    obtain ⟨posts, foundPosts, built⟩ := bind_eq_ok_iff.mp found
    cases built
    have decode : Carries P (PostAggregation.decode form) fun post =>
        ∀ value, .float value ∈ post.constants → P value :=
      fun document => PostAggregation.carries_decodeWithin _ form document
    exact ⟨holds.having, decode.toList document posts doubles foundPosts⟩
  case h_9 =>
    obtain ⟨having, foundHaving, built⟩ := bind_eq_ok_iff.mp found
    cases built
    have decode : Carries P (Having.decode form) fun having => ∀ value ∈ having.thresholds,
        P value :=
      fun document => Having.carries_decodeWithin _ form document
    exact ⟨decode.toOptional document having doubles foundHaving, holds.posts⟩
  case h_14 =>
    cases found
    exact holds
  all_goals
    obtain ⟨_, _, built⟩ := bind_eq_ok_iff.mp found
    cases built
    exact ⟨holds.having, holds.posts⟩

theorem ForallDoubles.withFields {query decoded : Query} {given : Given}
    (holds : query.ForallDoubles P) (doubles : ∀ field ∈ given, field.2.ForallDoubles P)
    (found : withFields form query given = .ok decoded) : decoded.ForallDoubles P := by
  induction given generalizing query with
  | nil =>
      cases found
      exact holds
  | cons field rest inductionHypothesis =>
      rw [List.forall_mem_cons] at doubles
      obtain ⟨extended, foundField, found⟩ := bind_eq_ok_iff.mp found
      exact inductionHypothesis (holds.withField doubles.1 foundField) doubles.2 found

/-- Every double of a query that is decoded is one of the document. -/
theorem carries_decode (form : Form) : Carries P (decode form) (ForallDoubles P) := by
  intro document query doubles found
  obtain ⟨given, foundFields, found⟩ := bind_eq_ok_iff.mp found
  obtain ⟨decoded, foundDecoded, found⟩ := bind_eq_ok_iff.mp found
  have empty : ForallDoubles P { dataSource := "" } :=
    ⟨fun _ listed => (nomatch listed), List.forall_mem_nil _⟩
  have holds := empty.withFields (forallDoubles_of_fields doubles foundFields) foundDecoded
  split at found
  · cases found
    exact holds
  · cases found

end Query

end Rollup
