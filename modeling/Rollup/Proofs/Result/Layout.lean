import Rollup.Proofs.Plan.Names
import Rollup.Proofs.Result.Row
import Rollup.Proofs.Schema.FieldMap

/-!
# Roles of columns

How the columns of a query's statement are bound.  An aggregation and a post-aggregation
are found under their own names, and a column that is grouped by is reported under
dimensions of the query only, since no output has the name of a grouping column.
-/

namespace Rollup

namespace Reconciler

variable {reconciler : Reconciler}

/-! ## Roles by name -/

theorem roleOf_aggregation {name : String} {aggregation : Aggregation}
    (found : reconciler.query.aggregation? name = some aggregation) :
    reconciler.roleOf name = .aggregation name aggregation.kind.isFloat := by
  rw [roleOf, found]

/-- Every output has one field, of its own name. -/
theorem names_roleOf_output {name : String}
    (output : name ∈ reconciler.query.aggregationNames ++ reconciler.query.postAggregationNames) :
    (reconciler.roleOf name).names = [name] := by
  unfold roleOf
  cases aggregated : reconciler.query.aggregation? name with
  | some aggregation => rfl
  | none =>
      cases reported : reconciler.query.postAggregation? name with
      | some post => rfl
      | none =>
          rcases List.mem_append.mp output with aggregation | post
          · exact absurd aggregation (Query.aggregation?_eq_none_iff.mp aggregated)
          · exact absurd post (Query.postAggregation?_eq_none_iff.mp reported)

/-- A column that is grouped by is reported under dimensions of the query only: where none of
them is mapped to it, it is that of a dimension that is not mapped at all. -/
theorem dimensionNames_subset {column : String}
    (grouped : column ∈ reconciler.query.dimensionColumns reconciler.fields) :
    reconciler.dimensionNames column ⊆ reconciler.query.groupingDimensions := by
  intro name reported
  unfold dimensionNames at reported
  obtain ⟨dimension, member, rfl⟩ := Query.mem_dimensionColumns_iff.mp grouped
  cases found : (reconciler.fields.toLogical (reconciler.fields.toPhysical dimension)).filter
      reconciler.query.groupsBy with
  | cons first rest =>
      rw [found] at reported
      have kept : name ∈ (reconciler.fields.toLogical
          (reconciler.fields.toPhysical dimension)).filter reconciler.query.groupsBy :=
        found ▸ reported
      exact List.contains_iff_mem.mp (List.mem_filter.mp kept).2
  | nil =>
      rw [found] at reported
      obtain rfl := List.mem_singleton.mp reported
      rcases FieldMap.mem_toLogical_toPhysical reconciler.fields dimension with logical | unmapped
      · have kept : dimension ∈ (reconciler.fields.toLogical
            (reconciler.fields.toPhysical dimension)).filter reconciler.query.groupsBy :=
          List.mem_filter.mpr ⟨logical, List.contains_iff_mem.mpr member⟩
        rw [found] at kept
        cases kept
      · rw [unmapped]
        exact member

/-- A column that is grouped by is a dimension. -/
theorem roleOf_dimension (names : reconciler.query.HasOutputNames reconciler.fields)
    {column : String} (grouped : column ∈ reconciler.query.dimensionColumns reconciler.fields) :
    reconciler.roleOf column = .dimension (reconciler.dimensionNames column) := by
  have noOutput : column ∉ reconciler.query.aggregationNames ++
      reconciler.query.postAggregationNames := fun output =>
    names.apart column output (Query.mem_groupingNames_of_column grouped)
  rw [List.mem_append, not_or] at noOutput
  rw [roleOf, Query.aggregation?_eq_none_iff.mpr noOutput.1,
    Query.postAggregation?_eq_none_iff.mpr noOutput.2]

theorem times_roleOf (column : String) (cell : Cell) :
    (reconciler.roleOf column).times cell = [] := by
  unfold roleOf
  cases reconciler.query.aggregation? column with
  | some aggregation => rfl
  | none => cases reconciler.query.postAggregation? column <;> rfl

/-! ## Layouts -/

/-- The time cells of a row are as many of its first cells as there are time columns. -/
theorem times_of_layout (columns : List String) (leading : Nat) (cells : List Cell) :
    ((List.replicate leading ColumnRole.time ++ columns.map reconciler.roleOf).zip cells).flatMap
      (fun column => column.1.times column.2) = cells.take leading := by
  induction leading generalizing cells with
  | zero =>
      rw [List.replicate_zero, List.nil_append, List.take_zero, List.flatMap_eq_nil_iff]
      rintro ⟨role, cell⟩ member
      obtain ⟨column, _, rfl⟩ := List.mem_map.mp (List.of_mem_zip member).1
      exact times_roleOf column cell
  | succ leading inductionHypothesis =>
      cases cells with
      | nil => rfl
      | cons cell rest =>
          rw [List.replicate_succ, List.cons_append, List.zip_cons_cons, List.flatMap_cons,
            inductionHypothesis, List.take_succ_cons]
          rfl

end Reconciler

end Rollup
