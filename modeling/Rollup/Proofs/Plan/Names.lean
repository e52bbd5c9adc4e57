import Rollup.Plan.Statement
import Rollup.Proofs.Formula.Checked

/-!
# Output names of checked queries

What the checks of a query leave of the names that its results take: those of
aggregations and of post-aggregations are all different, and none of them is a name of a
grouping column.
-/

namespace Rollup.Query

/-! ## New names -/

/-- Names that are all different, are not taken yet, and are no names of grouping
columns. -/
def Fresh (grouping taken names : List String) : Prop :=
  names.Nodup ∧ ∀ name ∈ names, name ∉ taken ∧ name ∉ grouping

theorem fresh_nil {grouping taken : List String} : Fresh grouping taken [] :=
  ⟨List.nodup_nil, List.forall_mem_nil _⟩

/-- Names are new in order: each takes its place before the next one is looked at. -/
@[simp]
theorem fresh_cons_iff {grouping taken : List String} {name : String} {names : List String} :
    Fresh grouping taken (name :: names) ↔
      (name ∉ taken ∧ name ∉ grouping) ∧ Fresh grouping (name :: taken) names := by
  unfold Fresh
  rw [List.nodup_cons, List.forall_mem_cons]
  constructor
  · rintro ⟨⟨new, distinct⟩, apart, others⟩
    refine ⟨apart, distinct, ?_⟩
    intro other member
    refine ⟨?_, (others other member).2⟩
    rw [List.mem_cons, not_or]
    exact ⟨fun same => new (same ▸ member), (others other member).1⟩
  · rintro ⟨apart, distinct, others⟩
    refine ⟨⟨?_, distinct⟩, apart, ?_⟩
    · intro member
      exact (others name member).1 List.mem_cons_self
    · intro other member
      exact ⟨fun before => (others other member).1 (List.mem_cons_of_mem _ before),
        (others other member).2⟩

@[simp]
theorem checkGrouping_eq_ok_iff {grouping : List String} {name : String} :
    checkGrouping grouping name = .ok () ↔ name ∉ grouping := by
  unfold checkGrouping
  by_cases found : name ∈ grouping
  · simp [found]
  · simp [found]

/-- Aggregations pass the check of their names exactly when each has one and all are
new. -/
theorem checkAggregationNames_eq_ok_iff {grouping taken : List String}
    {aggregations : List Aggregation} :
    checkAggregationNames grouping taken aggregations = .ok () ↔
      (∀ aggregation ∈ aggregations, aggregation.name ≠ "") ∧
        Fresh grouping taken (aggregations.map Aggregation.name) := by
  induction aggregations generalizing taken with
  | nil => simp [checkAggregationNames, fresh_nil]
  | cons aggregation rest inductionHypothesis =>
      rw [List.forall_mem_cons, List.map_cons, fresh_cons_iff]
      simp only [checkAggregationNames, check_eq_ok_iff, andThen_eq_ok_iff, inductionHypothesis,
        checkGrouping_eq_ok_iff, List.contains_iff_mem]
      constructor
      · rintro ⟨named, new, apart, others, fresh⟩
        exact ⟨⟨named, others⟩, ⟨new, apart⟩, fresh⟩
      · rintro ⟨⟨named, others⟩, ⟨new, apart⟩, fresh⟩
        exact ⟨named, new, apart, others, fresh⟩

/-- Post-aggregations without empty names pass the check of their names exactly when each
has one and all are new. -/
theorem checkPostAggregationNames_eq_ok_iff {grouping taken : List String}
    {posts : List PostAggregation} (notEmpty : ∀ post ∈ posts, post.name? ≠ some "") :
    checkPostAggregationNames grouping taken posts = .ok () ↔
      (∀ post ∈ posts, post.name?.isSome) ∧
        Fresh grouping taken (posts.filterMap PostAggregation.name?) := by
  induction posts generalizing taken with
  | nil => simp [checkPostAggregationNames, fresh_nil]
  | cons post rest inductionHypothesis =>
      obtain ⟨firstNotEmpty, restNotEmpty⟩ := List.forall_mem_cons.mp notEmpty
      rw [List.forall_mem_cons]
      cases named : post.name? with
      | none => simp [checkPostAggregationNames, named]
      | some name =>
          have nonempty : name ≠ "" := by
            rintro rfl
            exact firstNotEmpty named
          rw [List.filterMap_cons_some named, fresh_cons_iff]
          simp only [checkPostAggregationNames, named, check_eq_ok_iff, andThen_eq_ok_iff,
            inductionHypothesis restNotEmpty, checkGrouping_eq_ok_iff, List.contains_iff_mem]
          constructor
          · rintro ⟨new, apart, others, fresh⟩
            exact ⟨⟨rfl, others⟩, ⟨fun before => new ⟨nonempty, before⟩, apart⟩, fresh⟩
          · rintro ⟨⟨_, others⟩, ⟨new, apart⟩, fresh⟩
            exact ⟨fun before => new before.2, apart, others, fresh⟩

/-! ## Names of a query -/

/-- The names of the aggregations. -/
def aggregationNames (query : Query) : List String :=
  query.aggregations.map Aggregation.name

/-- The names of the post-aggregations that have one. -/
def postAggregationNames (query : Query) : List String :=
  query.postAggregations.filterMap PostAggregation.name?

variable {query : Query} {fields : FieldMap}

theorem aggregationNames_getElem? {index : Nat} {aggregation : Aggregation}
    (listed : query.aggregations[index]? = some aggregation) :
    query.aggregationNames[index]? = some aggregation.name := by
  rw [aggregationNames, List.getElem?_map, listed, Option.map_some]

@[simp]
theorem aggregation?_eq_none_iff {name : String} :
    query.aggregation? name = none ↔ name ∉ query.aggregationNames := by
  unfold aggregation? aggregationNames
  rw [List.find?_eq_none, List.mem_map]
  simp

@[simp]
theorem postAggregation?_eq_none_iff {name : String} :
    query.postAggregation? name = none ↔ name ∉ query.postAggregationNames := by
  unfold postAggregation? postAggregationNames
  rw [List.find?_eq_none, List.mem_filterMap]
  simp

/-- Where keys are different, each item is found by its own. -/
theorem find?_key_of_mem {α : Type} {key : α → String} {items : List α}
    (distinct : (items.map key).Nodup) {item : α} (listed : item ∈ items) :
    items.find? (fun other => key other == key item) = some item := by
  induction items with
  | nil => cases listed
  | cons first rest inductionHypothesis =>
      rw [List.map_cons, List.nodup_cons] at distinct
      rcases List.mem_cons.mp listed with rfl | later
      · exact List.find?_cons_of_pos (beq_self_eq_true (key item))
      · have different : key first ≠ key item := fun same =>
          distinct.1 (same ▸ List.mem_map_of_mem later)
        rw [List.find?_cons_of_neg (by simpa using different)]
        exact inductionHypothesis distinct.2 later

/-- Aggregations with different names are found by them. -/
theorem aggregation?_of_mem (distinct : query.aggregationNames.Nodup) {aggregation : Aggregation}
    (listed : aggregation ∈ query.aggregations) :
    query.aggregation? aggregation.name = some aggregation :=
  find?_key_of_mem distinct listed

/-! ## Grouping columns -/

@[simp]
theorem mem_distinctFrom_iff {name : String} {seen names : List String} :
    name ∈ distinctFrom seen names ↔ name ∈ names ∧ name ∉ seen := by
  induction names generalizing seen with
  | nil => simp [distinctFrom]
  | cons first rest inductionHypothesis =>
      by_cases known : first ∈ seen
      · simp only [distinctFrom, List.contains_iff_mem, if_pos known, inductionHypothesis,
          List.mem_cons]
        constructor
        · rintro ⟨later, new⟩
          exact ⟨.inr later, new⟩
        · rintro ⟨rfl | later, new⟩
          · exact absurd known new
          · exact ⟨later, new⟩
      · simp only [distinctFrom, List.contains_iff_mem, if_neg known, inductionHypothesis,
          List.mem_cons, not_or]
        by_cases same : name = first
        · simp [same, known]
        · simp [same]

theorem nodup_distinctFrom (seen names : List String) : (distinctFrom seen names).Nodup := by
  induction names generalizing seen with
  | nil => exact List.nodup_nil
  | cons first rest inductionHypothesis =>
      by_cases known : first ∈ seen
      · rw [distinctFrom, if_pos (List.contains_iff_mem.mpr known)]
        exact inductionHypothesis seen
      · rw [distinctFrom, if_neg (mt List.contains_iff_mem.mp known), List.nodup_cons]
        refine ⟨?_, inductionHypothesis (first :: seen)⟩
        intro again
        exact (mem_distinctFrom_iff.mp again).2 List.mem_cons_self

theorem nodup_dimensionColumns (query : Query) (fields : FieldMap) :
    (query.dimensionColumns fields).Nodup :=
  nodup_distinctFrom [] _

@[simp]
theorem mem_dimensionColumns_iff {column : String} :
    column ∈ query.dimensionColumns fields ↔
      ∃ dimension ∈ query.groupingDimensions, fields.toPhysical dimension = column := by
  rw [dimensionColumns, mem_distinctFrom_iff, List.mem_map]
  simp

theorem mem_groupingNames_of_dimension {dimension : String}
    (grouped : dimension ∈ query.groupingDimensions) :
    dimension ∈ query.groupingNames fields :=
  List.mem_append_left _ (List.mem_flatMap.mpr ⟨dimension, grouped, List.mem_cons_self⟩)

theorem mem_groupingNames_of_column {column : String}
    (grouped : column ∈ query.dimensionColumns fields) : column ∈ query.groupingNames fields := by
  obtain ⟨dimension, member, rfl⟩ := mem_dimensionColumns_iff.mp grouped
  exact List.mem_append_left _ (List.mem_flatMap.mpr
    ⟨dimension, member, List.mem_cons_of_mem _ List.mem_cons_self⟩)

/-! ## Checked queries -/

/-- The outputs of a query have names, which are all different and apart from those of the
grouping columns. -/
structure HasOutputNames (query : Query) (fields : FieldMap) : Prop where
  postsNamed : ∀ post ∈ query.postAggregations, post.name?.isSome
  distinct : (query.aggregationNames ++ query.postAggregationNames).Nodup
  apart : ∀ name ∈ query.aggregationNames ++ query.postAggregationNames,
    name ∉ query.groupingNames fields

/-- A checked query whose post-aggregations are checked has output names. -/
theorem hasOutputNames_of_check (checked : query.check fields = .ok ())
    (postsChecked : PostAggregation.validateList query query.postAggregations = .ok ()) :
    query.HasOutputNames fields := by
  simp only [check, andThen_eq_ok_iff, checkAggregationNames_eq_ok_iff] at checked
  obtain ⟨_, _, ⟨_, aggregationsFresh⟩, posts⟩ := checked
  have notEmpty : ∀ post ∈ query.postAggregations, post.name? ≠ some "" :=
    fun post member => PostAggregation.name?_ne_empty_of_validate
      (PostAggregation.validateList_eq_ok_iff.mp postsChecked post member)
  obtain ⟨named, postsFresh⟩ := (checkPostAggregationNames_eq_ok_iff notEmpty).mp posts
  refine ⟨named, ?_, ?_⟩
  · rw [List.nodup_append]
    refine ⟨aggregationsFresh.1, postsFresh.1, ?_⟩
    rintro name aggregated _ reported rfl
    exact (postsFresh.2 name reported).1 aggregated
  · intro name member
    rcases List.mem_append.mp member with aggregated | reported
    · exact (aggregationsFresh.2 name aggregated).2
    · exact (postsFresh.2 name reported).2

end Rollup.Query
