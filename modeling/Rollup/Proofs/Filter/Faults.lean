import Rollup.Proofs.Filter.Meaning

/-!
# Faults of filters

Why a filter has no condition.  Every node of a filter is faulty or not on its own, whatever
stands above, below and beside it.  A filter without faulty nodes has a condition, and any
other is refused with the fault of its first faulty node, each node coming before the nodes
below it and those below a connective in their order.
-/

namespace Rollup

open Sql

namespace Filter

/-! ## Nodes -/

mutual

/-- The nodes of a filter, each in front of those below it. -/
def nodes : Filter → List Filter
  | .all filters => .all filters :: nodesOfList filters
  | .any filters => .any filters :: nodesOfList filters
  | .not filter => .not filter :: filter.nodes
  | .selector dimension value => [.selector dimension value]
  | .regex dimension pattern => [.regex dimension pattern]
  | .search dimension wanted => [.search dimension wanted]
  | .oneOf dimension values => [.oneOf dimension values]
termination_by structural filter => filter

/-- The nodes of some filters. -/
def nodesOfList : List Filter → List Filter
  | [] => []
  | filter :: rest => filter.nodes ++ nodesOfList rest
termination_by structural filters => filters

end

/-- The dimension that a node names, if it is a leaf. -/
def dimension? : Filter → Option String
  | .selector dimension _ => some dimension
  | .regex dimension _ => some dimension
  | .search dimension _ => some dimension
  | .oneOf dimension _ => some dimension
  | .all _ => none
  | .any _ => none
  | .not _ => none

/-- Whether a node that needs operands or values has none. -/
def isEmpty : Filter → Bool
  | .oneOf _ values => values.isEmpty
  | .all filters => filters.isEmpty
  | .any filters => filters.isEmpty
  | _ => false

@[simp]
theorem nodesOfList_eq_flatMap (filters : List Filter) :
    nodesOfList filters = filters.flatMap nodes := by
  induction filters with
  | nil => rfl
  | cons filter rest inductionHypothesis =>
      rw [nodesOfList, inductionHypothesis, List.flatMap_cons]

@[simp]
theorem dimensionsOfList_eq_flatMap (filters : List Filter) :
    dimensionsOfList filters = filters.flatMap dimensions := by
  induction filters with
  | nil => rfl
  | cons filter rest inductionHypothesis =>
      rw [dimensionsOfList, inductionHypothesis, List.flatMap_cons]

/-- The dimensions of a filter are those that its nodes name.  A connective names none itself. -/
theorem dimensions_eq_filterMap (filter : Filter) :
    filter.dimensions = filter.nodes.filterMap dimension? := by
  have operands {filters : List Filter}
      (each : ∀ filter ∈ filters, filter.dimensions = filter.nodes.filterMap dimension?) :
      dimensionsOfList filters = (nodesOfList filters).filterMap dimension? := by
    rw [dimensionsOfList_eq_flatMap, nodesOfList_eq_flatMap, List.filterMap_flatMap]
    exact List.flatMap_congr each
  induction filter using Filter.induction with
  | selector dimension value => rfl
  | regex dimension pattern => rfl
  | search dimension wanted => rfl
  | oneOf dimension values => rfl
  | all filters each => exact operands each
  | any filters each => exact operands each
  | not filter negated => exact negated

end Filter

namespace FilterScope

variable (scope : FilterScope)

/-! ## Faults of a node -/

/-- The fault of a leaf that names a dimension that is neither mapped nor grouped by. -/
def unknownDimension? (node : Filter) : Option Error :=
  match node.dimension? with
  | some dimension =>
      if scope.knows dimension then none else some (.unknownName (.filterDimension dimension))
  | none => none

/-- The fault of a leaf that the dialect, or any dialect, has no predicate for. -/
def unsupported? : Filter → Option Error
  | .regex _ pattern =>
      if scope.dialect = .sqlite then some (.unsupported (.regexFilter pattern)) else none
  | .search dimension wanted =>
      if wanted.mode = .fragment then some (.unsupported (.fragmentSearch dimension)) else none
  | _ => none

/-- The fault of a node itself.  One without operands is not looked into further, and the
dimension of a leaf comes before what is asked of it. -/
def fault? (node : Filter) : Option Error :=
  (if node.isEmpty then some (.arity node.typeName "at least 1" 0) else none).or
    ((scope.unknownDimension? node).or (scope.unsupported? node))

/-- A filter that can be compiled in a scope, whatever its shape. -/
structure Admits (filter : Filter) : Prop where
  /-- Connectives have operands, and lists of values have values. -/
  nonempty : ∀ node ∈ filter.nodes, node.isEmpty = false
  /-- Each dimension is mapped or grouped by. -/
  known : ∀ dimension ∈ filter.dimensions,
    scope.fields.isMapped dimension = true ∨ dimension ∈ scope.query.groupingDimensions
  noFragments : ∀ dimension wanted, .search dimension wanted ∈ filter.nodes →
    wanted.mode ≠ .fragment
  noRegex : scope.dialect = .sqlite → ∀ dimension pattern, .regex dimension pattern ∉ filter.nodes

variable {scope}

theorem knows_iff {dimension : String} :
    scope.knows dimension = true ↔
      scope.fields.isMapped dimension = true ∨ dimension ∈ scope.query.groupingDimensions := by
  rw [knows, Bool.or_eq_true, Query.groupsBy, List.contains_iff_mem]

theorem unknownDimension?_eq_none_iff {node : Filter} :
    scope.unknownDimension? node = none ↔
      ∀ dimension, node.dimension? = some dimension → scope.knows dimension = true := by
  unfold unknownDimension?
  cases node.dimension? <;> simp

theorem unsupported?_eq_none_iff {node : Filter} :
    scope.unsupported? node = none ↔
      (∀ dimension wanted, node = .search dimension wanted → wanted.mode ≠ .fragment) ∧
        (scope.dialect = .sqlite → ∀ dimension pattern, node ≠ .regex dimension pattern) := by
  cases node <;> simp [unsupported?]

theorem fault?_eq_none_iff {node : Filter} :
    scope.fault? node = none ↔
      node.isEmpty = false ∧ scope.unknownDimension? node = none ∧
        scope.unsupported? node = none := by
  rw [fault?, Option.or_eq_none_iff, Option.or_eq_none_iff]
  cases node.isEmpty <;> simp

/-- A filter is admitted exactly if none of its nodes is faulty. -/
theorem admits_iff {filter : Filter} :
    scope.Admits filter ↔ ∀ node ∈ filter.nodes, scope.fault? node = none := by
  constructor
  · intro admitted node listed
    refine fault?_eq_none_iff.mpr ⟨admitted.nonempty node listed, ?_, ?_⟩
    · rw [unknownDimension?_eq_none_iff]
      intro dimension named
      refine knows_iff.mpr (admitted.known dimension ?_)
      rw [Filter.dimensions_eq_filterMap, List.mem_filterMap]
      exact ⟨node, listed, named⟩
    · rw [unsupported?_eq_none_iff]
      constructor
      · rintro dimension wanted rfl
        exact admitted.noFragments dimension wanted listed
      · rintro lacksRegex dimension pattern rfl
        exact admitted.noRegex lacksRegex dimension pattern listed
  · intro sound
    have sound (node) (listed : node ∈ filter.nodes) := fault?_eq_none_iff.mp (sound node listed)
    refine ⟨fun node listed => (sound node listed).1, ?known, ?noFragments, ?noRegex⟩
    case known =>
      intro dimension named
      rw [Filter.dimensions_eq_filterMap, List.mem_filterMap] at named
      obtain ⟨node, listed, names⟩ := named
      exact knows_iff.mp (unknownDimension?_eq_none_iff.mp (sound node listed).2.1 dimension names)
    case noFragments =>
      intro dimension wanted listed
      exact (unsupported?_eq_none_iff.mp (sound _ listed).2.2).1 dimension wanted rfl
    case noRegex =>
      intro lacksRegex dimension pattern listed
      exact (unsupported?_eq_none_iff.mp (sound _ listed).2.2).2 lacksRegex dimension pattern rfl

/-! ## Faults of a filter -/

theorem failure?_column (node : Filter) {dimension : String}
    (named : node.dimension? = some dimension) :
    failure? (scope.column dimension) = scope.unknownDimension? node := by
  rw [unknownDimension?, named, column]
  dsimp only
  split <;> rfl

theorem failure?_matchesRegex (dimension : String) (column : Expr) (pattern : String) :
    failure? (scope.dialect.matchesRegex column pattern) =
      scope.unsupported? (.regex dimension pattern) := by
  rw [unsupported?]
  cases scope.dialect <;> rfl

/-- What a filter is refused with is the fault of its first faulty node: operands are compiled
in order, each with all its nodes before the next one. -/
theorem failure?_condition (filter : Filter) :
    failure? (scope.condition filter) = filter.nodes.findSome? scope.fault? := by
  have operands {filters : List Filter}
      (each : ∀ filter ∈ filters,
        failure? (scope.condition filter) = filter.nodes.findSome? scope.fault?) :
      failure? (scope.conditions filters) =
        (Filter.nodesOfList filters).findSome? scope.fault? := by
    rw [Filter.nodesOfList_eq_flatMap]
    exact failure?_collected scope.conditions rfl (fun _ _ => rfl) each
  induction filter using Filter.induction with
  | selector dimension value =>
      rw [condition, failure?_bind_of_ok fun _ => rfl, Filter.nodes, List.findSome?_singleton,
        failure?_column (.selector dimension value) rfl]
      exact (Option.or_none).symm
  | regex dimension pattern =>
      rw [condition, failure?_bind fun _ => failure?_matchesRegex dimension _ pattern,
        Filter.nodes, List.findSome?_singleton, failure?_column (.regex dimension pattern) rfl]
      rfl
  | search dimension wanted =>
      rw [condition, searchCondition, Filter.nodes, List.findSome?_singleton,
        failure?_bind, failure?_column (.search dimension wanted) rfl]
      · rfl
      · intro column
        rw [unsupported?]
        cases wanted.mode <;> rfl
  | oneOf dimension values =>
      rw [condition, membershipCondition, failure?_check, failure?_bind_of_ok fun _ => rfl,
        Filter.nodes, List.findSome?_singleton, failure?_column (.oneOf dimension values) rfl]
      exact congrArg _ (Option.or_none).symm
  | all filters each =>
      rw [condition, failure?_check, failure?_bind_of_ok fun _ => rfl, operands each,
        Filter.nodes, findSome?_cons_eq_or]
      exact congrArg (Option.or · _) (Option.or_none).symm
  | any filters each =>
      rw [condition, failure?_check, failure?_bind_of_ok fun _ => rfl, operands each,
        Filter.nodes, findSome?_cons_eq_or]
      exact congrArg (Option.or · _) (Option.or_none).symm
  | not filter negated =>
      rw [condition, failure?_bind_of_ok fun _ => rfl, negated, Filter.nodes,
        findSome?_cons_eq_or]
      rfl

/-! ## Refused filters -/

/-- A filter has a condition exactly if it is admitted: its connectives have operands and its
lists of values have values, its dimensions are mapped or grouped by, and there is nothing in
it that the dialect has no predicate for.  Any other filter is refused with the fault of the
first faulty node, the nodes before which are not faulty. -/
theorem condition_refused_for_first_fault (scope : FilterScope) (filter : Filter) :
    ((∃ expr, scope.condition filter = .ok expr) ↔ scope.Admits filter) ∧
      ∀ error, scope.condition filter = .error error ↔
        ∃ before node after, filter.nodes = before ++ node :: after ∧
          scope.fault? node = some error ∧ ∀ earlier ∈ before, scope.fault? earlier = none := by
  constructor
  · rw [← failure?_eq_none_iff, failure?_condition, List.findSome?_eq_none_iff, admits_iff]
  · intro error
    rw [← failure?_eq_some_iff, failure?_condition, List.findSome?_eq_some_iff]

/-- The unknown dimension comes before the missing predicate for regular expressions, which is a
fault of the same node, and before the connective without operands. -/
example :
    let scope : FilterScope := ⟨.sqlite, ⟨[("region", "region_cd")]⟩, { dataSource := "sales" }⟩
    scope.condition (.all [.selector "region" "US", .not (.regex "city" "^B"), .any []]) =
      .error (.unknownName (.filterDimension "city")) := by
  rfl

end FilterScope

end Rollup
