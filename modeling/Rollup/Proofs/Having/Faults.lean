import Rollup.Proofs.Plan.Conditions

/-!
# Faults of having trees

Why a having tree has no condition over the aggregates of a statement.  A comparison is faulty
if no aggregate has its name, and a connective if it has no clauses.  A tree without faulty
nodes has a condition, and any other is refused with the fault of its first faulty node, each
node coming before the nodes below it and those below a connective in their order.
-/

namespace Rollup

open Sql

namespace Having

/-! ## Nodes -/

mutual

/-- The nodes of a having tree, each in front of those below it. -/
def nodes : Having → List Having
  | .compare aggregation comparison value => [.compare aggregation comparison value]
  | .all clauses => .all clauses :: nodesOfList clauses
  | .any clauses => .any clauses :: nodesOfList clauses
  | .not clause => .not clause :: clause.nodes
  | .multi connective clauses => .multi connective clauses :: nodesOfList clauses
termination_by structural having => having

/-- The nodes of some having trees. -/
def nodesOfList : List Having → List Having
  | [] => []
  | clause :: rest => clause.nodes ++ nodesOfList rest
termination_by structural clauses => clauses

end

@[simp]
theorem nodesOfList_eq_flatMap (clauses : List Having) :
    nodesOfList clauses = clauses.flatMap nodes := by
  induction clauses with
  | nil => rfl
  | cons clause rest inductionHypothesis =>
      rw [nodesOfList, inductionHypothesis, List.flatMap_cons]

/-! ## Faults of a node -/

/-- The fault of a connective of a name without clauses. -/
def noClauses? (name : String) (clauses : List Having) : Option Error :=
  if clauses = [] then some (.arity name "at least 1" 0) else none

/-- The fault of a node itself, over the aggregates of a statement. -/
def fault? (aggregates : List Aggregate) : Having → Option Error
  | .compare name _ _ =>
      if name ∈ aggregates.map Aggregate.name then none
      else some (.unknownName (.havingAggregation name))
  | .all clauses => noClauses? "and" clauses
  | .any clauses => noClauses? "or" clauses
  | .not _ => none
  | .multi _ clauses => noClauses? "multi" clauses

/-- A having tree that can be compiled over some aggregates, whatever its shape. -/
structure Admits (aggregates : List Aggregate) (having : Having) : Prop where
  /-- Each comparison is with the aggregate of a name that is there. -/
  known : ∀ name comparison value, .compare name comparison value ∈ having.nodes →
    name ∈ aggregates.map Aggregate.name
  noEmptyAll : .all [] ∉ having.nodes
  noEmptyAny : .any [] ∉ having.nodes
  noEmptyMulti : ∀ connective, .multi connective [] ∉ having.nodes

variable {aggregates : List Aggregate}

@[simp]
theorem noClauses?_eq_none_iff {name : String} {clauses : List Having} :
    noClauses? name clauses = none ↔ clauses ≠ [] := by
  simp [noClauses?]

/-- A having tree is admitted exactly if none of its nodes is faulty. -/
theorem admits_iff {having : Having} :
    Admits aggregates having ↔ ∀ node ∈ having.nodes, fault? aggregates node = none := by
  constructor
  · intro admitted node listed
    cases node with
    | compare name comparison value =>
        simp [fault?, admitted.known name comparison value listed]
    | all clauses =>
        apply noClauses?_eq_none_iff.mpr
        rintro rfl
        exact admitted.noEmptyAll listed
    | any clauses =>
        apply noClauses?_eq_none_iff.mpr
        rintro rfl
        exact admitted.noEmptyAny listed
    | not clause => rfl
    | multi connective clauses =>
        apply noClauses?_eq_none_iff.mpr
        rintro rfl
        exact admitted.noEmptyMulti connective listed
  · intro sound
    constructor
    case known =>
      intro name comparison value listed
      simpa [fault?] using sound _ listed
    case noEmptyAll =>
      intro listed
      exact noClauses?_eq_none_iff.mp (sound _ listed) rfl
    case noEmptyAny =>
      intro listed
      exact noClauses?_eq_none_iff.mp (sound _ listed) rfl
    case noEmptyMulti =>
      intro connective listed
      exact noClauses?_eq_none_iff.mp (sound _ listed) rfl

/-! ## Faults of a tree -/

/-- A comparison fails where no aggregate has its name. -/
theorem failure?_compare (name : String) (comparison : Comparison) (value : Double) :
    failure? (condition aggregates (.compare name comparison value)) =
      fault? aggregates (.compare name comparison value) := by
  rw [condition, fault?]
  cases found : aggregates.find? fun aggregate => aggregate.name == name with
  | some aggregate =>
      have named : aggregate.name = name := by simpa using List.find?_some found
      have listed : name ∈ aggregates.map Aggregate.name :=
        List.mem_map.mpr ⟨aggregate, List.mem_of_find?_eq_some found, named⟩
      rw [if_pos listed]
      rfl
  | none =>
      have absent : name ∉ aggregates.map Aggregate.name := by
        simpa [List.find?_eq_none] using found
      rw [if_neg absent]
      rfl

/-- A connective fails without clauses, and otherwise as its clauses do. -/
theorem failure?_clauses {name : String} {clauses : List Having}
    {connect : List Expr → Except Error Expr}
    (connects : ∀ operands, failure? (connect operands) = none)
    (each : ∀ clause ∈ clauses,
      failure? (condition aggregates clause) = clause.nodes.findSome? (fault? aggregates)) :
    failure? (do
      if clauses.isEmpty then throw (.arity name "at least 1" 0)
      let operands ← conditions aggregates clauses
      connect operands) =
        (noClauses? name clauses).or ((nodesOfList clauses).findSome? (fault? aggregates)) := by
  rw [failure?_check, failure?_bind_of_ok connects, nodesOfList_eq_flatMap,
    failure?_collected (conditions aggregates) rfl (fun _ _ => rfl) each]
  simp only [noClauses?, List.isEmpty_iff]

/-- What a having tree is refused with is the fault of its first faulty node. -/
theorem failure?_condition (having : Having) :
    failure? (condition aggregates having) = having.nodes.findSome? (fault? aggregates) := by
  induction having using Having.induction with
  | compare name comparison value =>
      rw [failure?_compare, nodes, List.findSome?_singleton]
  | all clauses each =>
      rw [nodes, findSome?_cons_eq_or]
      exact failure?_clauses (fun _ => rfl) each
  | any clauses each =>
      rw [nodes, findSome?_cons_eq_or]
      exact failure?_clauses (fun _ => rfl) each
  | not clause negated =>
      rw [condition, failure?_bind_of_ok fun _ => rfl, negated, nodes, findSome?_cons_eq_or]
      rfl
  | multi connective clauses each =>
      rw [nodes, findSome?_cons_eq_or]
      cases connective with
      | and => exact failure?_clauses (fun _ => rfl) each
      | or => exact failure?_clauses (fun _ => rfl) each

end Having

end Rollup
