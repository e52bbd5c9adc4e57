import Rollup.Proofs.Sql.Inherited

/-!
# What expressions refer to

The columns that an expression reads and the aggregates that it calls.  Both are found at the
nodes of the expression, so an expression built of others refers to what those refer to, and
to nothing else unless it is a column or a call itself.
-/

namespace Rollup.Sql

namespace Expr

/-- The column that a node is. -/
def ownColumns : Expr → List String
  | .column name => [name]
  | _ => []

/-- The names of the columns in an expression, those in the arguments of aggregates among
them. -/
def columns (expr : Expr) : List String :=
  expr.collect ownColumns

/-- The call of an aggregate that a node is. -/
def ownAggregateCalls : Expr → List Expr
  | .aggregate function argument => [.aggregate function argument]
  | _ => []

/-- The calls of aggregates in an expression. -/
def aggregateCalls (expr : Expr) : List Expr :=
  expr.collect ownAggregateCalls

/-- What an expression refers to: each of its columns and each of the aggregates that it
calls is among those allowed. -/
structure RefersTo (Column : String → Prop) (Call : Expr → Prop) (expr : Expr) : Prop where
  columns : ∀ name ∈ expr.columns, Column name
  calls : ∀ call ∈ expr.aggregateCalls, Call call

/-- An expression over columns, which calls no aggregate. -/
abbrev ReadsOnly (Column : String → Prop) : Expr → Prop :=
  RefersTo Column fun _ => False

variable {Column : String → Prop} {Call : Expr → Prop} {expr : Expr}

theorem refersTo_column {name : String} (allowed : Column name) :
    (column name).RefersTo Column Call :=
  ⟨List.forall_mem_singleton.mpr allowed, List.forall_mem_nil _⟩

/-- What an expression refers to is inherited: every expression refers to what its operands
refer to. -/
theorem refersTo_isInherited : IsInherited (RefersTo Column Call) where
  literal _ := ⟨List.forall_mem_nil _, List.forall_mem_nil _⟩
  compare _ left right :=
    ⟨forall_collect_compare.mpr ⟨⟨left.columns, right.columns⟩, List.forall_mem_nil _⟩,
      forall_collect_compare.mpr ⟨⟨left.calls, right.calls⟩, List.forall_mem_nil _⟩⟩
  like _ expr pattern :=
    ⟨forall_collect_like.mpr ⟨⟨expr.columns, pattern.columns⟩, List.forall_mem_nil _⟩,
      forall_collect_like.mpr ⟨⟨expr.calls, pattern.calls⟩, List.forall_mem_nil _⟩⟩
  all each :=
    ⟨forall_collect_all.mpr ⟨fun expr listed => (each expr listed).columns, List.forall_mem_nil _⟩,
      forall_collect_all.mpr ⟨fun expr listed => (each expr listed).calls, List.forall_mem_nil _⟩⟩
  any each :=
    ⟨forall_collect_any.mpr ⟨fun expr listed => (each expr listed).columns, List.forall_mem_nil _⟩,
      forall_collect_any.mpr ⟨fun expr listed => (each expr listed).calls, List.forall_mem_nil _⟩⟩
  not negated :=
    ⟨forall_collect_not.mpr ⟨negated.columns, List.forall_mem_nil _⟩,
      forall_collect_not.mpr ⟨negated.calls, List.forall_mem_nil _⟩⟩
  arithmetic _ left right :=
    ⟨forall_collect_arithmetic.mpr ⟨⟨left.columns, right.columns⟩, List.forall_mem_nil _⟩,
      forall_collect_arithmetic.mpr ⟨⟨left.calls, right.calls⟩, List.forall_mem_nil _⟩⟩
  cast _ inner :=
    ⟨forall_collect_cast.mpr ⟨inner.columns, List.forall_mem_nil _⟩,
      forall_collect_cast.mpr ⟨inner.calls, List.forall_mem_nil _⟩⟩
  call _ each :=
    ⟨forall_collect_call.mpr
        ⟨fun argument listed => (each argument listed).columns, List.forall_mem_nil _⟩,
      forall_collect_call.mpr
        ⟨fun argument listed => (each argument listed).calls, List.forall_mem_nil _⟩⟩
  extract _ inner :=
    ⟨forall_collect_extract.mpr ⟨inner.columns, List.forall_mem_nil _⟩,
      forall_collect_extract.mpr ⟨inner.calls, List.forall_mem_nil _⟩⟩
  case each last :=
    ⟨forall_collect_case.mpr
        ⟨⟨fun branch listed => ⟨(each branch listed).1.columns, (each branch listed).2.columns⟩,
          fun expr listed => (last expr listed).columns⟩, List.forall_mem_nil _⟩,
      forall_collect_case.mpr
        ⟨⟨fun branch listed => ⟨(each branch listed).1.calls, (each branch listed).2.calls⟩,
          fun expr listed => (last expr listed).calls⟩, List.forall_mem_nil _⟩⟩

end Expr

/-- The call of an aggregate of a column or of the rows themselves is the one call in it. -/
theorem aggregateCalls_call {aggregate : Aggregate}
    (bare : ∀ argument ∈ aggregate.argument, ∃ name, argument = .column name) :
    aggregate.call.aggregateCalls = [aggregate.call] := by
  obtain ⟨function, argument, name⟩ := aggregate
  cases argument with
  | none => rfl
  | some argument =>
      obtain ⟨column, rfl⟩ := bare argument rfl
      rfl

end Rollup.Sql
