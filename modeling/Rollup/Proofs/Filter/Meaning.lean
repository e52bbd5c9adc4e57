import Rollup.Plan.FilterCondition
import Rollup.Proofs.Sql.Condition
import Rollup.Proofs.Steps

/-!
# The meaning of filters

A filter read on a row of texts in two ways.  With three truth values a leaf is unknown
where its dimension is `NULL`, and connectives are Kleene's.  With two truth values such a
leaf is false.  The condition that a filter is compiled to means the first in every
dialect.
-/

namespace Rollup

open Sql

/-- Whether a text is what a search looks for.  Upper and lower case may be told apart;
fragments have to occur each. -/
def Search.finds (lower : Char → Char) (search : Search) (text : String) : Bool :=
  match search.mode with
  | .contains => decide (search.text.toList <:+: text.toList)
  | .insensitiveContains => decide ((search.text.map lower).toList <:+: (text.map lower).toList)
  | .fragment =>
      (search.fragments?.getD []).all fun fragment => decide (fragment.toList <:+: text.toList)

namespace Filter

mutual

/-- The truth value of a filter on the dimensions of a row. -/
def truth (engine : Engine) (cell : String → Option String) : Filter → Truth
  | .selector dimension value => (cell dimension).map fun text => decide (text = value)
  | .regex dimension pattern => (cell dimension).map fun text => engine.matchesRegex text pattern
  | .search dimension wanted => (cell dimension).map (wanted.finds engine.lower)
  | .oneOf dimension values => (cell dimension).map fun text => decide (text ∈ values)
  | .all filters => Truth.all (truths engine cell filters)
  | .any filters => Truth.any (truths engine cell filters)
  | .not filter => (truth engine cell filter).not
termination_by structural filter => filter

/-- The truth values of some filters. -/
def truths (engine : Engine) (cell : String → Option String) : List Filter → List Truth
  | [] => []
  | filter :: rest => truth engine cell filter :: truths engine cell rest
termination_by structural filters => filters

end

mutual

/-- Whether a filter holds of the dimensions of a row, one that is `NULL` having none of
the values, texts and patterns asked for. -/
def holds (engine : Engine) (cell : String → Option String) : Filter → Bool
  | .selector dimension value => (cell dimension).any fun text => decide (text = value)
  | .regex dimension pattern => (cell dimension).any fun text => engine.matchesRegex text pattern
  | .search dimension wanted => (cell dimension).any (wanted.finds engine.lower)
  | .oneOf dimension values => (cell dimension).any fun text => decide (text ∈ values)
  | .all filters => holdsAll engine cell filters
  | .any filters => holdsAny engine cell filters
  | .not filter => !holds engine cell filter
termination_by structural filter => filter

/-- Whether each of some filters holds. -/
def holdsAll (engine : Engine) (cell : String → Option String) : List Filter → Bool
  | [] => true
  | filter :: rest => holds engine cell filter && holdsAll engine cell rest
termination_by structural filters => filters

/-- Whether one of some filters holds. -/
def holdsAny (engine : Engine) (cell : String → Option String) : List Filter → Bool
  | [] => false
  | filter :: rest => holds engine cell filter || holdsAny engine cell rest
termination_by structural filters => filters

end

@[simp]
theorem truths_eq_map (engine : Engine) (cell : String → Option String) (filters : List Filter) :
    truths engine cell filters = filters.map (truth engine cell) := by
  induction filters with
  | nil => rfl
  | cons filter rest inductionHypothesis => rw [truths, inductionHypothesis, List.map_cons]

@[simp]
theorem holdsAll_eq_all (engine : Engine) (cell : String → Option String)
    (filters : List Filter) :
    holdsAll engine cell filters = filters.all (holds engine cell) := by
  induction filters with
  | nil => rfl
  | cons filter rest inductionHypothesis => rw [holdsAll, inductionHypothesis, List.all_cons]

@[simp]
theorem holdsAny_eq_any (engine : Engine) (cell : String → Option String)
    (filters : List Filter) :
    holdsAny engine cell filters = filters.any (holds engine cell) := by
  induction filters with
  | nil => rfl
  | cons filter rest inductionHypothesis => rw [holdsAny, inductionHypothesis, List.any_cons]

/-- What holds of every leaf, and of a connective as soon as it holds of each operand,
holds of every filter. -/
@[elab_as_elim]
theorem induction {motive : Filter → Prop}
    (selector : ∀ dimension value, motive (.selector dimension value))
    (regex : ∀ dimension pattern, motive (.regex dimension pattern))
    (search : ∀ dimension wanted, motive (.search dimension wanted))
    (oneOf : ∀ dimension values, motive (.oneOf dimension values))
    (all : ∀ filters, (∀ filter ∈ filters, motive filter) → motive (.all filters))
    (any : ∀ filters, (∀ filter ∈ filters, motive filter) → motive (.any filters))
    (not : ∀ filter, motive filter → motive (.not filter)) (filter : Filter) :
    motive filter :=
  @Filter.rec motive (fun filters => ∀ filter ∈ filters, motive filter) selector regex search
    oneOf all any not (fun _ member => by cases member)
    (fun _ _ first rest => List.forall_mem_cons.mpr ⟨first, rest⟩) filter

end Filter

namespace FilterScope

variable (scope : FilterScope) (engine : Engine) (row : String → Option String)

/-- A row of texts as expressions of a scope's dialect see it. -/
def environment : Environment where
  dialect := scope.dialect
  engine := engine
  column name := (row name).map .text

/-- What a row holds for a dimension: the text of its physical column. -/
def cell (dimension : String) : Option String :=
  row (scope.fields.toPhysical dimension)

variable {scope}

/-- The column of a dimension holds what the row has for it. -/
theorem value_column {dimension : String} {column : Expr}
    (compiled : scope.column dimension = .ok column) :
    column.value (scope.environment engine row) = (scope.cell row dimension).map .text := by
  unfold FilterScope.column at compiled
  split at compiled
  · cases compiled
    rfl
  · cases compiled

/-- A search condition is unknown on `NULL` and otherwise tells whether the search finds
its text. -/
theorem truth_searchCondition (keeps : KeepsPatternSigns engine.lower) {dimension : String}
    {search : Search} {expr : Expr}
    (compiled : scope.searchCondition dimension search = .ok expr) :
    expr.truth (scope.environment engine row) =
      (scope.cell row dimension).map (search.finds engine.lower) := by
  obtain ⟨column, found, built⟩ := bind_eq_ok_iff.mp compiled
  have holds := value_column engine row found
  unfold Search.finds
  cases mode : search.mode with
  | contains =>
      rw [mode] at built
      cases built
      exact Dialect.truth_contains holds search.text
  | insensitiveContains =>
      rw [mode] at built
      cases built
      exact Dialect.truth_containsInsensitive keeps holds search.text
  | fragment =>
      rw [mode] at built
      cases built

/-- A membership condition is unknown on `NULL` and otherwise tells whether the text is
one of the values. -/
theorem truth_membershipCondition {dimension : String} {values : List String} {expr : Expr}
    (compiled : scope.membershipCondition dimension values = .ok expr) :
    expr.truth (scope.environment engine row) =
      (scope.cell row dimension).map fun text => decide (text ∈ values) := by
  simp only [membershipCondition, check_eq_ok_iff] at compiled
  obtain ⟨nonempty, found⟩ := compiled
  obtain ⟨column, found, built⟩ := bind_eq_ok_iff.mp found
  have holds := value_column engine row found
  cases built
  have equalities : (values.map (scope.dialect.equals column)).map
        (Expr.truth (scope.environment engine row)) =
      values.map fun value => (scope.cell row dimension).map fun text => decide (text = value) := by
    rw [List.map_map]
    exact List.map_congr_left fun value _ => Dialect.truth_equals holds value
  rw [Expr.truth_any, equalities]
  cases scope.cell row dimension with
  | some text =>
      change Truth.any (values.map (some ∘ fun value => decide (text = value))) =
        some (decide (text ∈ values))
      rw [← List.map_map, Truth.any_map_some, List.any_map, Option.some.injEq, Bool.eq_iff_iff]
      simp
  | none =>
      obtain ⟨first, rest, rfl⟩ := List.exists_cons_of_ne_nil (by simpa using nonempty)
      change Truth.any ((first :: rest).map fun _ => none) = none
      rw [List.map_const', List.length_cons, Truth.any_replicate_none]

mutual

/-- The condition of a filter has the truth value of the filter. -/
theorem truth_condition (keeps : KeepsPatternSigns engine.lower) (filter : Filter) (expr : Expr)
    (compiled : scope.condition filter = .ok expr) :
    expr.truth (scope.environment engine row) = filter.truth engine (scope.cell row) := by
  match filter with
  | .selector dimension value =>
      obtain ⟨column, found, built⟩ := bind_eq_ok_iff.mp compiled
      cases built
      exact Dialect.truth_equals (value_column engine row found) value
  | .regex dimension pattern =>
      obtain ⟨column, found, built⟩ := bind_eq_ok_iff.mp compiled
      exact Dialect.truth_matchesRegex (value_column engine row found) built
  | .search dimension wanted => exact truth_searchCondition engine row keeps compiled
  | .oneOf dimension values => exact truth_membershipCondition engine row compiled
  | .all filters =>
      simp only [condition, check_eq_ok_iff] at compiled
      obtain ⟨exprs, found, built⟩ := bind_eq_ok_iff.mp compiled.2
      cases built
      rw [Expr.truth_all, truths_conditions keeps filters exprs found, Filter.truth]
  | .any filters =>
      simp only [condition, check_eq_ok_iff] at compiled
      obtain ⟨exprs, found, built⟩ := bind_eq_ok_iff.mp compiled.2
      cases built
      rw [Expr.truth_any, truths_conditions keeps filters exprs found, Filter.truth]
  | .not filter =>
      obtain ⟨inner, found, built⟩ := bind_eq_ok_iff.mp compiled
      cases built
      rw [Expr.truth_not, truth_condition keeps filter inner found, Filter.truth]
termination_by structural filter

/-- The conditions of some filters have their truth values. -/
theorem truths_conditions (keeps : KeepsPatternSigns engine.lower) (filters : List Filter)
    (exprs : List Expr) (compiled : scope.conditions filters = .ok exprs) :
    exprs.map (Expr.truth (scope.environment engine row)) =
      Filter.truths engine (scope.cell row) filters := by
  match filters with
  | [] =>
      cases compiled
      rfl
  | filter :: rest =>
      obtain ⟨first, found, remaining⟩ := bind_eq_ok_iff.mp compiled
      obtain ⟨others, foundOthers, built⟩ := bind_eq_ok_iff.mp remaining
      cases built
      rw [List.map_cons, truth_condition keeps filter first found,
        truths_conditions keeps rest others foundOthers, Filter.truths]
termination_by structural filters

end

/-- In every dialect and on every row of texts, the condition that a filter is compiled to
has Kleene's truth value of the filter. -/
theorem condition_means_filter (scope : FilterScope) (filter : Filter) (expr : Expr)
    (compiled : scope.condition filter = .ok expr) (engine : Engine)
    (keeps : KeepsPatternSigns engine.lower) (row : String → Option String) :
    expr.truth (scope.environment engine row) = filter.truth engine (scope.cell row) :=
  truth_condition engine row keeps filter expr compiled

/-- A search for `N_` in any case beside a negated selector on `NULL`: the former is false
of `San Jose`, so the conjunction is false, although the latter is unknown. -/
theorem condition_means_filter_on_null :
    let scope : FilterScope :=
      ⟨.postgres, ⟨[("region", "region_cd"), ("city", "city_nm")]⟩, { dataSource := "sales" }⟩
    let filter : Filter :=
      .all [.not (.selector "region" "US"), .search "city" (.insensitiveContains "N_")]
    let row : String → Option String := fun name =>
      if name = "city_nm" then some "San Jose" else none
    ∃ expr, scope.condition filter = .ok expr ∧ KeepsPatternSigns Engine.plain.lower ∧
      expr.truth (scope.environment Engine.plain row) = some false := by
  intro scope filter row
  refine ⟨_, rfl, keepsPatternSigns_toLower, ?_⟩
  have meaning :=
    condition_means_filter scope filter _ rfl Engine.plain keepsPatternSigns_toLower row
  exact meaning.trans (by decide +kernel)

end FilterScope

end Rollup
