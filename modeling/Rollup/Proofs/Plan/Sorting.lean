import Rollup.Proofs.Plan.Scope
import Rollup.Proofs.Result.Order

/-!
# Sorts of statements

The sort of a statement has the columns of the explicit sort and then everything grouped by, each
once.  Dimensions that share a physical column share a sort key, and so do an explicit sort and
the grouping column that it refers to.  Since every grouping column has a key, rows of different
groups are never left in arbitrary order where the columns are told apart by their names, and a
limit keeps the same rows every time.
-/

namespace Rollup

namespace Query

open Sql

variable {query : Query} {table : Table} {fields : FieldMap} {dialect : Dialect}
  {mode : PostAggregationMode}

/-- The column that an explicit sort by a name refers to: that of an aggregation or of a
post-aggregation, or else the physical column of a dimension. -/
def sortTarget (query : Query) (fields : FieldMap) (name : String) : String :=
  if name ∈ query.aggregationNames ++ query.postAggregationNames then name
  else fields.toPhysical name

/-- The columns of the explicit sort with their directions, as often as they are listed. -/
def explicitSorts (query : Query) (fields : FieldMap) : List (String × SortDirection) :=
  query.sortColumns.map fun sort => (query.sortTarget fields sort.column, sort.direction)

/-- The columns that are grouped by: the physical columns of the dimensions, each once, and the
time columns. -/
def groupingColumns (query : Query) (fields : FieldMap) : List String :=
  (query.groupingDimensions.map fields.toPhysical).eraseDups ++ query.granularity.timeColumnNames

/-- The columns sorted by: those of the explicit sort, and then the grouping columns that are not
among them. -/
def sortedColumns (query : Query) (fields : FieldMap) : List String :=
  let explicit := (query.explicitSorts fields).map Prod.fst
  explicit.eraseDups ++ ((query.groupingColumns fields).filter (· ∉ explicit)).eraseDups

/-- The direction of the sort by a column: that of the first explicit sort by it. -/
def directionOf (query : Query) (fields : FieldMap) (column : String) : SortDirection :=
  ((query.explicitSorts fields).lookup column).getD .ascending

/-! ## Repetitions -/

theorem distinctFrom_eq (seen names : List String) :
    distinctFrom seen names = (names.filter (· ∉ seen)).eraseDups := by
  induction names generalizing seen with
  | nil => rfl
  | cons name rest inductionHypothesis =>
      by_cases known : name ∈ seen
      · simp [distinctFrom, known, inductionHypothesis]
      · have others : rest.filter (· ∉ name :: seen) =
            (rest.filter (· ∉ seen)).filter fun other => !other == name := by
          rw [List.filter_filter]
          refine List.filter_congr fun other _ => ?_
          by_cases same : other = name
          · simp [same]
          · simp [same]
        simp only [distinctFrom, List.contains_iff_mem, if_neg known, inductionHypothesis, others]
        rw [List.filter_cons_of_pos (by simpa using known), List.eraseDups_cons]

@[simp]
theorem distinctFrom_nil_eq (names : List String) : distinctFrom [] names = names.eraseDups := by
  rw [distinctFrom_eq]
  simp

/-- Distinct sorts are those of distinct columns, each with the direction listed first. -/
theorem distinctSorts_eq (seen : List String) (sorts : List (String × SortDirection)) :
    distinctSorts seen sorts = (distinctFrom seen (sorts.map Prod.fst)).map fun column =>
      (column, (sorts.lookup column).getD .ascending) := by
  induction sorts generalizing seen with
  | nil => rfl
  | cons sort rest inductionHypothesis =>
      obtain ⟨column, direction⟩ := sort
      have pass {seen : List String} (known : column ∈ seen) :
          (distinctFrom seen (rest.map Prod.fst)).map (fun other =>
              (other, (((column, direction) :: rest).lookup other).getD .ascending)) =
            (distinctFrom seen (rest.map Prod.fst)).map fun other =>
              (other, (rest.lookup other).getD .ascending) := by
        refine List.map_congr_left fun other listed => ?_
        have different : (other == column) = false := beq_eq_false_iff_ne.mpr fun same =>
          (mem_distinctFrom_iff.mp listed).2 (same ▸ known)
        rw [List.lookup_cons, different]
      by_cases known : column ∈ seen
      · rw [distinctSorts, if_pos (List.contains_iff_mem.mpr known), inductionHypothesis,
          List.map_cons, distinctFrom, if_pos (List.contains_iff_mem.mpr known), pass known]
      · have new := mt List.contains_iff_mem.mp known
        rw [distinctSorts, if_neg new, inductionHypothesis, List.map_cons, distinctFrom, if_neg new,
          List.map_cons, pass List.mem_cons_self, List.lookup_cons, beq_self_eq_true]
        rfl

/-! ## The explicit sort -/

/-- An explicit sort that is possible goes by its target. -/
theorem eq_sortTarget {name column : String}
    (compiled : query.sortedColumn fields mode name = .ok column) :
    column = query.sortTarget fields name ∧
      (name ∈ query.aggregationNames ++ query.postAggregationNames ∨
        name ∈ query.groupingDimensions) := by
  rcases sortedColumn_cases compiled with ⟨output, rfl⟩ | ⟨noOutput, grouped, rfl⟩
  · have output := output_of_column output
    exact ⟨(if_pos output).symm, .inl output⟩
  · exact ⟨(if_neg noOutput).symm, .inr grouped⟩

theorem eq_explicitSorts {found : List (String × SortDirection)}
    (compiled : query.explicitSort fields mode query.sortColumns = .ok found) :
    found = query.explicitSorts fields ∧ ∀ sort ∈ query.sortColumns,
      sort.column ∈ query.aggregationNames ++ query.postAggregationNames ∨
        sort.column ∈ query.groupingDimensions := by
  unfold explicitSorts
  generalize query.sortColumns = sorts at compiled ⊢
  induction sorts generalizing found with
  | nil =>
      cases compiled
      exact ⟨rfl, List.forall_mem_nil _⟩
  | cons sort rest inductionHypothesis =>
      obtain ⟨column, sorted, remaining⟩ := bind_eq_ok_iff.mp compiled
      obtain ⟨others, compiledOthers, built⟩ := bind_eq_ok_iff.mp remaining
      cases built
      obtain ⟨rfl, known⟩ := eq_sortTarget sorted
      obtain ⟨rfl, knownOthers⟩ := inductionHypothesis compiledOthers
      exact ⟨rfl, List.forall_mem_cons.mpr ⟨known, knownOthers⟩⟩

/-! ## The whole sort -/

theorem groupingColumns_eq (query : Query) (fields : FieldMap) :
    query.dimensionColumns fields ++ query.granularity.timeColumnNames =
      query.groupingColumns fields := by
  rw [dimensionColumns, distinctFrom_nil_eq, groupingColumns]

theorem sortedColumns_eq (query : Query) (fields : FieldMap) :
    query.sortedColumns fields =
      ((query.explicitSorts fields).map Prod.fst ++ query.groupingColumns fields).eraseDups := by
  rw [List.eraseDups_append, sortedColumns, List.removeAll]
  congr 3
  funext column
  simp

theorem mem_sortedColumns {column : String} (grouped : column ∈ query.groupingColumns fields) :
    column ∈ query.sortedColumns fields := by
  rw [sortedColumns_eq, List.mem_eraseDups]
  exact List.mem_append_right _ grouped

theorem nodup_sortedColumns (query : Query) (fields : FieldMap) :
    (query.sortedColumns fields).Nodup := by
  rw [sortedColumns_eq, ← distinctFrom_nil_eq]
  exact nodup_distinctFrom [] _

/-- Default sorts are ascending, like sorts by columns that are not listed. -/
theorem lookup_append_ascending (sorts : List (String × SortDirection)) (columns : List String)
    (column : String) :
    ((sorts ++ columns.map fun column => (column, SortDirection.ascending)).lookup column).getD
        .ascending =
      (sorts.lookup column).getD .ascending := by
  induction sorts with
  | nil =>
      induction columns with
      | nil => rfl
      | cons first rest inductionHypothesis =>
          rw [List.nil_append] at inductionHypothesis
          rw [List.nil_append, List.map_cons, List.lookup_cons]
          cases column == first
          · exact inductionHypothesis
          · rfl
  | cons sort rest inductionHypothesis =>
      rw [List.cons_append, List.lookup_cons, List.lookup_cons]
      cases column == sort.1
      · exact inductionHypothesis
      · rfl

theorem sortKeys_eq {keys : List SortKey} (compiled : query.sortKeys fields mode = .ok keys) :
    keys = (query.sortedColumns fields).map (fun column =>
        { expr := .column column, direction := query.directionOf fields column }) ∧
      ∀ sort ∈ query.sortColumns,
        sort.column ∈ query.aggregationNames ++ query.postAggregationNames ∨
          sort.column ∈ query.groupingDimensions := by
  obtain ⟨explicit, compiledExplicit, built⟩ := bind_eq_ok_iff.mp compiled
  cases built
  obtain ⟨rfl, known⟩ := eq_explicitSorts compiledExplicit
  refine ⟨?_, known⟩
  have columns (sorts : List (String × SortDirection)) :
      (sorts ++ (query.groupingColumns fields).map fun column =>
        (column, SortDirection.ascending)).map Prod.fst =
        sorts.map Prod.fst ++ query.groupingColumns fields := by
    rw [List.map_append, List.map_map]
    exact congrArg _ (List.map_id _)
  rw [groupingColumns_eq, distinctSorts_eq, columns, distinctFrom_nil_eq, ← sortedColumns_eq,
    List.map_map]
  refine List.map_congr_left fun column _ => ?_
  rw [Function.comp_apply, lookup_append_ascending, directionOf]

/-- A compiled query sorts by the columns of the explicit sort and then by the grouping columns
that are not among them, each once.  An explicit sort goes by a column of an output or of a
dimension that is grouped by; the first sort by a column gives it its direction, and the other
columns are ascending.  Where all columns of the statement have different names, every grouping
column is among them, and two rows that differ in it are never left in arbitrary order, whatever
order the engine has for the values of cells. -/
theorem sort_is_complete {compiled : Compiled}
    (compiles : query.compile table fields dialect mode = .ok compiled) :
    compiled.statement.order = (query.sortedColumns fields).map (fun column =>
        { expr := .column column, direction := query.directionOf fields column,
          nullsFirst := true }) ∧
      (query.sortedColumns fields).Nodup ∧
      (∀ sort ∈ query.sortColumns,
        sort.column ∈ query.aggregationNames ++ query.postAggregationNames ∨
          sort.column ∈ query.groupingDimensions) ∧
      ∀ names : List String, compiled.statement.columns.map Projection.name? = names.map some →
        names.Nodup → ∀ column ∈ query.groupingColumns fields, column ∈ names ∧
          ∀ order (first second : List Cell) (index : Nat) (cell other : Cell),
            names[index]? = some column → first[index]? = some cell →
            second[index]? = some other → ¬ cell.AlikeIn order other →
            compareRows order names first second compiled.statement.order ≠ .eq := by
  obtain ⟨stated, _⟩ := compile_eq_ok compiles
  obtain ⟨sorted, known⟩ := sortKeys_eq (sortKeys_of_statement stated)
  refine ⟨sorted, query.nodup_sortedColumns fields, known,
    fun names named apart column grouped => ⟨?listed, ?_⟩⟩
  case listed =>
    have sameNames := named.symm.trans (statement_names stated)
    rw [List.map_injective_iff.mpr (fun _ _ => Option.some.inj) sameNames, rowColumns,
      ← List.append_assoc]
    rw [← groupingColumns_eq, List.mem_append, or_comm, ← List.mem_append] at grouped
    exact List.mem_append_left _ grouped
  intro order first second index cell other place placed placedOther differ tied
  have key : { expr := .column column, direction := query.directionOf fields column } ∈
      compiled.statement.order := by
    rw [sorted]
    exact List.mem_map_of_mem (mem_sortedColumns grouped)
  have alike := compareRows_eq_iff.mp tied _ key
  rw [SortKey.cell_of_column rfl apart place placed,
    SortKey.cell_of_column rfl apart place placedOther] at alike
  exact differ alike

/-- Daily totals of regions, which also go by another name, with repetitions in the sort. -/
def repeatedlySorted : Query where
  dataSource := "sales"
  dimensions := ["region", "area"]
  granularity := .day
  aggregations := [.ofField .longSum "total" "amount"]
  limitSpec := some ⟨some 5,
    [⟨"total", .descending⟩, ⟨"area", .descending⟩, ⟨"region", .ascending⟩, ⟨"total", .ascending⟩]⟩

/-- Both names of a region stand for one sort key, and rows of different days are told apart by
another one. -/
theorem sort_is_complete_of_repeatedlySorted :
    let table : Table := ⟨"sales", "sales", "ts",
      [⟨"region", some "region_cd"⟩, ⟨"area", some "region_cd"⟩]⟩
    let names := ["__year", "__dayofyear", "region_cd", "total"]
    ∃ compiled, repeatedlySorted.compile table (.ofTable table) .postgres .sql = .ok compiled ∧
      compiled.statement.order =
        [⟨.column "total", .descending, true⟩, ⟨.column "region_cd", .descending, true⟩,
          ⟨.column "__year", .ascending, true⟩, ⟨.column "__dayofyear", .ascending, true⟩] ∧
      ∀ order : Cell → Cell → Ordering, order (.integer 7) (.integer 8) ≠ .eq →
        compareRows order names [.integer 2024, .integer 7, .text "US", .integer 5]
          [.integer 2024, .integer 8, .text "US", .integer 5] compiled.statement.order ≠ .eq := by
  intro table names
  have compiles : repeatedlySorted.compile table (.ofTable table) .postgres .sql = .ok _ := rfl
  obtain ⟨sorted, _, _, apart⟩ := sort_is_complete compiles
  refine ⟨_, compiles, sorted.trans ?_, fun order different => ?_⟩
  · rfl
  · have day : "__dayofyear" ∈ repeatedlySorted.groupingColumns (.ofTable table) := by decide
    exact (apart names rfl (by decide) _ day).2 order _ _ 1 _ _ rfl rfl rfl different

end Query

end Rollup
