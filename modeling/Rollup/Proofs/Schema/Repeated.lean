import Mathlib.Data.List.Induction
import Rollup.Client
import Rollup.Proofs.Schema.FieldMap

/-!
# Names declared more than once

Nothing refuses two tables of one name in a configuration, or two columns of one name in a
table.  A scan of the declarations finds the first of them, and what takes them in one after the
other keeps the last, so the two ways to look up a name agree exactly where these two do.

A field map takes in its entries one after the other.  An entry that redirects a logical name
changes the physical column of the name, but the name stays behind the column that it had.
-/

namespace Rollup

namespace FieldMap

variable {fields : FieldMap} {logical physical : String}

/-! ## Taking in an entry -/

/-- A field map with an entry more. -/
def add (fields : FieldMap) (entry : String × String) : FieldMap :=
  ⟨fields.entries ++ [entry]⟩

/-- Every field map is built by adding its entries to the empty one. -/
@[elab_as_elim]
theorem induction {motive : FieldMap → Prop} (empty : motive ⟨[]⟩)
    (add : ∀ fields entry, motive fields → motive (fields.add entry)) (fields : FieldMap) :
    motive fields := by
  obtain ⟨entries⟩ := fields
  induction entries using List.reverseRecOn with
  | nil => exact empty
  | append_singleton entries entry inductionHypothesis =>
      exact add ⟨entries⟩ entry inductionHypothesis

@[simp]
theorem mem_entries_add {entry new : String × String} :
    entry ∈ (fields.add new).entries ↔ entry ∈ fields.entries ∨ entry = new := by
  rw [add, List.mem_append, List.mem_singleton]

/-- A new entry gives its logical name a physical column, and other names keep theirs. -/
theorem physical?_add (fields : FieldMap) (entry : String × String) (logical : String) :
    (fields.add entry).physical? logical =
      if entry.1 = logical then some entry.2 else fields.physical? logical := by
  rw [physical?, add, List.reverse_append, List.reverse_singleton, List.singleton_append,
    List.find?_cons]
  by_cases same : entry.1 = logical
  · rw [beq_iff_eq.mpr same, if_pos same]
    rfl
  · rw [beq_false_of_ne same, if_neg same]
    rfl

/-! ## Redirected names -/

/-- Whether a logical name was given a physical column that its last entry takes from it. -/
def IsRedirected (fields : FieldMap) (logical physical : String) : Prop :=
  ∃ earlier other later, fields.entries = earlier ++ (logical, other) :: later ∧
    (∀ entry ∈ later, entry.1 ≠ logical) ∧ other ≠ physical ∧ (logical, physical) ∈ earlier

theorem not_isRedirected_empty : ¬ IsRedirected ⟨[]⟩ logical physical := by
  rintro ⟨earlier, other, later, split, _⟩
  cases earlier <;> cases split

/-- A new entry redirects its logical name from every other column that the name was given. -/
@[simp]
theorem isRedirected_add_self {column : String} :
    (fields.add (logical, column)).IsRedirected logical physical ↔
      column ≠ physical ∧ (logical, physical) ∈ fields.entries := by
  constructor
  · rintro ⟨earlier, other, later, split, last, different, given⟩
    rcases later.eq_nil_or_concat with rfl | ⟨later, entry, rfl⟩
    · obtain ⟨rfl, same⟩ := List.append_inj' split rfl
      cases same
      exact ⟨different, given⟩
    · rw [add, List.concat_eq_append, ← List.cons_append, ← List.append_assoc] at split
      obtain ⟨-, same⟩ := List.append_inj' split rfl
      cases same
      exact absurd rfl (last (logical, column) (by simp))
  · rintro ⟨different, given⟩
    exact ⟨fields.entries, column, [], rfl, List.forall_mem_nil _, different, given⟩

/-- A new entry of another logical name redirects no name. -/
theorem isRedirected_add_other {entry : String × String} (apart : entry.1 ≠ logical) :
    (fields.add entry).IsRedirected logical physical ↔ fields.IsRedirected logical physical := by
  constructor
  · rintro ⟨earlier, other, later, split, last, different, given⟩
    rcases later.eq_nil_or_concat with rfl | ⟨later, final, rfl⟩
    · obtain ⟨-, same⟩ := List.append_inj' split rfl
      cases same
      exact absurd rfl apart
    · rw [List.concat_eq_append] at last
      rw [add, List.concat_eq_append, ← List.cons_append, ← List.append_assoc] at split
      obtain ⟨before, -⟩ := List.append_inj' split rfl
      exact ⟨earlier, other, later, before, fun entry listed =>
        last entry (List.mem_append_left _ listed), different, given⟩
  · rintro ⟨earlier, other, later, split, last, different, given⟩
    refine ⟨earlier, other, later ++ [entry], ?_, ?_, different, given⟩
    · rw [add, split, List.append_assoc, List.cons_append]
    · exact List.forall_mem_append.mpr ⟨last, List.forall_mem_singleton.mpr apart⟩

/-- A name has an entry for a column if the column is the one that it goes to, or if it was
redirected from it. -/
theorem mem_entries_iff :
    (logical, physical) ∈ fields.entries ↔
      fields.physical? logical = some physical ∨ fields.IsRedirected logical physical := by
  induction fields using induction with
  | empty => simp [physical?, not_isRedirected_empty]
  | add fields entry inductionHypothesis =>
      rw [mem_entries_add, physical?_add]
      by_cases same : entry.1 = logical
      · obtain ⟨name, column⟩ := entry
        cases same
        rw [if_pos rfl, isRedirected_add_self, Option.some_inj]
        by_cases kept : column = physical
        · simp [kept]
        · simp [kept, Ne.symm kept]
      · have different : (logical, physical) ≠ entry := fun equal => same (equal ▸ rfl)
        rw [if_neg same, isRedirected_add_other same, inductionHypothesis,
          or_iff_left different]

/-- A name that was redirected from a column goes to another one. -/
theorem IsRedirected.physical?_ne (redirected : fields.IsRedirected logical physical) :
    fields.physical? logical ≠ some physical := by
  induction fields using induction with
  | empty => exact absurd redirected not_isRedirected_empty
  | add fields entry inductionHypothesis =>
      rw [physical?_add]
      by_cases same : entry.1 = logical
      · obtain ⟨name, column⟩ := entry
        cases same
        rw [if_pos rfl, ne_eq, Option.some_inj]
        exact (isRedirected_add_self.mp redirected).1
      · rw [if_neg same]
        exact inductionHypothesis ((isRedirected_add_other same).mp redirected)

theorem toPhysical_eq_iff (mapped : fields.isMapped logical = true) :
    fields.toPhysical logical = physical ↔ fields.physical? logical = some physical := by
  obtain ⟨column, given⟩ := Option.isSome_iff_exists.mp mapped
  rw [toPhysical, given, Option.getD_some, Option.some_inj]

/-- The logical names of a physical column are those that go to it and those that were redirected
from it.  So the two directions of a field map are inverse to each other at a mapped name and a
given column exactly if the name was not redirected from the column. -/
theorem directions_inverse_iff (mapped : fields.isMapped logical = true)
    (given : ∃ entry ∈ fields.entries, entry.2 = physical) :
    (logical ∈ fields.toLogical physical ↔
        fields.toPhysical logical = physical ∨ fields.IsRedirected logical physical) ∧
      ((logical ∈ fields.toLogical physical ↔ fields.toPhysical logical = physical) ↔
        ¬ fields.IsRedirected logical physical) := by
  have listed : logical ∈ fields.toLogical physical ↔
      fields.toPhysical logical = physical ∨ fields.IsRedirected logical physical := by
    rw [toPhysical_eq_iff mapped, ← mem_entries_iff, mem_toLogical_iff]
    apply or_iff_left
    rintro ⟨_, absent⟩
    obtain ⟨entry, member, same⟩ := given
    exact absent entry member same
  refine ⟨listed, ?_⟩
  rw [listed]
  constructor
  · intro inverse redirected
    exact redirected.physical?_ne ((toPhysical_eq_iff mapped).mp (inverse.mp (.inr redirected)))
  · intro kept
    exact or_iff_left kept

/-- Two names share a column, and one of them moves on to another column. -/
def movedRegion : FieldMap :=
  ⟨[("region", "region_cd"), ("area", "region_cd"), ("region", "region_name")]⟩

/-- The name that stays is behind the shared column, and the column that the other one moved to
has that one only. -/
theorem directions_inverse_iff_of_movedRegion :
    ("area" ∈ movedRegion.toLogical "region_cd" ↔
        movedRegion.toPhysical "area" = "region_cd") ∧
      ("region" ∈ movedRegion.toLogical "region_name" ↔
        movedRegion.toPhysical "region" = "region_name") := by
  have stays : ¬ movedRegion.IsRedirected "area" "region_cd" := by
    intro redirected
    exact redirected.physical?_ne (by decide)
  have arrives : ¬ movedRegion.IsRedirected "region" "region_name" := by
    intro redirected
    exact redirected.physical?_ne (by decide)
  exact ⟨(directions_inverse_iff (by decide) (by decide)).2.mpr stays,
    (directions_inverse_iff (by decide) (by decide)).2.mpr arrives⟩

/-- The name that moved on is still behind the column that it left. -/
theorem moved_name_kept_behind_column :
    movedRegion.isMapped "region" = true ∧
      (∃ entry ∈ movedRegion.entries, entry.2 = "region_cd") ∧
      "region" ∈ movedRegion.toLogical "region_cd" ∧
      movedRegion.toPhysical "region" ≠ "region_cd" := by
  decide

end FieldMap

/-! ## First and last declarations -/

/-- The last of the items that pass a test is the first one from behind. -/
theorem getLast?_filter {α : Type} (items : List α) (test : α → Bool) :
    (items.filter test).getLast? = items.reverse.find? test := by
  rw [List.getLast?_eq_head?_reverse, ← List.filter_reverse, List.head?_filter]

/-- The columns of a name, in the order of their declaration. -/
def Table.columnsNamed (table : Table) (name : String) : List Column :=
  table.columns.filter fun column => column.name == name

/-- The tables of a name, in the order of their declaration. -/
def Config.tablesNamed (config : Config) (name : String) : List Table :=
  config.tables.filter fun table => table.name == name

/-- A scan of a table finds the first column of a name. -/
theorem Table.column?_eq_head? (table : Table) (name : String) :
    table.column? name = (table.columnsNamed name).head? :=
  List.head?_filter.symm

/-- The field map of a table keeps the last column of a name. -/
theorem FieldMap.physical?_ofTable (table : Table) (name : String) :
    (ofTable table).physical? name =
      (table.columnsNamed name).getLast?.map Column.physicalName := by
  rw [Table.columnsNamed, getLast?_filter, physical?, ofTable, ← List.map_reverse,
    List.find?_map, Option.map_map]
  rfl

/-- A scan of a configuration finds the first table of a name. -/
theorem Config.table?_eq_head? (config : Config) (name : String) :
    config.table? name = (config.tablesNamed name).head? :=
  List.head?_filter.symm

namespace Client

/-- The client of a configuration keeps the last table of a name. -/
@[simp]
theorem table?_ofPool (pool : Pool) (config : Config) (name : String) :
    (ofPool pool config).table? name = (config.tablesNamed name).getLast? :=
  (getLast?_filter config.tables _).symm

/-- A query is prepared against the table that the client has for its source. -/
theorem prepare_eq (client : Client) (query : Query) :
    client.prepare query =
      match client.table? query.dataSource with
      | none => .error (.invalidQuery (.unknownDataSource query.dataSource))
      | some table =>
          (query.compile table (.ofTable table) client.dialect client.mode).map
            fun compiled => ⟨query, .ofTable table, compiled⟩ := by
  unfold prepare
  cases client.table? query.dataSource with
  | none => rfl
  | some table => cases query.compile table (.ofTable table) client.dialect client.mode <;> rfl

/-- A configuration resolves a name to the first of its tables of that name, and a client of the
configuration, with every query that it prepares, to the last of them; so both resolve it alike
exactly if the first table of the name is the last one too, or is the same.  For a name of
columns, a table gives the first column of the name and its field map the physical name of the
last, which agree exactly if both columns have the same physical name. -/
theorem lookups_agree_iff (pool : Pool) (config : Config) (name : String) :
    (config.table? name = (config.tablesNamed name).head? ∧
        (ofPool pool config).table? name = (config.tablesNamed name).getLast? ∧
        ((ofPool pool config).table? name = config.table? name ↔
          (config.tablesNamed name).getLast? = (config.tablesNamed name).head?)) ∧
      (∀ query : Query, (ofPool pool config).prepare query =
        match (config.tablesNamed query.dataSource).getLast? with
        | none => .error (.invalidQuery (.unknownDataSource query.dataSource))
        | some table =>
            (query.compile table (.ofTable table) (ofPool pool config).dialect
              (ofPool pool config).mode).map fun compiled => ⟨query, .ofTable table, compiled⟩) ∧
      ∀ (table : Table) (first : Column), table.column? name = some first →
        (table.columnsNamed name).head? = some first ∧
          ∃ last, (table.columnsNamed name).getLast? = some last ∧
            (FieldMap.ofTable table).toPhysical name = last.physicalName ∧
            ((FieldMap.ofTable table).toPhysical name = first.physicalName ↔
              last.physicalName = first.physicalName) := by
  refine ⟨⟨config.table?_eq_head? name, table?_ofPool pool config name, ?_⟩,
    fun query => ?_, fun table first found => ?_⟩
  · rw [table?_ofPool, Config.table?_eq_head?]
  · rw [prepare_eq, table?_ofPool]
  · rw [Table.column?_eq_head?] at found
    have named : table.columnsNamed name ≠ [] := by
      intro none
      rw [none] at found
      cases found
    have last := List.getLast?_eq_some_getLast named
    have physical : (FieldMap.ofTable table).toPhysical name =
        ((table.columnsNamed name).getLast named).physicalName := by
      rw [FieldMap.toPhysical, FieldMap.physical?_ofTable, last]
      rfl
    exact ⟨found, _, last, physical, by rw [physical]⟩

/-- A table that is declared again for another relation, with a column that is declared again for
another physical one. -/
def renewedSales : Config where
  databaseUrl := "postgres://analytics@db/warehouse"
  tables := [⟨"sales", "sales_2023", "ts", [⟨"region", some "region_cd"⟩]⟩,
    ⟨"clicks", "clicks", "ts", []⟩,
    ⟨"sales", "sales_2024", "ts",
      [⟨"region", some "region_cd"⟩, ⟨"city", none⟩, ⟨"region", some "region_name"⟩]⟩]

/-- The client takes the second declarations, and a table that is declared once is the same for
both. -/
theorem lookups_agree_iff_of_renewedSales :
    ∃ table first, renewedSales.tablesNamed "sales" = [⟨"sales", "sales_2023", "ts",
        [⟨"region", some "region_cd"⟩]⟩, table] ∧
      (ofPool { reason := "refused" } renewedSales).table? "sales" = some table ∧
      (ofPool { reason := "refused" } renewedSales).table? "clicks" =
        renewedSales.table? "clicks" ∧
      table.column? "region" = some first ∧ first.physicalName = "region_cd" ∧
      (FieldMap.ofTable table).toPhysical "region" = "region_name" := by
  have sales := lookups_agree_iff { reason := "refused" } renewedSales "sales"
  have clicks := lookups_agree_iff { reason := "refused" } renewedSales "clicks"
  have region := (lookups_agree_iff { reason := "refused" } renewedSales "region").2.2
    ⟨"sales", "sales_2024", "ts",
      [⟨"region", some "region_cd"⟩, ⟨"city", none⟩, ⟨"region", some "region_name"⟩]⟩
    ⟨"region", some "region_cd"⟩ (by decide)
  obtain ⟨last, behind, physical, -⟩ := region.2
  cases behind
  exact ⟨_, _, rfl, sales.1.2.1, clicks.1.2.2.mpr rfl, rfl, rfl, physical⟩

/-- The client has another table for a name that is declared twice than its configuration, and the
field map another physical column than the table. -/
theorem renewed_names_found_apart :
    ((ofPool { reason := "refused" } renewedSales).table? "sales").map Table.relation =
        some "sales_2024" ∧
      (renewedSales.table? "sales").map Table.relation = some "sales_2023" ∧
      ∃ table ∈ renewedSales.tables,
        (table.column? "region").map Column.physicalName = some "region_cd" ∧
        (FieldMap.ofTable table).toPhysical "region" = "region_name" := by
  decide

end Client

end Rollup
