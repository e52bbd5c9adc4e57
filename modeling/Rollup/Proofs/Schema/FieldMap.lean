import Mathlib.Data.List.Nodup
import Rollup.Schema.FieldMap

/-!
# Names in field maps

Which names a field map goes between.  A logical name with an entry is among the logical
names of its physical column.
-/

namespace Rollup.FieldMap

variable {fields : FieldMap}

@[simp]
theorem mem_insertName_iff {name new : String} {names : List String} :
    name ∈ insertName new names ↔ name = new ∨ name ∈ names := by
  induction names with
  | nil => simp [insertName]
  | cons first rest inductionHypothesis =>
      by_cases same : new = first
      · simp [insertName, same]
      · by_cases before : new < first
        · simp [insertName, same, before]
        · simp only [insertName, if_neg same, if_neg before, List.mem_cons, inductionHypothesis]
          exact or_left_comm

@[simp]
theorem mem_foldl_insertName_iff {name : String} {entries : List (String × String)}
    {names : List String} :
    name ∈ entries.foldl (fun names entry => insertName entry.1 names) names ↔
      (∃ entry ∈ entries, entry.1 = name) ∨ name ∈ names := by
  induction entries generalizing names with
  | nil => simp
  | cons entry rest inductionHypothesis =>
      rw [List.foldl_cons, inductionHypothesis, mem_insertName_iff]
      simp only [List.mem_cons, exists_eq_or_imp]
      rw [or_left_comm, or_assoc, eq_comm]

/-- The logical names of a physical column are those with an entry for it, or its own name
when there are none. -/
theorem mem_toLogical_iff {logical physical : String} :
    logical ∈ fields.toLogical physical ↔
      (logical, physical) ∈ fields.entries ∨
        logical = physical ∧ ∀ entry ∈ fields.entries, entry.2 ≠ physical := by
  have listed (entry : String × String) :
      entry ∈ (fields.entries.filter fun entry => entry.2 == physical) ↔
        entry ∈ fields.entries ∧ entry.2 = physical := by
    rw [List.mem_filter, beq_iff_eq]
  unfold toLogical
  cases found : fields.entries.filter fun entry => entry.2 == physical with
  | nil =>
      have absent : ∀ entry ∈ fields.entries, entry.2 ≠ physical := by
        intro entry member same
        have kept := (listed entry).mpr ⟨member, same⟩
        rw [found] at kept
        cases kept
      rw [List.mem_singleton]
      constructor
      · intro own
        exact .inr ⟨own, absent⟩
      · rintro (entry | ⟨own, _⟩)
        · exact absurd rfl (absent _ entry)
        · exact own
  | cons first rest =>
      simp only [← found, mem_foldl_insertName_iff, listed]
      constructor
      · rintro (⟨⟨_, _⟩, ⟨member, rfl⟩, rfl⟩ | empty)
        · exact .inl member
        · cases empty
      · rintro (member | ⟨_, absent⟩)
        · exact .inl ⟨_, ⟨member, rfl⟩, rfl⟩
        · have kept := (listed first).mp (found ▸ List.mem_cons_self)
          exact absurd kept.2 (absent first kept.1)

theorem entry_of_physical? {logical physical : String}
    (given : fields.physical? logical = some physical) : (logical, physical) ∈ fields.entries := by
  obtain ⟨⟨name, column⟩, found, rfl⟩ := Option.map_eq_some_iff.mp given
  have same : name = logical := by simpa using List.find?_some found
  rw [← same]
  exact List.mem_reverse.mp (List.mem_of_find?_eq_some found)

/-- A logical name is among those of its physical column, or passes unchanged. -/
theorem mem_toLogical_toPhysical (fields : FieldMap) (logical : String) :
    logical ∈ fields.toLogical (fields.toPhysical logical) ∨
      fields.toPhysical logical = logical := by
  unfold toPhysical
  cases given : fields.physical? logical with
  | none => exact .inr rfl
  | some physical => exact .inl (mem_toLogical_iff.mpr (.inl (entry_of_physical? given)))

/-! ## Maps that give every logical name one column -/

/-- No logical name has two entries. -/
def IsFunctional (fields : FieldMap) : Prop :=
  (fields.entries.map Prod.fst).Nodup

theorem isFunctional_ofTable {table : Table}
    (distinct : (table.columns.map Column.name).Nodup) : (ofTable table).IsFunctional := by
  unfold IsFunctional ofTable
  rw [List.map_map]
  exact distinct

/-- An entry is the only one of its logical name, and so the one that counts. -/
theorem IsFunctional.physical?_eq_some_iff (functional : fields.IsFunctional)
    {logical physical : String} :
    fields.physical? logical = some physical ↔ (logical, physical) ∈ fields.entries := by
  constructor
  · exact entry_of_physical?
  · intro entry
    unfold physical?
    cases found : fields.entries.reverse.find? fun entry => entry.1 == logical with
    | none =>
        have other := List.find?_eq_none.mp found _ (List.mem_reverse.mpr entry)
        exact absurd (beq_self_eq_true logical) other
    | some first =>
        have same : first.1 = logical := by simpa using List.find?_some found
        have member := List.mem_reverse.mp (List.mem_of_find?_eq_some found)
        rw [List.inj_on_of_nodup_map functional member entry same, Option.map_some]

/-- A name without an entry is its own column. -/
theorem toPhysical_of_not_isMapped {logical : String} (unmapped : ¬ fields.isMapped logical) :
    fields.toPhysical logical = logical := by
  unfold isMapped at unmapped
  rw [Option.not_isSome_iff_eq_none] at unmapped
  rw [toPhysical, unmapped, Option.getD_none]

/-- A name has an entry for a column exactly when it has an entry and goes to the column. -/
theorem IsFunctional.entry_iff (functional : fields.IsFunctional) {logical physical : String} :
    (logical, physical) ∈ fields.entries ↔
      fields.isMapped logical ∧ fields.toPhysical logical = physical := by
  rw [← functional.physical?_eq_some_iff, isMapped, toPhysical]
  cases fields.physical? logical with
  | none => simp
  | some column => simp

end Rollup.FieldMap
