import Rollup.Proofs.Sql.Value

/-!
# Conditions on a column

What the conditions that dialects build on a column mean, where the column holds a text or
`NULL`.  They are written in five ways and mean the same in all of them: unknown for
`NULL`, and for a text that it equals, holds or matches the one asked for.
-/

namespace Rollup.Sql.Dialect

variable {environment : Environment} {column : Expr} {cell : Option String}

/-- A cast to the type of texts keeps texts and `NULL`. -/
theorem value_cast_textType (holds : column.value environment = cell.map .text) :
    (Expr.cast column environment.dialect.textType).value environment = cell.map .text := by
  have noFloat : environment.dialect.textType ≠ environment.dialect.floatType := by
    cases environment.dialect <;> simp [textType, floatType]
  cases cell with
  | none => rw [Expr.value, holds]; rfl
  | some text =>
      rw [Expr.value, holds]
      simp [Engine.cast, noFloat]

theorem value_equalityOperand (holds : column.value environment = cell.map .text) :
    (environment.dialect.equalityOperand column).value environment = cell.map .text := by
  have kept := value_cast_textType holds
  unfold equalityOperand
  split
  · exact kept
  · exact holds

theorem value_searchOperand (holds : column.value environment = cell.map .text) :
    (environment.dialect.searchOperand column).value environment = cell.map .text := by
  have kept := value_cast_textType holds
  unfold searchOperand
  split
  · exact holds
  · exact holds
  all_goals exact kept

/-- Equality holds of the text itself. -/
theorem truth_equals (holds : column.value environment = cell.map .text) (value : String) :
    (environment.dialect.equals column value).truth environment =
      cell.map fun text => decide (text = value) := by
  have operand := value_equalityOperand holds
  rw [equals, Expr.truth, Expr.value, operand]
  cases cell <;> rfl

/-- A `LIKE` over texts is decided by their pattern. -/
theorem truth_like {expr pattern : Expr} {signs : String}
    (holds : expr.value environment = cell.map .text)
    (literal : pattern.value environment = some (.text signs)) (escape : Option Char) :
    (Expr.like expr pattern escape).truth environment =
      cell.bind fun text => like? escape text.toList signs.toList := by
  rw [Expr.truth, Expr.value, holds, literal]
  cases cell with
  | none => rfl
  | some text => exact Truth.ofValue_map_truth _

/-- A pattern made for a text is like the texts that hold it. -/
theorem truth_like_containsPattern {expr pattern : Expr} {needle : String}
    (holds : expr.value environment = cell.map .text)
    (literal : pattern.value environment = some (.text (containsPattern needle))) :
    (Expr.like expr pattern (some likeEscape)).truth environment =
      cell.map fun text => decide (needle.toList <:+: text.toList) := by
  rw [truth_like holds literal]
  simp only [like?_containsPattern]
  cases cell <;> rfl

/-- A position above zero is that of a text that occurs. -/
theorem truth_instr_pos {expr : Expr} (holds : expr.value environment = cell.map .text)
    (needle : String) :
    (Expr.compare (.call "instr" [expr, .text needle]) .greater (.integer 0)).truth environment =
      cell.map fun text => decide (needle.toList <:+: text.toList) := by
  have called : (Expr.call "instr" [expr, .text needle]).value environment =
      cell.map fun text => .integer (position needle.toList text.toList) := by
    rw [Expr.value, Expr.values, holds]
    exact environment.engine.call_instr cell needle
  rw [Expr.truth, Expr.value, called]
  cases cell with
  | none => rfl
  | some text =>
      have positive : (((0 : ℤ) : ℚ) < (position needle.toList text.toList : ℤ)) ↔
          needle.toList <:+: text.toList := by
        rw [Int.cast_lt, Int.natCast_pos, position_pos_iff]
      change some (decide (((0 : ℤ) : ℚ) < (position needle.toList text.toList : ℤ))) = _
      rw [Option.map_some, decide_eq_decide.mpr positive]

/-- A search holds of the texts that hold the one searched for. -/
theorem truth_contains (holds : column.value environment = cell.map .text) (needle : String) :
    (environment.dialect.contains column needle).truth environment =
      cell.map fun text => decide (needle.toList <:+: text.toList) := by
  have operand := value_searchOperand holds
  unfold contains
  split
  · exact truth_instr_pos operand needle
  · exact truth_like_containsPattern operand rfl

/-- A search that tells upper and lower case not apart compares lower-cased texts. -/
theorem truth_containsInsensitive (keeps : KeepsPatternSigns environment.engine.lower)
    (holds : column.value environment = cell.map .text) (needle : String) :
    (environment.dialect.containsInsensitive column needle).truth environment =
      cell.map fun text =>
        decide ((needle.map environment.engine.lower).toList <:+:
          (text.map environment.engine.lower).toList) := by
  have operand := value_searchOperand holds
  have lowered : (Expr.lower (environment.dialect.searchOperand column)).value environment =
      (cell.map (·.map environment.engine.lower)).map .text := by
    rw [Expr.lower, Expr.value, Expr.values, operand, Expr.values,
      environment.engine.call_lower, Option.map_map]
    rfl
  have pattern : (Expr.lower (.text (containsPattern needle))).value environment =
      some (.text (containsPattern (needle.map environment.engine.lower))) := by
    rw [← keeps.map_containsPattern]
    exact environment.engine.call_lower (some (containsPattern needle))
  rw [containsInsensitive, truth_like_containsPattern lowered pattern, Option.map_map]
  rfl

/-- A regular expression is matched by the engine, in every dialect that has them. -/
theorem truth_matchesRegex (holds : column.value environment = cell.map .text)
    {pattern : String} {expr : Expr}
    (compiled : environment.dialect.matchesRegex column pattern = .ok expr) :
    expr.truth environment =
      cell.map fun text => environment.engine.matchesRegex text pattern := by
  have operand := value_searchOperand holds
  have byCall {function : String} (named : function = "REGEXP_LIKE" ∨ function = "regexp_like") :
      (Expr.call function [environment.dialect.searchOperand column, .text pattern]).truth
          environment =
        cell.map fun text => environment.engine.matchesRegex text pattern := by
    rw [Expr.truth, Expr.value, Expr.values, operand]
    change Truth.ofValue
      (environment.engine.call function [cell.map .text, some (.text pattern)]) = _
    rw [environment.engine.call_regex named]
    cases cell <;> rfl
  unfold matchesRegex at compiled
  split at compiled
  · cases compiled
    exact byCall (.inl rfl)
  · cases compiled
    rw [Expr.truth, Expr.value, operand]
    cases cell <;> rfl
  · cases compiled
    rw [Expr.truth, Expr.value, operand]
    cases cell <;> rfl
  · cases compiled
  · cases compiled
    exact byCall (.inr rfl)

end Rollup.Sql.Dialect
