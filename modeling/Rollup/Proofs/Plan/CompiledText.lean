import Rollup.Proofs.Plan.BareNames
import Rollup.Proofs.Plan.Scope
import Rollup.Proofs.Sql.Quoting

/-!
# The text of compiled queries

Whatever a query, its table and the mapping of its columns hold, the text that it is compiled
to keeps their names and strings in quotes, and its conditions are read as they were built.
-/

namespace Rollup.Query

open Sql

variable {query : Query} {table : Table} {fields : FieldMap} {dialect : Dialect}
  {mode : PostAggregationMode} {compiled : Compiled}

theorem render_of_compile (built : query.compile table fields dialect mode = .ok compiled) :
    query.statement table fields dialect mode = .ok compiled.statement ∧
      compiled.statement.render dialect = .ok compiled.sql := by
  obtain ⟨statement, compiledStatement, built⟩ := bind_eq_ok_iff.mp built
  obtain ⟨sql, rendered, built⟩ := bind_eq_ok_iff.mp built
  cases built
  exact ⟨compiledStatement, rendered⟩

/-- A lexer finds in the text of a compiled query what it finds in its statement. -/
theorem scan_of_compile (built : query.compile table fields dialect mode = .ok compiled) :
    dialect.scan compiled.sql = some (compiled.statement.lexemes dialect) := by
  obtain ⟨compiledStatement, rendered⟩ := render_of_compile built
  exact SelectFrom.scan_of_render (statement_namesArePlain compiledStatement) rendered

/-- No name or string of a query escapes its quotes.  A lexer of the dialect finds in the text
of a compiled query exactly the names and strings of its statement, in order; and outside quotes
the text is that of every other compiled query whose statement has the same outline. -/
theorem compiled_names_stay_quoted
    (built : query.compile table fields dialect mode = .ok compiled) :
    ∃ lexemes, dialect.scan compiled.sql = some lexemes ∧
      lexemes.filter Lexeme.isQuoted = compiled.statement.texts dialect.nullOrdering ∧
      ∀ (other : Query) (otherTable : Table) (otherFields : FieldMap)
        (otherMode : PostAggregationMode) (otherCompiled : Compiled),
        other.compile otherTable otherFields dialect otherMode = .ok otherCompiled →
        otherCompiled.statement.outline = compiled.statement.outline →
          ∃ otherLexemes, dialect.scan otherCompiled.sql = some otherLexemes ∧
            otherLexemes.map Lexeme.outline = lexemes.map Lexeme.outline := by
  refine ⟨_, scan_of_compile built,
    compiled.statement.filter_isQuoted_lexemes dialect, ?_⟩
  intro other otherTable otherFields otherMode otherCompiled otherBuilt sameOutline
  exact ⟨_, scan_of_compile otherBuilt, SelectFrom.outline_lexemes_eq dialect sameOutline⟩

/-- The conditions of the statement of a query, on rows and on groups, are built as conditions
are for its dialect. -/
theorem conditions_of_statement {statement : Select}
    (compiled : query.statement table fields dialect mode = .ok statement) :
    (∀ expr ∈ statement.core.filter, BuiltCondition dialect expr) ∧
      ∀ expr ∈ statement.core.having, BuiltCondition dialect expr := by
  obtain ⟨inner, compiledInner, shape⟩ := statement_eq_or_isAround compiled
  have conditions := aggregateStatement_conditions compiledInner
  rcases shape with rfl | ⟨_, around⟩
  · rw [(aggregateStatement_isWellGrouped compiledInner).core_eq]
    exact conditions
  · rw [around.core_eq]
    exact conditions

/-- The text of a condition of a compiled query, on rows or on groups, has one reading.  It is a
condition over the same predicates, and whatever truth values these have, it has that of the
expression. -/
theorem compiled_conditions_read_back
    (built : query.compile table fields dialect mode = .ok compiled) {expr : Expr}
    (listed : expr ∈ compiled.statement.core.filter ∨ expr ∈ compiled.statement.core.having) :
    ∃ condition : Condition Expr,
      (∀ read, dialect.ReadsAs (expr.render dialect) read ↔
        read = condition.map Expr.writtenSigns) ∧
      ∀ assign : Expr → Truth, condition.truth assign = expr.truthUnder assign := by
  obtain ⟨filter, having⟩ := conditions_of_statement (render_of_compile built).1
  have condition : BuiltCondition dialect expr := listed.elim (filter expr) (having expr)
  exact condition.isCondition.exists_reading dialect

end Rollup.Query
