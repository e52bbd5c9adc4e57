import Rollup.Proofs.Sql.Legible
import Rollup.Proofs.Sql.Outline
import Rollup.Proofs.Sql.Texts

/-!
# Names and strings stay in their quotes

A lexer finds in the text of a statement the names and strings of its tree, in the order in
which they are written and each with the payload that it has in the tree; and what stands
outside quotes does not depend on them.
-/

namespace Rollup.Sql

/-- A rendered statement is the text of its tokens. -/
theorem SelectFrom.eq_write_of_render {dialect : Dialect} {select : Select} {sql : String}
    (rendered : select.render dialect = .ok sql) : sql = dialect.write (select.tokens dialect) := by
  rw [render] at rendered
  split at rendered
  · cases rendered
    rfl
  · cases rendered

/-- What a lexer finds in the text of a statement. -/
def SelectFrom.lexemes (dialect : Dialect) (select : Select) : List Lexeme :=
  (select.tokens dialect).flatMap Token.lexemes

theorem SelectFrom.scan_of_render {dialect : Dialect} {select : Select} {sql : String}
    (plain : select.NamesArePlain dialect) (rendered : select.render dialect = .ok sql) :
    dialect.scan sql = some (select.lexemes dialect) := by
  rw [eq_write_of_render rendered]
  exact (legible_tokens plain).scan_write

@[simp]
theorem SelectFrom.filter_isQuoted_lexemes (dialect : Dialect) (select : Select) :
    (select.lexemes dialect).filter Lexeme.isQuoted = select.texts dialect.nullOrdering := by
  rw [lexemes, Sql.filter_isQuoted_lexemes, quoted_tokens]

/-- Outside quotes, what a lexer finds depends on the outline alone. -/
theorem SelectFrom.outline_lexemes_eq (dialect : Dialect) {other select : Select}
    (sameOutline : other.outline = select.outline) :
    (other.lexemes dialect).map Lexeme.outline = (select.lexemes dialect).map Lexeme.outline := by
  rw [lexemes, lexemes, outline_lexemes, outline_lexemes, ← outline_tokens, sameOutline,
    outline_tokens]

/-- No name or string escapes its quotes.  A lexer of the dialect finds in the text of a
statement exactly its names and strings, as they are and in the order in which they are
written; and outside quotes the text is that of every other statement of the same
outline. -/
theorem SelectFrom.quotes_hold {dialect : Dialect} {select : Select} {sql : String}
    (plain : select.NamesArePlain dialect) (rendered : select.render dialect = .ok sql) :
    ∃ lexemes, dialect.scan sql = some lexemes ∧
      lexemes.filter Lexeme.isQuoted = select.texts dialect.nullOrdering ∧
      ∀ (other : Select) (otherSql : String), other.NamesArePlain dialect →
        other.render dialect = .ok otherSql → other.outline = select.outline →
          ∃ otherLexemes, dialect.scan otherSql = some otherLexemes ∧
            otherLexemes.map Lexeme.outline = lexemes.map Lexeme.outline := by
  refine ⟨_, scan_of_render plain rendered, select.filter_isQuoted_lexemes dialect, ?_⟩
  intro other otherSql otherPlain otherRendered sameOutline
  exact ⟨_, scan_of_render otherPlain otherRendered, outline_lexemes_eq dialect sameOutline⟩

/-- A statement that lists a column of a table under a name, where the column holds a
text. -/
def searchStatement (dialect : Dialect) (column name table text : String) : Select where
  projections := [.expr (.column column) (some name)]
  source := .table [table]
  filter := some (dialect.contains (.column column) text)

/-- Names and a text that try to close their quotes, next to names and a text that do not. -/
theorem SelectFrom.quotes_hold_of_hostile_names :
    ∃ lexemes otherLexemes,
      Dialect.mysql.scan (Dialect.mysql.write (SelectFrom.tokens .mysql
        (searchStatement .mysql "a\x60 -- " "b\x22\x27" "s\x60.\x60t" "\\\x27 OR 1=1; -- \\"))) =
          some lexemes ∧
      lexemes.filter Lexeme.isQuoted =
        [.identifier "a\x60 -- ", .identifier "b\x22\x27", .identifier "s\x60.\x60t",
          .identifier "a\x60 -- ", .string "%\\\x27 OR 1=1; -- \\%", .string "!"] ∧
      Dialect.mysql.scan (Dialect.mysql.write (SelectFrom.tokens .mysql
        (searchStatement .mysql "city" "town" "places" "Berlin"))) = some otherLexemes ∧
      otherLexemes.map Lexeme.outline = lexemes.map Lexeme.outline := by
  obtain ⟨lexemes, scanned, found, others⟩ :=
    @quotes_hold .mysql
      (searchStatement .mysql "a\x60 -- " "b\x22\x27" "s\x60.\x60t" "\\\x27 OR 1=1; -- \\") _
      (by decide) rfl
  obtain ⟨otherLexemes, otherScanned, same⟩ :=
    others (searchStatement .mysql "city" "town" "places" "Berlin") _ (by decide) rfl rfl
  exact ⟨lexemes, otherLexemes, scanned, found.trans (by decide), otherScanned, same⟩

end Rollup.Sql
