import Rollup.Proofs.Document.Query
import Rollup.Proofs.Document.Scalars
import Rollup.Proofs.Double.Numeral
import Rollup.Proofs.Sql.Quoting

/-!
# Floating-point literals of compiled queries

A floating-point literal is carried from a scalar in the text of a query to the text of its
statement without a check.  So it is a number exactly if the scalar is: the words that YAML has
for infinity and for an absent number come out as words that are none in SQL.
-/

namespace Rollup

open Document Sql

namespace Query

/-- Where the floating-point literals of a compiled query come from, and which of them are
numbers, the query being read from a text. -/
structure LiteralsFrom (text : String) (query : Query) (dialect : Dialect)
    (mode : PostAggregationMode) (compiled : Compiled) : Prop where
  /-- The doubles of the statement stand in its text in their order, each in a place of its
  own. -/
  written : compiled.sql = dialect.write (compiled.statement.tokens dialect) ∧
    (floatTokens compiled.statement.floats).Sublist (compiled.statement.tokens dialect)
  /-- They are the constants that the having tree compares with and, where the engine computes
  post-aggregations, the floating-point constants of these. -/
  given : ∀ value, value ∈ compiled.statement.floats ↔
    (∃ having ∈ query.having, value ∈ having.thresholds) ∨
      mode = .sql ∧ ∃ post ∈ query.postAggregations, .float value ∈ post.constants
  /-- Each of them is denoted by a scalar of the document, and is written as a number exactly
  unless that scalar is a word for infinity or an absent number; then it is written as a word
  too. -/
  read : ∃ document, Document.ofYaml? outline text = some document ∧
    ∀ value ∈ compiled.statement.floats, ∃ tag style scalar,
      .scalar tag style scalar ∈ document.leaves ∧
      (Document.scalar tag style scalar).Denotes value ∧
      (Double.IsNumericLiteral value.literalText.toList ↔ scalar ∉ nonFiniteWords) ∧
      (scalar ∈ nonFiniteWords → value.literalText ∈ ["NaN", "inf", "-inf"])

variable {text : String} {query : Query} {table : Table} {fields : FieldMap} {dialect : Dialect}
  {mode : PostAggregationMode} {compiled : Compiled}

/-- Every double of a query that is read from a text is denoted by a scalar of its document. -/
theorem exists_scalar_of_ofYaml? (reads : layout.ofYaml? text = some query) :
    ∃ document, Document.ofYaml? outline text = some document ∧
      query.ForallDoubles fun value => ∃ tag style scalar,
        .scalar tag style scalar ∈ document.leaves ∧
          (Document.scalar tag style scalar).Denotes value := by
  obtain ⟨document, found, decoded⟩ := Option.bind_eq_some_iff.mp reads
  refine ⟨document, found, ?_⟩
  refine carries_decode .yaml document query ?_ (toOption_eq_some_iff.mp decoded)
  intro leaf listed value denotes
  rcases leavesAreRaw_of_ofYaml? found leaf listed with ⟨tag, style, scalar, rfl⟩ | rfl
  · exact ⟨tag, style, scalar, listed, denotes⟩
  · obtain ⟨_, unresolved, _⟩ := denotes
    cases unresolved

/-- Every floating-point literal of a compiled query is carried from a scalar of the text that
the query is read from, and is a number exactly if the scalar is. -/
theorem literals_carried (reads : layout.ofYaml? text = some query)
    (compiles : query.compile table fields dialect mode = .ok compiled) :
    LiteralsFrom text query dialect mode compiled := by
  obtain ⟨statement, stated, remaining⟩ := bind_eq_ok_iff.mp compiles
  obtain ⟨sql, rendered, built⟩ := bind_eq_ok_iff.mp remaining
  cases built
  have given := mem_floats_statement_iff stated
  refine ⟨⟨SelectFrom.eq_write_of_render rendered, statement.floatTokens_sublist dialect⟩,
    given, ?_⟩
  obtain ⟨document, found, scalars⟩ := exists_scalar_of_ofYaml? reads
  refine ⟨document, found, fun value listed => ?_⟩
  have denoted : ∃ tag style scalar, .scalar tag style scalar ∈ document.leaves ∧
      (Document.scalar tag style scalar).Denotes value := by
    rcases (given value).mp listed with ⟨having, known, threshold⟩ | ⟨_, post, known, constant⟩
    · exact scalars.having having known value threshold
    · exact scalars.posts post known value constant
  obtain ⟨tag, style, scalar, leaf, denotes⟩ := denoted
  have finite := isFinite_iff_of_denotes denotes
  refine ⟨tag, style, scalar, leaf, denotes,
    Double.isNumericLiteral_literalText_iff.trans finite, fun word => ?_⟩
  exact Double.literalText_mem_of_not_isFinite fun isFinite => finite.mp isFinite word

/-- What is computed of the compiled form of a text is computed of a query and its compiled
form. -/
theorem exists_compiled {α : Type} {property : Compiled → α} {value : α}
    (computed : ((layout.ofYaml? text).bind fun query =>
      (query.compile table fields dialect mode).toOption).map property = some value) :
    ∃ query compiled, layout.ofYaml? text = some query ∧
      query.compile table fields dialect mode = .ok compiled ∧ property compiled = value := by
  obtain ⟨compiled, found, same⟩ := Option.map_eq_some_iff.mp computed
  obtain ⟨query, reads, compiles⟩ := Option.bind_eq_some_iff.mp found
  exact ⟨query, compiled, reads, toOption_eq_some_iff.mp compiles, same⟩

/-- A number of rows and a rate where the rows are few. -/
def fewRowsText : String :=
  "dataSource: sales\naggregations:\n- type: count\n  name: total\n" ++
    "postAggregations:\n- type: constant\n  name: rate\n  value: 0.5\n" ++
    "having:\n  type: lessThan\n  aggregation: total\n  value: 100\n"

/-- The engine computes the post-aggregation, so its constant is written as well as that of the
having tree, which is a whole number in the text of the query. -/
theorem literals_carried_of_few_rows :
    ∃ query compiled, layout.ofYaml? fewRowsText = some query ∧
      query.compile { name := "sales", relation := "sales" } ⟨[]⟩ .ansi .sql = .ok compiled ∧
      compiled.statement.floats.map Double.literalText = ["0.5", "100.0"] ∧
      LiteralsFrom fewRowsText query .ansi .sql compiled := by
  have written : ((layout.ofYaml? fewRowsText).bind fun query =>
      (query.compile { name := "sales", relation := "sales" } ⟨[]⟩ .ansi .sql).toOption).map
        (fun compiled => compiled.statement.floats.map Double.literalText) =
          some ["0.5", "100.0"] := by
    decide +kernel
  obtain ⟨query, compiled, reads, compiles, literals⟩ := exists_compiled written
  exact ⟨query, compiled, reads, compiles, literals, literals_carried reads compiles⟩

/-- A number of rows where it is greater than an absent number. -/
def absentThresholdText : String :=
  "dataSource: sales\naggregations:\n- type: count\n  name: total\n" ++
    "having:\n  type: greaterThan\n  aggregation: total\n  value: .nan\n"

/-- A having tree that compares with an absent number is compiled, and the statement compares
with a word. -/
theorem absent_threshold_written_as_word :
    ∃ query compiled, layout.ofYaml? absentThresholdText = some query ∧
      query.compile { name := "sales", relation := "sales" } ⟨[]⟩ .ansi .sql = .ok compiled ∧
      compiled.sql =
        "SELECT COUNT(*) AS \x22total\x22\nFROM \x22sales\x22\nHAVING COUNT(*) > NaN" ∧
      ∃ value ∈ compiled.statement.floats,
        ¬ Double.IsNumericLiteral value.literalText.toList := by
  have written : ((layout.ofYaml? absentThresholdText).bind fun query =>
      (query.compile { name := "sales", relation := "sales" } ⟨[]⟩ .ansi .sql).toOption).map
        (fun compiled => (compiled.sql, compiled.statement.floats)) =
          some ("SELECT COUNT(*) AS \x22total\x22\nFROM \x22sales\x22\nHAVING COUNT(*) > NaN",
            [.nan]) := by
    decide +kernel
  obtain ⟨query, compiled, reads, compiles, same⟩ := exists_compiled written
  obtain ⟨sql, floats⟩ := Prod.mk.inj same
  refine ⟨query, compiled, reads, compiles, sql, .nan, ?_, ?_⟩
  · rw [floats]
    exact List.mem_cons_self
  · rw [Double.isNumericLiteral_literalText_iff]
    decide

end Query

end Rollup
