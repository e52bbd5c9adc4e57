import Rollup.Error
import Rollup.Sql.Expr
import Rollup.Sql.Token

/-!
# Dialects

What the SQL engines do differently, decided where a statement is built and where
it is written.  Plain ANSI SQL is the base; every other dialect says where it
differs.
-/

namespace Rollup.Sql

/-- The engines that statements are written for. -/
inductive DialectName where
  | ansi
  | postgres
  | mysql
  | sqlite
  | presto
  deriving DecidableEq, Inhabited

namespace DialectName

/-- The text of an engine's name. -/
def text : DialectName → String
  | .ansi => "ansi"
  | .postgres => "postgres"
  | .mysql => "mysql"
  | .sqlite => "sqlite"
  | .presto => "presto"

/-- Every engine, in the order of their positions. -/
def every : List DialectName :=
  [.ansi, .postgres, .mysql, .sqlite, .presto]

end DialectName

/-- The SQL of an engine.  Presto may keep timestamps as text in a format. -/
inductive Dialect where
  | ansi
  | postgres
  | mysql
  | sqlite
  | presto (timestampFormat : Option String)
  deriving DecidableEq

/-- How a sort places absent values. -/
inductive NullOrdering where
  /-- By keywords after the key. -/
  | keyword
  /-- By a key of its own before the key. -/
  | emulated
  deriving DecidableEq

/-- The character that takes the meaning from a sign of a generated pattern. -/
def likeEscape : Char := '!'

/-- The pattern of the texts that hold a given text: its pattern signs are
escaped, and anything may stand around it. -/
def containsPattern (text : String) : String :=
  let escaped := text.toList.flatMap fun c =>
    if c = '%' ∨ c = '_' ∨ c = likeEscape then [likeEscape, c] else [c]
  String.ofList ('%' :: escaped ++ ['%'])

/-- The name of a time part in an `EXTRACT`. -/
def extractField : TimePart → String
  | .year => "YEAR"
  | .quarter => "QUARTER"
  | .month => "MONTH"
  | .dayOfYear => "DOY"
  | .hour => "HOUR"
  | .minute => "MINUTE"
  | .isoYear => "ISOYEAR"
  | .isoWeek => "WEEK"

namespace Dialect

/-- The dialect of an engine; only Presto has a use for the timestamp format. -/
def ofName (name : DialectName) (timestampFormat : Option String) : Dialect :=
  match name with
  | .ansi => .ansi
  | .postgres => .postgres
  | .mysql => .mysql
  | .sqlite => .sqlite
  | .presto => .presto timestampFormat

/-- The name of a dialect's engine. -/
def name : Dialect → DialectName
  | .ansi => .ansi
  | .postgres => .postgres
  | .mysql => .mysql
  | .sqlite => .sqlite
  | .presto _ => .presto

/-! ## Quoting -/

/-- The quote around identifiers: a double quote, for MySQL a grave accent. -/
def identifierQuote : Dialect → Char
  | .mysql => '\x60'
  | _ => '\x22'

/-- An identifier in quotes. -/
def quoteIdentifier (dialect : Dialect) (name : String) : String :=
  quoted dialect.identifierQuote name

/-- Each backslash of a text written twice. -/
def doubleBackslashes (text : String) : String :=
  String.ofList (text.toList.flatMap fun c => if c = '\\' then [c, c] else [c])

/-- A string in quotes.  MySQL reads a backslash as an escape, so there it is
doubled. -/
def quoteString (dialect : Dialect) (value : String) : String :=
  match dialect with
  | .mysql => quoted '\x27' (doubleBackslashes value)
  | _ => quoted '\x27' value

/-- The text of a token. -/
def writeToken (dialect : Dialect) : Token → String
  | .verbatim text => text
  | .identifier name => dialect.quoteIdentifier name
  | .string value => dialect.quoteString value

/-- The text of some tokens. -/
def write (dialect : Dialect) (tokens : List Token) : String :=
  String.join (tokens.map dialect.writeToken)

/-! ## Types -/

/-- The type of texts in casts. -/
def textType : Dialect → String
  | .postgres => "TEXT"
  | .mysql => "CHAR"
  | .sqlite => "TEXT"
  | _ => "VARCHAR"

/-- The type of integers in casts. -/
def integerType : Dialect → String
  | .mysql => "SIGNED"
  | .sqlite => "INTEGER"
  | _ => "BIGINT"

/-- The type of floating-point numbers in casts. -/
def floatType : Dialect → String
  | .postgres => "DOUBLE PRECISION"
  | .sqlite => "REAL"
  | _ => "DOUBLE"

/-! ## Conditions on a column -/

/-- A column as equality compares it: Presto compares only like types. -/
def equalityOperand (dialect : Dialect) (column : Expr) : Expr :=
  match dialect with
  | .presto _ => .cast column dialect.textType
  | _ => column

/-- A column as text searches see it. -/
def searchOperand (dialect : Dialect) (column : Expr) : Expr :=
  match dialect with
  | .ansi | .mysql => column
  | .postgres | .sqlite | .presto _ => .cast column dialect.textType

/-- The condition that a column has a value. -/
def equals (dialect : Dialect) (column : Expr) (value : String) : Expr :=
  .compare (dialect.equalityOperand column) .equal (.text value)

/-- The condition that a column holds a text. -/
def contains (dialect : Dialect) (column : Expr) (text : String) : Expr :=
  let operand := dialect.searchOperand column
  match dialect with
  | .sqlite => .compare (.call "instr" [operand, .text text]) .greater (.integer 0)
  | _ => .like operand (.text (containsPattern text)) (some likeEscape)

/-- The condition that a column holds a text, upper and lower case being the
same. -/
def containsInsensitive (dialect : Dialect) (column : Expr) (text : String) : Expr :=
  .like (.lower (dialect.searchOperand column)) (.lower (.text (containsPattern text)))
    (some likeEscape)

/-- The condition that a column matches a regular expression.  SQLite has no
operator for it. -/
def matchesRegex (dialect : Dialect) (column : Expr) (pattern : String) : Except Error Expr :=
  let operand := dialect.searchOperand column
  match dialect with
  | .ansi => .ok (.call "REGEXP_LIKE" [operand, .text pattern])
  | .postgres => .ok (.compare operand .tilde (.text pattern))
  | .mysql => .ok (.compare operand .regexp (.text pattern))
  | .sqlite => .error (.unsupported (.regexFilter pattern))
  | .presto _ => .ok (.call "regexp_like" [operand, .text pattern])

/-! ## Aggregates -/

/-- The type that aggregates of a kind are read back in. -/
def aggregateType (dialect : Dialect) (isFloat : Bool) : String :=
  if isFloat then dialect.floatType else dialect.integerType

/-- An aggregate call as a statement projects it.  PostgreSQL and MySQL would give a
decimal, so there it is cast. -/
def projectAggregate (dialect : Dialect) (call : Expr) (isFloat : Bool) : Expr :=
  match dialect with
  | .postgres | .mysql => .cast call (dialect.aggregateType isFloat)
  | _ => call

/-! ## Time -/

/-- The timestamp column as a timestamp. -/
def timestampColumn (dialect : Dialect) (column : Expr) : Expr :=
  match dialect with
  | .presto (some format) => .call "date_parse" [column, .text format]
  | _ => column

/-- A timestamp as text, for rows grouped by the timestamp itself. -/
def timestampText (dialect : Dialect) (timestamp : Expr) : Expr :=
  .cast timestamp dialect.textType

/-- An instant as a statement compares with it. -/
def timestampLiteral (dialect : Dialect) (instant : Instant) : Expr :=
  match dialect with
  | .mysql | .sqlite => .text instant.secondText
  | _ => .literal (.timestamp instant)

/-- MySQL's functions for the parts of a timestamp.  Mode 3 numbers weeks as
ISO-8601 does. -/
def mysqlTimePart (timestamp : Expr) : TimePart → Expr
  | .year => .call "YEAR" [timestamp]
  | .quarter => .call "QUARTER" [timestamp]
  | .month => .call "MONTH" [timestamp]
  | .dayOfYear => .call "DAYOFYEAR" [timestamp]
  | .hour => .call "HOUR" [timestamp]
  | .minute => .call "MINUTE" [timestamp]
  | .isoWeek => .call "WEEK" [timestamp, .integer 3]
  | .isoYear =>
      let yearWeek := Expr.call "YEARWEEK" [timestamp, .integer 3]
      .cast (.call "FLOOR" [.arithmetic .divide yearWeek (.integer 100)]) "SIGNED"

/-- A number that SQLite formats from a timestamp. -/
def sqliteFormatted (format : String) (timestamp : Expr) : Expr :=
  .cast (.call "strftime" [.text format, timestamp]) "INTEGER"

/-- SQLite's formats for the parts of a timestamp; it has none for the quarter,
which is computed from the month. -/
def sqliteTimePart (timestamp : Expr) : TimePart → Expr
  | .year => sqliteFormatted "%Y" timestamp
  | .quarter =>
      .arithmetic .divide
        (.arithmetic .add (sqliteFormatted "%m" timestamp) (.integer 2)) (.integer 3)
  | .month => sqliteFormatted "%m" timestamp
  | .dayOfYear => sqliteFormatted "%j" timestamp
  | .hour => sqliteFormatted "%H" timestamp
  | .minute => sqliteFormatted "%M" timestamp
  | .isoYear => sqliteFormatted "%G" timestamp
  | .isoWeek => sqliteFormatted "%V" timestamp

/-- Presto's functions for the parts of a timestamp. -/
def prestoTimePart (timestamp : Expr) : TimePart → Expr
  | .year => .call "year" [timestamp]
  | .quarter => .call "quarter" [timestamp]
  | .month => .call "month" [timestamp]
  | .dayOfYear => .call "day_of_year" [timestamp]
  | .hour => .call "hour" [timestamp]
  | .minute => .call "minute" [timestamp]
  | .isoYear => .call "year_of_week" [timestamp]
  | .isoWeek => .call "week" [timestamp]

/-- A part of a timestamp, as an integer. -/
def timePart (dialect : Dialect) (timestamp : Expr) (part : TimePart) : Expr :=
  match dialect with
  | .ansi => .extract (extractField part) timestamp
  | .postgres => .cast (.extract (extractField part) timestamp) "INTEGER"
  | .mysql => mysqlTimePart timestamp part
  | .sqlite => sqliteTimePart timestamp part
  | .presto _ => prestoTimePart timestamp part

/-! ## Clauses -/

/-- How a dialect places absent values in a sort. -/
def nullOrdering : Dialect → NullOrdering
  | .mysql => .emulated
  | _ => .keyword

/-- The clause that keeps the first rows. -/
def limitClause (dialect : Dialect) (limit : Nat) : String :=
  match dialect with
  | .ansi => "FETCH NEXT " ++ Text.naturalText limit ++ " ROWS ONLY"
  | _ => "LIMIT " ++ Text.naturalText limit

end Dialect

end Rollup.Sql
