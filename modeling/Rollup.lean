import Rollup.Client
import Rollup.Document.Config
import Rollup.Document.Error
import Rollup.Json.Reader
import Rollup.Json.Writer
import Rollup.Proofs.Filter.Selection
import Rollup.Proofs.Formula.Agreement
import Rollup.Proofs.Result.Record
import Rollup.Proofs.Result.Dimension
import Rollup.Proofs.Calendar.Date
import Rollup.Proofs.Instant.Timestamps
import Rollup.Proofs.Sql.Lexer
import Rollup.Proofs.Sql.Quoting
import Rollup.Proofs.Plan.Interval
import Rollup.Proofs.Sql.Grammar
import Rollup.Proofs.Sql.Reader
import Rollup.Proofs.Sql.Reading
import Rollup.Proofs.Plan.Conditions
import Rollup.Proofs.Plan.BareNames
import Rollup.Proofs.Plan.Modes
import Rollup.Proofs.Plan.Dialects
import Rollup.Proofs.Time.Bucketing
import Rollup.Proofs.Double.Rounding
import Rollup.Proofs.Double.Shortest
import Rollup.Proofs.Double.Reading
import Rollup.Proofs.Number.Displayed
import Rollup.Proofs.Formula.Values
import Rollup.Proofs.Result.Computed
import Rollup.Proofs.Client
import Rollup.Proofs.Plan.Distinct
import Rollup.Proofs.Sql.References
import Rollup.Proofs.Plan.Scope
import Rollup.Proofs.Plan.CompiledText
import Rollup.Proofs.Formula.References
import Rollup.Proofs.Formula.Faults
import Rollup.Proofs.Text.Order
import Rollup.Proofs.Plan.TextInterval
import Rollup.Proofs.Instant.IntervalEnds
import Rollup.Proofs.Plan.AggregatesOnly
import Rollup.Proofs.Result.Accepted
import Rollup.Proofs.Filter.Faults
import Rollup.Proofs.Result.Calls
import Rollup.Proofs.Plan.Sorting
import Rollup.Proofs.Result.Timeseries
import Rollup.Proofs.Having.Faults
import Rollup.Proofs.Having.Meaning
import Rollup.Proofs.Formula.Longs
import Rollup.Proofs.Result.Longs
import Rollup.Proofs.Plan.Search
import Rollup.Proofs.Query.Interval
import Rollup.Proofs.Result.Runs
import Rollup.Proofs.Result.Truncation
import Rollup.Proofs.Plan.Literals
import Rollup.Proofs.Schema.Repeated
import Rollup.Proofs.Instant.Timestamps
import Rollup.Proofs.Sql.NullPlacement
