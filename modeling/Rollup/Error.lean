import Rollup.Query.Basic

/-!
# Errors

What can go wrong between a query and its response.  An error says what happened;
its wording is in one place, `Error.message`.  Every error but a failure to
execute is found while a statement is compiled, before a connection is asked for.
-/

namespace Rollup

/-- A construct that has no statement. -/
inductive Unsupported where
  | regexFilter (pattern : String)
  | fragmentSearch (dimension : String)
  | sketchOperation (operator : SetOperator) (operands : Nat) (name : String)
  | sortByPostAggregation (name : String)
  | topNDimensions
  | topNGranularity (granularity : Granularity)
  /-- A construct in the words of the caller. -/
  | other (description : String)
  deriving DecidableEq

/-- The wording of a construct that has no statement. -/
def Unsupported.message : Unsupported → String
  | .regexFilter pattern => "regex filter '" ++ pattern ++ "' has no SQLite translation"
  | .fragmentSearch dimension =>
      "search filter on '" ++ dimension ++
        "' uses fragment matching, which has no SQL translation"
  | .sketchOperation operator operands name =>
      "sketch set operation " ++ operator.label ++ " over " ++ Text.naturalText operands ++
        " operands in '" ++ name ++ "' cannot be computed from exact distinct counts"
  | .sortByPostAggregation name =>
      "cannot sort on post-aggregation '" ++ name ++
        "' when post-aggregations are computed after execution"
  | .topNDimensions => "topN groups by exactly one dimension"
  | .topNGranularity granularity =>
      "topN over granularity '" ++ granularity.name ++ "' needs a per-bucket limit"
  | .other description => description

/-- A name that nothing answers to. -/
inductive UnknownName where
  | filterDimension (name : String)
  | havingAggregation (name : String)
  | postAggregationField (name : String)
  | sortColumn (name : String)
  /-- A name in the words of the caller. -/
  | other (description : String)
  deriving DecidableEq

/-- The wording of a name that nothing answers to. -/
def UnknownName.message : UnknownName → String
  | .filterDimension name => "filter references unknown dimension '" ++ name ++ "'"
  | .havingAggregation name => "having references unknown aggregation '" ++ name ++ "'"
  | .postAggregationField name =>
      "post-aggregation references '" ++ name ++ "', which is not an aggregation"
  | .sortColumn name => "sort references unknown field '" ++ name ++ "'"
  | .other description => description

/-- A fault of a query itself. -/
inductive QueryFault where
  | unknownDataSource (name : String)
  | noOutput
  | topNWithoutDimension
  | topNWithoutMetric
  | topNWithoutThreshold
  | timeseriesWithDimensions
  | unnamedAggregation (kind : AggregationKind)
  | duplicateName (name : String)
  | nameOfGroupingColumn (name : String)
  | topLevelField
  | missingField (kind : AggregationKind) (name : String)
  | unnamedPostAggregation (typeName : String)
  | emptySketch (name : String)
  | ungroupedSort (name : String)
  | noProjections
  /-- A fault in the words of the caller. -/
  | other (description : String)
  deriving DecidableEq

/-- The wording of a fault of a query. -/
def QueryFault.message : QueryFault → String
  | .unknownDataSource name => "Unknown data source '" ++ name ++ "'"
  | .noOutput => "query selects no dimensions and no aggregations"
  | .topNWithoutDimension => "topN query requires a dimension"
  | .topNWithoutMetric => "topN query requires a metric"
  | .topNWithoutThreshold => "topN query requires a positive threshold"
  | .timeseriesWithDimensions => "timeseries query cannot group by dimensions"
  | .unnamedAggregation kind => kind.name ++ " aggregation has an empty name"
  | .duplicateName name => "duplicate output name '" ++ name ++ "'"
  | .nameOfGroupingColumn name =>
      "output name '" ++ name ++ "' collides with a grouping column"
  | .topLevelField => "top-level fieldAccess post-aggregation has no output name"
  | .missingField kind name =>
      kind.name ++ " aggregation '" ++ name ++ "' requires a fieldName"
  | .unnamedPostAggregation typeName => typeName ++ " post-aggregation has an empty name"
  | .emptySketch name => "sketch set operation '" ++ name ++ "' has a non-positive size"
  | .ungroupedSort name => "cannot sort on '" ++ name ++ "', which is not grouped"
  | .noProjections => "statement projects no columns"
  | .other description => description

/-- What failed while a statement ran or its rows were read. -/
inductive ExecutionFault where
  | connect (reason : String)
  | acquire (reason : String)
  | statement (reason : String)
  | timeout (seconds : Nat)
  | cancelled
  | columnCount (columns : Nat) (granularity : Granularity) (needed : Nat)
  | undecodedColumn (index : Nat) (reason : String)
  | unboundRow
  | rowWidth (values expected : Nat)
  | notAnInteger (text : String)
  | notANumber (text : String)
  | notNumeric (text name : String)
  | missingTimestamp
  | unreadableTimestamp (text : String)
  | missingTimePart
  | timePartCount (expected : Nat) (granularity : Granularity) (actual : Nat)
  | timePartRange (value : Int)
  | yearRange
  | isoYearRange
  | quarterRange (value : Nat)
  | noSuchDate (values : List Int)
  | noSuchTime (hour minute : Nat)
  /-- A failure in the words of the caller, with the reason that the database
  gave, if it gave one. -/
  | other (description : String) (reason : Option String)
  deriving DecidableEq

namespace ExecutionFault

/-- The wording of a failure, the reason of the database aside. -/
def description : ExecutionFault → String
  | .connect _ => "failed to open connection pool"
  | .acquire _ => "failed to acquire a connection"
  | .statement _ => "statement execution failed"
  | .timeout seconds => "query exceeded timeout of " ++ Text.naturalText seconds ++ "s"
  | .cancelled => "query was cancelled"
  | .columnCount columns granularity needed =>
      "result has " ++ Text.naturalText columns ++ " column(s) but granularity '" ++
        granularity.name ++ "' needs " ++ Text.naturalText needed ++ " time column(s)"
  | .undecodedColumn index _ => "cannot decode result column " ++ Text.naturalText index
  | .unboundRow => "row received before result columns were bound"
  | .rowWidth values expected =>
      "row has " ++ Text.naturalText values ++ " value(s), expected " ++
        Text.naturalText expected
  | .notAnInteger text => "'" ++ text ++ "' is not an integer"
  | .notANumber text => "'" ++ text ++ "' is not a number"
  | .notNumeric text name => "value '" ++ text ++ "' of '" ++ name ++ "' is not numeric"
  | .missingTimestamp => "missing raw timestamp value"
  | .unreadableTimestamp text => "cannot parse timestamp '" ++ text ++ "'"
  | .missingTimePart => "time part is null"
  | .timePartCount expected granularity actual =>
      "expected " ++ Text.naturalText expected ++ " time part value(s) for granularity '" ++
        granularity.name ++ "', got " ++ Text.naturalText actual
  | .timePartRange value => "time part out of range: " ++ Text.integerText value
  | .yearRange => "year out of range"
  | .isoYearRange => "ISO year out of range"
  | .quarterRange value => "invalid quarter: " ++ Text.naturalText value
  | .noSuchDate values =>
      "invalid time parts [" ++ ", ".intercalate (values.map Text.integerText) ++ "]"
  | .noSuchTime hour minute =>
      "invalid time of day " ++ Text.naturalText hour ++ ":" ++ Text.naturalText minute
  | .other description _ => description

/-- The reason that the database gave for a failure. -/
def reason? : ExecutionFault → Option String
  | .connect reason => some reason
  | .acquire reason => some reason
  | .statement reason => some reason
  | .undecodedColumn _ reason => some reason
  | .other _ reason => reason
  | _ => none

end ExecutionFault

/-- What went wrong between a query and its response. -/
inductive Error where
  | unsupported (construct : Unsupported)
  /-- An operator has a number of operands that it cannot have. -/
  | arity (operator expected : String) (actual : Nat)
  | unknownName (name : UnknownName)
  | invalidQuery (fault : QueryFault)
  | execution (fault : ExecutionFault)
  deriving DecidableEq

/-- The kinds of errors. -/
inductive ErrorKind where
  | unsupportedConstruct
  | invalidArity
  | unknownField
  | invalidQuery
  | executionFailure
  deriving DecidableEq

/-- The name of a kind of errors. -/
def ErrorKind.name : ErrorKind → String
  | .unsupportedConstruct => "UnsupportedConstruct"
  | .invalidArity => "InvalidArity"
  | .unknownField => "UnknownField"
  | .invalidQuery => "InvalidQuery"
  | .executionFailure => "ExecutionFailure"

namespace Error

/-- The kind of an error. -/
def kind : Error → ErrorKind
  | .unsupported _ => .unsupportedConstruct
  | .arity .. => .invalidArity
  | .unknownName _ => .unknownField
  | .invalidQuery _ => .invalidQuery
  | .execution _ => .executionFailure

/-- Whether an error is found while a statement is compiled. -/
def isCompileError (error : Error) : Bool :=
  error.kind != .executionFailure

/-- The reason that the database gave for an error. -/
def reason? : Error → Option String
  | .execution fault => fault.reason?
  | _ => none

/-- The wording of an error. -/
def message : Error → String
  | .unsupported construct => "Unsupported construct: " ++ construct.message
  | .arity operator expected actual =>
      "Operator '" ++ operator ++ "' expects " ++ expected ++ " operand(s), got " ++
        Text.naturalText actual
  | .unknownName name => "Unknown field: " ++ name.message
  | .invalidQuery fault => "Invalid query: " ++ fault.message
  | .execution fault =>
      let failure := "Execution failed: " ++ fault.description
      match fault.reason? with
      | some reason => failure ++ ": " ++ reason
      | none => failure

end Error

end Rollup
