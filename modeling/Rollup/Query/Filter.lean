import Rollup.Text.Blank

/-!
# Filters

A filter is a condition on the dimensions of a row, before rows are aggregated.
-/

namespace Rollup

/-- How a search compares text. -/
inductive SearchMode where
  | contains
  | insensitiveContains
  /-- Each of several fragments has to occur. -/
  | fragment
  deriving DecidableEq

/-- The name of a search mode in queries. -/
def SearchMode.name : SearchMode → String
  | .contains => "contains"
  | .insensitiveContains => "insensitive_contains"
  | .fragment => "fragment"

/-- What a search looks for. -/
inductive Search where
  | contains (value : String) (caseSensitive : Bool)
  | insensitiveContains (value : String)
  | fragments (values : List String)
  deriving DecidableEq

namespace Search

/-- The mode of a search. -/
def mode : Search → SearchMode
  | .contains _ true => .contains
  | .contains _ false => .insensitiveContains
  | .insensitiveContains _ => .insensitiveContains
  | .fragments _ => .fragment

/-- The text searched for, fragments being joined by spaces. -/
def text : Search → String
  | .contains value _ => value
  | .insensitiveContains value => value
  | .fragments values => " ".intercalate values

/-- The search for a text in a mode; fragments are the words of the text. -/
def ofText : SearchMode → String → Search
  | .contains, text => .contains text true
  | .insensitiveContains, text => .insensitiveContains text
  | .fragment, text => .fragments (Text.words text)

/-- The fragments of a search for fragments. -/
def fragments? : Search → Option (List String)
  | .fragments values => some values
  | _ => none

end Search

/-- A condition on the dimensions of a row. -/
inductive Filter where
  /-- The dimension has the value. -/
  | selector (dimension value : String)
  /-- The dimension matches a regular expression of the engine. -/
  | regex (dimension pattern : String)
  /-- The dimension holds a text. -/
  | search (dimension : String) (search : Search)
  /-- The dimension has one of the values. -/
  | oneOf (dimension : String) (values : List String)
  | all (filters : List Filter)
  | any (filters : List Filter)
  | not (filter : Filter)

namespace Filter

/-- The name of the kind of a filter in queries. -/
def typeName : Filter → String
  | .selector .. => "selector"
  | .regex .. => "regex"
  | .search .. => "search"
  | .oneOf .. => "in"
  | .all _ => "and"
  | .any _ => "or"
  | .not _ => "not"

mutual

/-- The dimensions that a filter names, in order and with repetitions. -/
def dimensions : Filter → List String
  | .selector dimension _ => [dimension]
  | .regex dimension _ => [dimension]
  | .search dimension _ => [dimension]
  | .oneOf dimension _ => [dimension]
  | .all filters => dimensionsOfList filters
  | .any filters => dimensionsOfList filters
  | .not filter => filter.dimensions
termination_by structural filter => filter

/-- The dimensions that some filters name. -/
def dimensionsOfList : List Filter → List String
  | [] => []
  | filter :: rest => filter.dimensions ++ dimensionsOfList rest
termination_by structural filters => filters

end

end Filter

end Rollup
