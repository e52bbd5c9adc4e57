import Rollup.Json.Value
import Rollup.Yaml.Tag

/-!
# Documents

What a configuration, a table or a query is read from: JSON values and YAML nodes
in one shape.  A scalar of a YAML text is kept as its text with its tag and style,
since what it means depends on what is asked of it: the text itself where a text is
wanted, and otherwise the value that tag and style make of it.
-/

namespace Rollup

/-- A tree of scalars, lists and maps. -/
inductive Document where
  | null
  | boolean (value : Bool)
  /-- An integer without a minus sign. -/
  | natural (value : Nat)
  /-- An integer with a minus sign in front of it. -/
  | negated (value : Nat)
  | float (value : Double)
  | text (value : String)
  /-- A scalar of a YAML text. -/
  | scalar (tag : Option Yaml.Tag) (style : Yaml.Style) (text : String)
  | list (items : List Document)
  | map (entries : List (Document × Document))
  /-- A list or a map with a tag that is a name. -/
  | labelled (name : String) (content : Document)
  /-- What is nested too deeply or repeated too often to be read, or not asked for. -/
  | excess

instance : Inhabited Document := ⟨.null⟩

namespace Document

/-- An integer, perhaps with a minus sign in front of it. -/
def signed (negative : Bool) (value : Nat) : Document :=
  if negative then .negated value else .natural value

mutual

/-- The document of a JSON value. -/
def ofJson : Json → Document
  | .null => .null
  | .boolean value => .boolean value
  | .integer value => signed (decide (value < 0)) value.natAbs
  | .float value => .float value
  | .text value => .text value
  | .list items => .list (ofJsonList items)
  | .object entries => .map (ofJsonEntries entries)
termination_by structural json => json

/-- The documents of some JSON values. -/
def ofJsonList : List Json → List Document
  | [] => []
  | json :: rest => ofJson json :: ofJsonList rest
termination_by structural items => items

/-- The entries of a JSON object. -/
def ofJsonEntries : List (String × Json) → List (Document × Document)
  | [] => []
  | (name, json) :: rest => (.text name, ofJson json) :: ofJsonEntries rest
termination_by structural entries => entries

end

mutual

/-- The number of lists and maps on the longest way into a document. -/
def depth : Document → Nat
  | .list items => depthOfList items + 1
  | .map entries => depthOfEntries entries + 1
  | .labelled _ content => content.depth
  | _ => 0
termination_by structural document => document

/-- The greatest depth of some documents. -/
def depthOfList : List Document → Nat
  | [] => 0
  | document :: rest => max document.depth (depthOfList rest)
termination_by structural items => items

/-- The greatest depth of the keys and values of a map. -/
def depthOfEntries : List (Document × Document) → Nat
  | [] => 0
  | (key, value) :: rest => max (max key.depth value.depth) (depthOfEntries rest)
termination_by structural entries => entries

end

/-- A list or a map without its name, and any other document as it is. -/
def unlabelled : Document → Document
  | .labelled _ content => content
  | document => document

end Document

end Rollup
