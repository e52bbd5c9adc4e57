import Rollup.Document.Decoder
import Rollup.Document.Yaml

/-!
# Layouts

How a type is laid out in documents, and its values in documents and texts.
-/

namespace Rollup.Document

/-- How the values of a type are read: the parts that are asked for, and the reader. -/
structure Layout (α : Type) where
  outline : Outline
  decode : Form → Document → Decoded α

namespace Layout

/-- The value that a JSON value holds. -/
def ofJson {α : Type} (layout : Layout α) (json : Json) : Decoded α :=
  layout.decode .json (Document.ofJson json)

/-- The value that a YAML text holds, if it holds one. -/
def ofYaml? {α : Type} (layout : Layout α) (text : String) : Option α := do
  (layout.decode .yaml (← Document.ofYaml? layout.outline text)).toOption

end Layout

end Rollup.Document
