/-!
# Outlines

Which parts of a YAML text a reader asks for.  A structure passes over the fields
that it does not know, so that nothing in them can be nested too deeply or repeated
too often.
-/

namespace Rollup.Document

/-- The parts of a document that are asked for. -/
inductive Outline where
  /-- All of them. -/
  | whole
  /-- Those of each item of a list. -/
  | items (item : Outline)
  /-- Those of the fields of a structure, in the order of their positions. -/
  | fields (parts : List (String × Outline))

namespace Outline

/-- The fields of a structure, all of which are asked for as a whole. -/
def flat (names : List String) : Outline :=
  .fields (names.map fun name => (name, .whole))

/-- The names of the fields of a structure. -/
def names : Outline → List String
  | .fields parts => parts.map Prod.fst
  | _ => []

end Outline

end Rollup.Document
