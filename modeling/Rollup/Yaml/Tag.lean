/-!
# Tags and styles

What stands around a scalar of a YAML text: how it is written, and what the tag
before it says.  A tag is a text of bytes.  The usual types have tags of their own; a
program's own tags start with an exclamation mark and are names.
-/

namespace Rollup.Yaml

/-- How a scalar is written. -/
inductive Style where
  | plain
  | quoted
  /-- A block that keeps its line breaks. -/
  | literal
  /-- A block whose lines are joined. -/
  | folded
  deriving DecidableEq

/-- What a tag says about its node. -/
inductive Tag where
  | null
  | boolean
  | integer
  | float
  /-- A tag of a program's own, with what follows its exclamation mark. -/
  | named (name : String)
  /-- A tag of a program's own whose bytes are no text. -/
  | garbled
  /-- Any other tag. -/
  | other
  deriving DecidableEq

namespace Tag

/-- The bytes of the tag of a usual type. -/
def bytesOfType (name : String) : List UInt8 :=
  ("tag:yaml.org,2002:" ++ name).toUTF8.toList

/-- The tag that some bytes are. -/
def ofBytes (bytes : List UInt8) : Tag :=
  match bytes with
  | 0x21 :: name =>
      match String.fromUTF8? ⟨name.toArray⟩ with
      | some name => .named name
      | none => .garbled
  | _ =>
      if bytes == bytesOfType "null" then .null
      else if bytes == bytesOfType "bool" then .boolean
      else if bytes == bytesOfType "int" then .integer
      else if bytes == bytesOfType "float" then .float
      else .other

end Tag

end Rollup.Yaml
