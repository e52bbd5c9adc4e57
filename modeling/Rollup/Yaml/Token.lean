import Rollup.Yaml.Tag

/-!
# YAML tokens

The signs and scalars of a YAML text.  Indentation is made explicit: a block list or
block map opens and closes like one in brackets, and every key has a sign before it,
be it written or not.
-/

namespace Rollup.Yaml

/-- A token. -/
inductive Token where
  /-- The version that a directive demands. -/
  | version (major minor : Nat)
  /-- A directive that makes a tag handle stand for some bytes. -/
  | handle (name : String) (expansion : List UInt8)
  | documentStart
  | documentEnd
  | openBlockList
  | openBlockMap
  | closeBlock
  | openList
  | closeList
  | openMap
  | closeMap
  /-- The dash before an item of a block list. -/
  | item
  | comma
  | key
  | value
  | anchor (name : String)
  | alias (name : String)
  /-- A tag: its handle, none if it is written out, and the bytes of the rest. -/
  | tag (handle : Option String) (rest : List UInt8)
  | scalar (style : Style) (text : String)
  deriving DecidableEq

end Rollup.Yaml
