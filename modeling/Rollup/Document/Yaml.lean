import Rollup.Document.Outline
import Rollup.Document.Plain
import Rollup.Yaml.Node.Reader
import Rollup.Yaml.Token.Reader

/-!
# Documents from YAML texts

A node becomes a document by putting the nodes of anchors in the place of aliases, as
far as its parts are asked for.  Nesting deeper than 128 lists and maps is cut off,
which also ends an alias inside of its own node; and a document of so many nodes may
use aliases a hundred times as often at most.
-/

namespace Rollup.Document

open Yaml

/-- The greatest number of lists and maps around a value. -/
def maxDepth : Nat :=
  128

/-- The greatest number of uses of aliases for each part of a node. -/
def maxUses : Nat :=
  100

/-- The node that a node stands for, none once the uses of aliases are spent. -/
def follow (anchors : Anchors) : Node → StateM Nat (Option Node)
  | .alias number =>
      modifyGet fun uses => if uses = 0 then (none, 0) else (anchors.node? number, uses - 1)
  | node => pure (some node)

/-- A list or a map with its tag, which counts if it is a name. -/
def withTag (tag : Option Tag) (document : Document) : Document :=
  match tag with
  | some (.named name) => .labelled name document
  | _ => document

/-- The parts that are asked for of a value under a key. -/
def Outline.under? : Outline → Document → Option Outline
  | .whole, _ => some .whole
  | .fields parts, key => (scalarText? key).bind (parts.lookup ·)
  | .items _, _ => none

/-- The parts that are asked for of the items of a list. -/
def Outline.item? : Outline → Option Outline
  | .whole => some .whole
  | .items item => some item
  | .fields _ => none

/-- The document of a node within a depth, as far as its parts are asked for; the state
counts the uses of aliases that are left. -/
def ofNode (anchors : Anchors) : Nat → Outline → Node → StateM Nat Document
  | 0, _, node => do
      match ← follow anchors node with
      | some (.scalar tag style value) => return .scalar tag style value
      | _ => return .excess
  | depth + 1, outline, node => do
      match ← follow anchors node with
      | some (.scalar tag style value) => return .scalar tag style value
      | some (.list tag items) =>
          match outline.item? with
          | some item => return withTag tag (.list (← items.mapM (ofNode anchors depth item)))
          | none => return .excess
      | some (.map tag entries) =>
          let entries ← entries.mapM fun (key, value) => do
            let key ← ofNode anchors depth .whole key
            match outline.under? key with
            | some part => return (key, ← ofNode anchors depth part value)
            | none => return (key, .excess)
          return withTag tag (.map entries)
      | _ => return .excess

/-- The document of a YAML text, which holds one and no more, as far as its parts are
asked for. -/
def ofYaml? (outline : Outline) (text : String) : Option Document := do
  let (node, anchors) ← Node.ofTokens? (← Token.ofText? text)
  return ((ofNode anchors maxDepth outline node).run (maxUses * node.size)).1

end Rollup.Document
