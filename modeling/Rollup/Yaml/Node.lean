import Rollup.Yaml.Tag

/-!
# YAML nodes

The tree of a YAML text: scalars, lists and maps, with the tags written before them.
An alias refers to a node by the number of its anchor, and may stand inside that
node.
-/

namespace Rollup.Yaml

/-- A node. -/
inductive Node where
  | scalar (tag : Option Tag) (style : Style) (text : String)
  | list (tag : Option Tag) (items : List Node)
  | map (tag : Option Tag) (entries : List (Node × Node))
  | alias (anchor : Nat)

instance : Inhabited Node := ⟨.scalar none .plain ""⟩

/-- The scalar of a place where a node is left out. -/
def Node.empty : Node :=
  .scalar none .plain ""

/-- The anchors of a document.  An anchor is numbered by how many names there are
before it; where two nodes have one number, the one that starts later counts. -/
structure Anchors where
  /-- The names with the numbers they have at present. -/
  names : List (String × Nat) := []
  /-- The nodes by their numbers, with the number of tokens from their start on. -/
  nodes : List (Nat × Nat × Node) := []

namespace Anchors

/-- The number of an anchor. -/
def number? (anchors : Anchors) (name : String) : Option Nat :=
  anchors.names.lookup name

/-- The anchors with a name, one more or one that is there already. -/
def withName (anchors : Anchors) (name : String) : Anchors :=
  { anchors with
    names := (name, anchors.names.length) :: anchors.names.filter (·.1 != name) }

/-- The anchors with a node, which starts a number of tokens before the end. -/
def withNode (anchors : Anchors) (number remaining : Nat) (node : Node) : Anchors :=
  { anchors with nodes := (number, remaining, node) :: anchors.nodes }

/-- The node of a number. -/
def node? (anchors : Anchors) (number : Nat) : Option Node :=
  let later (found : Option (Nat × Node)) (entry : Nat × Nat × Node) : Option (Nat × Node) :=
    let (other, remaining, node) := entry
    match found with
    | some (least, _) =>
        if other == number && decide (remaining < least) then some (remaining, node) else found
    | none => if other == number then some (remaining, node) else none
  (anchors.nodes.foldl later none).map Prod.snd

end Anchors

mutual

/-- The number of scalars, aliases and ends of collections in a node. -/
def Node.size : Node → Nat
  | .scalar _ _ _ => 1
  | .alias _ => 1
  | .list _ items => Node.sizeOfList items + 2
  | .map _ entries => Node.sizeOfEntries entries + 2
termination_by structural node => node

/-- The size of some nodes. -/
def Node.sizeOfList : List Node → Nat
  | [] => 0
  | node :: rest => node.size + Node.sizeOfList rest
termination_by structural items => items

/-- The size of the entries of a map. -/
def Node.sizeOfEntries : List (Node × Node) → Nat
  | [] => 0
  | (key, value) :: rest => key.size + value.size + Node.sizeOfEntries rest
termination_by structural entries => entries

end

end Rollup.Yaml
