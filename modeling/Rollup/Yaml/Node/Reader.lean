import Rollup.Yaml.Node
import Rollup.Yaml.Token

/-!
# Reading nodes

The tree of a document from its tokens.  A reader takes the tokens that are left and
the anchors so far, and gives a node with both as they are after it.  The fuel bounds
how deeply readers call each other; no more than four calls in a row take no token.
-/

namespace Rollup.Yaml

/-- What is left to read. -/
structure NodeReader where
  tokens : List Token
  anchors : Anchors := {}
  /-- What the handles of tags stand for. -/
  handles : List (String × List UInt8) := []

namespace NodeReader

/-- The reader behind the first token. -/
def next (reader : NodeReader) : NodeReader :=
  { reader with tokens := reader.tokens.tail }

/-- Whether the next token is one of some. -/
def isAt (reader : NodeReader) (tokens : List Token) : Bool :=
  reader.tokens.head?.any tokens.contains

/-- The tag of a handle and the rest. -/
def tag? (reader : NodeReader) : Option String → List UInt8 → Option Tag
  | none, rest => some (Tag.ofBytes rest)
  | some handle, rest =>
      (reader.handles.lookup handle).map fun expansion => Tag.ofBytes (expansion ++ rest)

/-- The anchor and the tag in front of a node, in either order. -/
def properties? (reader : NodeReader) :
    Option (Option String × Option Tag × NodeReader) :=
  match reader.tokens with
  | .anchor name :: .tag handle rest :: tokens | .tag handle rest :: .anchor name :: tokens => do
      return (some name, some (← reader.tag? handle rest), { reader with tokens := tokens })
  | .anchor name :: tokens => some (some name, none, { reader with tokens := tokens })
  | .tag handle rest :: tokens => do
      return (none, some (← reader.tag? handle rest), { reader with tokens := tokens })
  | _ => some (none, none, reader)

/-- Where a node stands, which decides what it can be. -/
structure Position where
  /-- Not inside of brackets: it may be a block. -/
  isBlock : Bool
  /-- The key or value of a block map: it may be a block list of no indentation. -/
  allowsUnindented : Bool := false

/-- A node, and the reader behind it. -/
abbrev Result := Option (Node × NodeReader)

mutual

/-- A node with its properties. -/
def takeNode? (position : Position) : Nat → NodeReader → Result
  | 0, _ => none
  | fuel + 1, reader =>
      match reader.tokens with
      | .alias name :: _ => do return (.alias (← reader.anchors.number? name), reader.next)
      | _ => do
          let (name, tag, inner) ← reader.properties?
          match name with
          | none => takeContent? position tag false fuel inner
          | some name =>
              let anchors := inner.anchors.withName name
              let (node, after) ←
                takeContent? position tag true fuel { inner with anchors := anchors }
              return (node, { after with
                anchors :=
                  after.anchors.withNode ((anchors.number? name).getD 0) reader.tokens.length
                    node })

/-- A node behind its properties; with a tag or an anchor it may be empty. -/
def takeContent? (position : Position) (tag : Option Tag) (hasAnchor : Bool) :
    Nat → NodeReader → Result
  | 0, _ => none
  | fuel + 1, reader =>
      let empty : Result :=
        if hasAnchor || tag.isSome then some (.scalar tag .plain "", reader) else none
      match reader.tokens with
      | .scalar style text :: _ => some (.scalar tag style text, reader.next)
      | .openList :: _ => do
          let (items, after) ← takeListItems? true fuel reader.next
          return (.list tag items, after)
      | .openMap :: _ => do
          let (entries, after) ← takeMapEntries? true fuel reader.next
          return (.map tag entries, after)
      | .item :: _ => do
          if !position.allowsUnindented then return ← empty
          let (items, after) ← takeUnindentedItems? fuel reader
          return (.list tag items, after)
      | .openBlockList :: _ => do
          if !position.isBlock then return ← empty
          let (items, after) ← takeBlockItems? fuel reader.next
          return (.list tag items, after)
      | .openBlockMap :: _ => do
          if !position.isBlock then return ← empty
          let (entries, after) ← takeBlockEntries? fuel reader.next
          return (.map tag entries, after)
      | _ => empty

/-- A node, which is left out if the next token is one of some. -/
def takeOptional? (position : Position) (ends : List Token) : Nat → NodeReader → Result
  | 0, _ => none
  | fuel + 1, reader =>
      if reader.isAt ends then some (.empty, reader) else takeNode? position fuel reader

/-- The items of a block list up to its end. -/
def takeBlockItems? : Nat → NodeReader → Option (List Node × NodeReader)
  | 0, _ => none
  | fuel + 1, reader =>
      match reader.tokens with
      | .item :: _ => do
          let (item, after) ←
            takeOptional? { isBlock := true } [.item, .closeBlock] fuel reader.next
          let (items, after) ← takeBlockItems? fuel after
          return (item :: items, after)
      | .closeBlock :: _ => some ([], reader.next)
      | _ => none

/-- The items of a block list that is not indented; it has no token at its end. -/
def takeUnindentedItems? : Nat → NodeReader → Option (List Node × NodeReader)
  | 0, _ => none
  | fuel + 1, reader =>
      match reader.tokens with
      | .item :: _ => do
          let (item, after) ←
            takeOptional? { isBlock := true } [.item, .key, .value, .closeBlock] fuel
              reader.next
          let (items, after) ← takeUnindentedItems? fuel after
          return (item :: items, after)
      | _ => some ([], reader)

/-- The entries of a block map up to its end. -/
def takeBlockEntries? : Nat → NodeReader → Option (List (Node × Node) × NodeReader)
  | 0, _ => none
  | fuel + 1, reader =>
      let position : Position := { isBlock := true, allowsUnindented := true }
      let ends : List Token := [.key, .value, .closeBlock]
      match reader.tokens with
      | .key :: _ => do
          let (key, after) ← takeOptional? position ends fuel reader.next
          let (value, after) ←
            if after.isAt [.value] then takeOptional? position ends fuel after.next
            else some (.empty, after)
          let (entries, after) ← takeBlockEntries? fuel after
          return ((key, value) :: entries, after)
      | .closeBlock :: _ => some ([], reader.next)
      | _ => none

/-- The items of a list in brackets up to its end.  An item may be a map of one entry
without brackets of its own. -/
def takeListItems? (isFirst : Bool) : Nat → NodeReader → Option (List Node × NodeReader)
  | 0, _ => none
  | fuel + 1, reader =>
      if reader.isAt [.closeList] then some ([], reader.next)
      else do
        let reader ←
          if isFirst then some reader
          else if reader.isAt [.comma] then some reader.next
          else none
        if reader.isAt [.closeList] then return ([], reader.next)
        let (item, after) ←
          if reader.isAt [.key] then takePair? fuel reader.next
          else takeNode? { isBlock := false } fuel reader
        let (items, after) ← takeListItems? false fuel after
        return (item :: items, after)

/-- A map of one entry, behind the sign of its key.  Where the key is left out, the
token in its place is passed over. -/
def takePair? : Nat → NodeReader → Result
  | 0, _ => none
  | fuel + 1, reader => do
      let (key, after) ←
        if reader.isAt [.value, .comma, .closeList] then some (.empty, reader.next)
        else takeNode? { isBlock := false } fuel reader
      let (value, after) ←
        if after.isAt [.value] then
          takeOptional? { isBlock := false } [.comma, .closeList] fuel after.next
        else some (.empty, after)
      return (.map none [(key, value)], after)

/-- The entries of a map in brackets up to its end. -/
def takeMapEntries? (isFirst : Bool) :
    Nat → NodeReader → Option (List (Node × Node) × NodeReader)
  | 0, _ => none
  | fuel + 1, reader =>
      if reader.isAt [.closeMap] then some ([], reader.next)
      else do
        let reader ←
          if isFirst then some reader
          else if reader.isAt [.comma] then some reader.next
          else none
        if reader.isAt [.closeMap] then return ([], reader.next)
        let (entry, after) ←
          if reader.isAt [.key] then takeEntry? fuel reader.next
          else do
            let (key, after) ← takeNode? { isBlock := false } fuel reader
            some ((key, Node.empty), after)
        let (entries, after) ← takeMapEntries? false fuel after
        return (entry :: entries, after)

/-- An entry of a map in brackets, behind the sign of its key. -/
def takeEntry? : Nat → NodeReader → Option ((Node × Node) × NodeReader)
  | 0, _ => none
  | fuel + 1, reader => do
      let ends : List Token := [.value, .comma, .closeMap]
      let (key, after) ← takeOptional? { isBlock := false } ends fuel reader
      let (value, after) ←
        if after.isAt [.value] then
          takeOptional? { isBlock := false } [.comma, .closeMap] fuel after.next
        else some (.empty, after)
      return ((key, value), after)

end

/-- The reader behind the directives of a document.  There may be one version, 1.1 or
1.2, and one directive for each handle. -/
def takeDirectives? (hasVersion : Bool) (handles : List (String × List UInt8)) :
    List Token → Option NodeReader
  | .version major minor :: rest =>
      if hasVersion || major != 1 || !(minor == 1 || minor == 2) then none
      else takeDirectives? true handles rest
  | .handle name expansion :: rest =>
      if (handles.lookup name).isSome then none
      else takeDirectives? hasVersion ((name, expansion) :: handles) rest
  | tokens =>
      some {
        tokens := tokens
        handles := handles ++ [("!", [0x21]), ("!!", Tag.bytesOfType "")] }

/-- The reader at the node of the first document.  Directives need the marker of a
document's start after them. -/
def start? (tokens : List Token) : Option NodeReader := do
  let reader ← takeDirectives? false [] tokens
  match reader.tokens with
  | .documentStart :: _ => return reader.next
  | [] | .documentEnd :: _ => none
  | _ => if reader.tokens.length == tokens.length then return reader else none

/-- The node of the first document. -/
def takeRoot? (reader : NodeReader) : Result :=
  match reader.tokens with
  | [] | .documentStart :: _ | .documentEnd :: _ | .version _ _ :: _ | .handle _ _ :: _ =>
      some (.empty, reader)
  | tokens => takeNode? { isBlock := true } (4 * (tokens.length + 1)) reader

end NodeReader

/-- The node and the anchors of the tokens of a text that holds one document. -/
def Node.ofTokens? (tokens : List Token) : Option (Node × Anchors) := do
  let (node, after) ← (← NodeReader.start? tokens).takeRoot?
  if after.tokens.all (· == .documentEnd) then return (node, after.anchors) else none

end Rollup.Yaml
