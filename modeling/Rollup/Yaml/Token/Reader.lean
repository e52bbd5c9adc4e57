import Rollup.Text.Code
import Rollup.Text.Digits
import Rollup.Yaml.Block
import Rollup.Yaml.Scalar
import Rollup.Yaml.Token

/-!
# Reading tokens

The tokens of a YAML text.  That a scalar or a collection is a key shows only at the
colon after it, which has to stand on the line where the key starts and not more
than 1024 characters behind that.  So the reader keeps, for every collection in
brackets that is open and for the block around them, the place of the last token
that may turn out to be a key.
-/

namespace Rollup.Yaml

open Text

/-- The start of something that may be a key. -/
structure Candidate where
  /-- The number of tokens before it. -/
  index : Nat
  line : Nat
  column : Nat
  /-- Whether it can be nothing else, as it stands where the keys of a block map do. -/
  isRequired : Bool

/-- Tokens being read. -/
structure TokenReader where
  cursor : Cursor
  /-- The column of the innermost block, or -1 outside of all. -/
  indentation : Int := -1
  /-- The columns of the blocks around it, innermost first. -/
  enclosing : List Int := []
  /-- Whether a key may start here. -/
  keyAllowed : Bool := true
  candidate : Option Candidate := none
  /-- The candidates outside of each open bracket, innermost first. -/
  outerCandidates : List (Option Candidate) := []
  /-- The tokens so far. -/
  tokens : Array Token := #[]

namespace TokenReader

/-- Whether some bracket is open. -/
def inFlow (reader : TokenReader) : Bool :=
  !reader.outerCandidates.isEmpty

/-- The column of the cursor. -/
def column (reader : TokenReader) : Nat :=
  reader.cursor.column

/-- One more token. -/
def push (token : Token) (reader : TokenReader) : TokenReader :=
  { reader with tokens := reader.tokens.push token }

/-- One more token, before all but the first `index` ones. -/
def insert (index : Nat) (token : Token) (reader : TokenReader) : TokenReader :=
  { reader with tokens := reader.tokens.insertIdxIfInBounds index token }

/-- A token of one character. -/
def pushSign (token : Token) (reader : TokenReader) : TokenReader :=
  { reader.push token with cursor := reader.cursor.advance 1 }

/-! ## Keys -/

/-- Whether a candidate can no longer be a key at a place. -/
def isStale (cursor : Cursor) (candidate : Candidate) : Bool :=
  candidate.line < cursor.line || candidate.column + 1024 < cursor.column

/-- A candidate as long as it can be a key.  It is an error when one that has to be a
key no longer can be. -/
def refresh? (cursor : Cursor) : Option Candidate → Option (Option Candidate)
  | none => some none
  | some candidate =>
      if !isStale cursor candidate then some (some candidate)
      else if candidate.isRequired then none
      else some none

/-- The reader without the candidates that can no longer be keys. -/
def refreshCandidates? (reader : TokenReader) : Option TokenReader := do
  return { reader with
    candidate := ← refresh? reader.cursor reader.candidate
    outerCandidates := ← reader.outerCandidates.mapM (refresh? reader.cursor) }

/-- The reader without its candidate. -/
def dropCandidate? (reader : TokenReader) : Option TokenReader :=
  if reader.candidate.any (·.isRequired) then none
  else some { reader with candidate := none }

/-- What starts here becomes the candidate, where a key may start. -/
def markCandidate? (reader : TokenReader) : Option TokenReader := do
  if !reader.keyAllowed then return reader
  let reader ← reader.dropCandidate?
  return { reader with
    candidate := some {
      index := reader.tokens.size
      line := reader.cursor.line
      column := reader.column
      isRequired := !reader.inFlow && decide (reader.indentation = (reader.column : Int)) } }

/-! ## Blocks -/

/-- Closes the blocks that are indented more than a column. -/
def closeBlocksFrom (column : Int) (indentation : Int) (tokens : Array Token) :
    List Int → Int × List Int × Array Token
  | [] => (indentation, [], tokens)
  | outer :: enclosing =>
      if column < indentation then
        closeBlocksFrom column outer (tokens.push .closeBlock) enclosing
      else (indentation, outer :: enclosing, tokens)

/-- The reader with the blocks closed that are indented more than a column; brackets
hold blocks open. -/
def closeBlocks (column : Int) (reader : TokenReader) : TokenReader :=
  if reader.inFlow then reader
  else
    let (indentation, enclosing, tokens) :=
      closeBlocksFrom column reader.indentation reader.tokens reader.enclosing
    { reader with indentation := indentation, enclosing := enclosing, tokens := tokens }

/-- Opens a block at a column that is indented more than the innermost one, before
all but the first `index` tokens. -/
def openBlock (token : Token) (column index : Nat) (reader : TokenReader) : TokenReader :=
  if !reader.inFlow && decide (reader.indentation < (column : Int)) then
    { reader.insert index token with
      indentation := column
      enclosing := reader.indentation :: reader.enclosing }
  else reader

/-- Opens a block at the cursor. -/
def openBlockHere (token : Token) (reader : TokenReader) : TokenReader :=
  reader.openBlock token reader.column reader.tokens.size

/-! ## Between tokens -/

/-- Skips spaces, line breaks and comments, from a line and a column on.  Tabs are
skipped only where they cannot be taken for indentation, and a byte order mark where
it starts a line, of which it takes the first column.  A new line outside of brackets
allows a key. -/
def skipToToken (inFlow : Bool) (inComment keyAllowed : Bool) (line column : Nat) :
    List Char → Bool × Cursor
  | [] => (keyAllowed, { rest := [], line := line, column := column })
  | c :: rest =>
      if isBreak c then skipToToken inFlow false (keyAllowed || !inFlow) (line + 1) 0 rest
      else if inComment || c == '#' then
        skipToToken inFlow true keyAllowed line (column + 1) rest
      else if c == ' ' || (c == '\t' && (inFlow || !keyAllowed)) ||
          (c == '\uFEFF' && column == 0) then
        skipToToken inFlow false keyAllowed line (column + 1) rest
      else (keyAllowed, { rest := c :: rest, line := line, column := column })

/-- The reader at the start of the next token. -/
def toToken (reader : TokenReader) : TokenReader :=
  let (keyAllowed, cursor) :=
    skipToToken reader.inFlow false reader.keyAllowed reader.cursor.line reader.column
      reader.cursor.rest
  { reader with keyAllowed := keyAllowed, cursor := cursor }

/-! ## Names, tags and directives -/

/-- Whether a character may stand in the name of an anchor or a tag handle. -/
def isNameChar (c : Char) : Bool :=
  c.isAlphanum || c == '_' || c == '-'

/-- The name of an anchor or an alias behind its sign. -/
def takeName? (cursor : Cursor) : Option (String × Cursor) :=
  let (name, cursor) := cursor.takeWhile isNameChar
  let isEnd :=
    isGap cursor.rest ||
      cursor.rest.head?.any ['?', ':', ',', ']', '}', '%', '@', '\x60'].contains
  if name.isEmpty || !isEnd then none else some (String.ofList name, cursor)

/-- Whether a character may stand in a tag; commas and brackets only in one that is
written out. -/
def isTagChar (isWhole : Bool) (c : Char) : Bool :=
  isNameChar c || ";/?:@&=+$.!~*\x27()%".toList.contains c ||
    (isWhole && [',', '[', ']'].contains c)

/-- The number of bytes that follow the first byte of a character. -/
def followers? (byte : Nat) : Option Nat :=
  if byte < 0x80 then some 0
  else if byte < 0xC0 then none
  else if byte < 0xE0 then some 1
  else if byte < 0xF0 then some 2
  else if byte < 0xF8 then some 3
  else none

/-- The bytes that a text with escapes of the form `%41` denotes.  An escape for the
first byte of a character needs escapes after it for the `due` others. -/
def unescapeBytes? (due : Nat) : List Char → Option (List UInt8)
  | [] => if due = 0 then some [] else none
  | '%' :: a :: b :: rest => do
      let byte ← hexNumber? [a, b]
      let due ←
        match due with
        | 0 => followers? byte
        | due + 1 => if 0x80 ≤ byte ∧ byte < 0xC0 then some due else none
      return byte.toUInt8 :: (← unescapeBytes? due rest)
  | c :: rest => do
      if due ≠ 0 || c == '%' then none
      return c.toNat.toUInt8 :: (← unescapeBytes? 0 rest)

/-- The bytes of a part of a tag, which end before a zero. -/
def tagBytes? (chars : List Char) : Option (List UInt8) := do
  return (← unescapeBytes? 0 chars).takeWhile (· != 0)

/-- A part of a tag, of one character at least. -/
def takeTagPart? (isWhole : Bool) (cursor : Cursor) : Option (List UInt8 × Cursor) := do
  let (chars, cursor) := cursor.takeWhile (isTagChar isWhole)
  if chars.isEmpty then none
  return (← tagBytes? chars, cursor)

/-- A tag from its exclamation mark on.  The mark alone is a tag as it stands. -/
def takeTag? (reader : TokenReader) : Option (Token × Cursor) := do
  let (token, cursor) ←
    match reader.cursor.rest with
    | '!' :: '<' :: _ =>
        let (bytes, cursor) ← takeTagPart? true (reader.cursor.advance 2)
        match cursor.rest with
        | '>' :: _ => some (Token.tag none bytes, cursor.advance 1)
        | _ => none
    | _ =>
        let start := reader.cursor.advance 1
        let (name, cursor) := start.takeWhile isNameChar
        match cursor.rest with
        | '!' :: _ =>
            let (bytes, cursor) ← takeTagPart? false (cursor.advance 1)
            some (Token.tag (some ("!" ++ String.ofList name ++ "!")) bytes, cursor)
        | _ =>
            let (chars, cursor) := start.takeWhile (isTagChar false)
            match ← tagBytes? chars with
            | [] => some (Token.tag none [0x21], cursor)
            | bytes => some (Token.tag (some "!") bytes, cursor)
  if isGap cursor.rest || (reader.inFlow && cursor.rest.head? == some ',') then
    some (token, cursor)
  else none

/-- A part of a version, of at most nine digits. -/
def takeVersionPart? (cursor : Cursor) : Option (Nat × Cursor) :=
  let (digits, cursor) := cursor.takeWhile Char.isDigit
  if digits.isEmpty || decide (9 < digits.length) then none
  else some (digitsValue digits, cursor)

/-- A version behind the name of its directive. -/
def takeVersion? (cursor : Cursor) : Option (Token × Cursor) := do
  let (major, cursor) ← takeVersionPart? (cursor.dropWhile isSpace)
  match cursor.rest with
  | '.' :: _ =>
      let (minor, cursor) ← takeVersionPart? (cursor.advance 1)
      return (.version major minor, cursor)
  | _ => none

/-- A tag handle and what it stands for, behind the name of their directive. -/
def takeHandle? (cursor : Cursor) : Option (Token × Cursor) := do
  let cursor := cursor.dropWhile isSpace
  match cursor.rest with
  | '!' :: _ =>
      let (name, cursor) := (cursor.advance 1).takeWhile isNameChar
      let (handle, cursor) ←
        match cursor.rest with
        | '!' :: _ => some ("!" ++ String.ofList name ++ "!", cursor.advance 1)
        | _ => if name.isEmpty then some ("!", cursor) else none
      if !cursor.rest.head?.any isSpace then none
      let (bytes, cursor) ← takeTagPart? true (cursor.dropWhile isSpace)
      if !isGap cursor.rest then none
      return (.handle handle bytes, cursor)
  | _ => none

/-- A directive from its percent sign on. -/
def takeDirective? (cursor : Cursor) : Option (Token × Cursor) := do
  let (name, cursor) := (cursor.advance 1).takeWhile isNameChar
  if !isGap cursor.rest then none
  let (token, cursor) ←
    match String.ofList name with
    | "YAML" => takeVersion? cursor
    | "TAG" => takeHandle? cursor
    | _ => none
  return (token, (← cursor.endOfLine?).nextLine)

/-! ## Tokens -/

/-- The reader behind a token that ended at a cursor. -/
def pushTo (token : Token) (cursor : Cursor) (reader : TokenReader) : TokenReader :=
  { reader.push token with cursor := cursor }

/-- A marker of a document's start or end. -/
def readMarker? (token : Token) (reader : TokenReader) : Option TokenReader := do
  let reader ← (reader.closeBlocks (-1)).dropCandidate?
  return { reader.push token with keyAllowed := false, cursor := reader.cursor.advance 3 }

/-- A directive. -/
def readDirective? (reader : TokenReader) : Option TokenReader := do
  let reader ← (reader.closeBlocks (-1)).dropCandidate?
  let (token, cursor) ← takeDirective? reader.cursor
  return { reader.pushTo token cursor with keyAllowed := false }

/-- An opening bracket, which may be the start of a key. -/
def readOpening? (token : Token) (reader : TokenReader) : Option TokenReader := do
  let reader ← reader.markCandidate?
  return { reader.pushSign token with
    keyAllowed := true
    candidate := none
    outerCandidates := reader.candidate :: reader.outerCandidates }

/-- A closing bracket. -/
def readClosing? (token : Token) (reader : TokenReader) : Option TokenReader := do
  let reader ← reader.dropCandidate?
  let reader := { reader.pushSign token with keyAllowed := false }
  match reader.outerCandidates with
  | candidate :: others =>
      return { reader with candidate := candidate, outerCandidates := others }
  | [] => return reader

/-- A comma. -/
def readComma? (reader : TokenReader) : Option TokenReader := do
  let reader ← reader.dropCandidate?
  return { reader.pushSign .comma with keyAllowed := true }

/-- The dash before an item. -/
def readItem? (reader : TokenReader) : Option TokenReader := do
  if !reader.inFlow && !reader.keyAllowed then none
  let reader ← (reader.openBlockHere .openBlockList).dropCandidate?
  return { reader.pushSign .item with keyAllowed := true }

/-- The question mark before a key. -/
def readKey? (reader : TokenReader) : Option TokenReader := do
  if !reader.inFlow && !reader.keyAllowed then none
  let reader ← (reader.openBlockHere .openBlockMap).dropCandidate?
  return { reader.pushSign .key with keyAllowed := !reader.inFlow }

/-- The colon before a value, which makes the candidate a key. -/
def readValue? (reader : TokenReader) : Option TokenReader :=
  match reader.candidate with
  | some candidate =>
      let reader :=
        (reader.insert candidate.index .key).openBlock .openBlockMap candidate.column
          candidate.index
      some { reader.pushSign .value with candidate := none, keyAllowed := false }
  | none =>
      if !reader.inFlow && !reader.keyAllowed then none
      else
        let reader := reader.openBlockHere .openBlockMap
        some { reader.pushSign .value with keyAllowed := !reader.inFlow }

/-- A token that may be the start of a key. -/
def readProperty? (take : TokenReader → Option (Token × Cursor)) (reader : TokenReader) :
    Option TokenReader := do
  let reader ← reader.markCandidate?
  let (token, cursor) ← take reader
  return { reader.pushTo token cursor with keyAllowed := false }

/-- An anchor or an alias. -/
def readName? (token : String → Token) : TokenReader → Option TokenReader :=
  readProperty? fun reader => do
    let (name, cursor) ← takeName? (reader.cursor.advance 1)
    return (token name, cursor)

/-- A quoted scalar. -/
def readQuoted? (take : Nat → Nat → List Char → Option (String × Cursor)) :
    TokenReader → Option TokenReader :=
  readProperty? fun reader => do
    let start := reader.cursor.advance 1
    let (text, cursor) ← take start.line start.column start.rest
    return (.scalar .quoted text, cursor)

/-- A block scalar. -/
def readBlockScalar? (isFolded : Bool) (reader : TokenReader) : Option TokenReader := do
  let reader ← reader.dropCandidate?
  let (text, cursor) ←
    takeBlockScalar? isFolded reader.indentation (reader.cursor.advance 1)
  return { reader.pushTo (.scalar (if isFolded then .folded else .literal) text) cursor with
    keyAllowed := true }

/-- A plain scalar.  One that ends at a new line allows a key after it. -/
def readPlain? (reader : TokenReader) : Option TokenReader := do
  let reader ← reader.markCandidate?
  let (folding, cursor) ←
    takePlain? reader.inFlow (reader.indentation + 1).toNat {} reader.cursor.line
      reader.column reader.cursor.rest
  return { reader.pushTo (.scalar .plain folding.text) cursor with
    keyAllowed := folding.gap.isBroken }

/-- The token at the cursor, where the text starts with `c` and goes on with `rest`. -/
def readToken? (c : Char) (rest : List Char) (reader : TokenReader) : Option TokenReader :=
  if reader.column == 0 && c == '%' then reader.readDirective?
  else if reader.column == 0 && isMarker (c :: rest) then
    reader.readMarker? (if c == '-' then .documentStart else .documentEnd)
  else
    match c with
    | '[' => reader.readOpening? .openList
    | '{' => reader.readOpening? .openMap
    | ']' => reader.readClosing? .closeList
    | '}' => reader.readClosing? .closeMap
    | ',' => reader.readComma?
    | '*' => reader.readName? .alias
    | '&' => reader.readName? .anchor
    | '!' => reader.readProperty? takeTag?
    | '\x27' => reader.readQuoted? (takeSingleQuoted? {})
    | '\x22' => reader.readQuoted? (takeDoubleQuoted? {})
    | '-' => if isGap rest then reader.readItem? else reader.readPlain?
    | '?' => if reader.inFlow || isGap rest then reader.readKey? else reader.readPlain?
    | ':' => if reader.inFlow || isGap rest then reader.readValue? else reader.readPlain?
    | '|' => if reader.inFlow then none else reader.readBlockScalar? false
    | '>' => if reader.inFlow then none else reader.readBlockScalar? true
    | '%' | '@' | '\x60' | '\t' => none
    | _ => reader.readPlain?

/-- All tokens that follow.  Each takes a character or more, so that the length of
the text is fuel enough. -/
def readAll? : Nat → TokenReader → Option (List Token)
  | 0, _ => none
  | fuel + 1, reader => do
      let reader ← reader.toToken.refreshCandidates?
      let reader := reader.closeBlocks reader.column
      match reader.cursor.rest with
      | [] =>
          let reader ← (reader.closeBlocks (-1)).dropCandidate?
          return reader.tokens.toList
      | c :: rest => readAll? fuel (← reader.readToken? c rest)

end TokenReader

/-- The tokens of a YAML text. -/
def Token.ofText? (text : String) : Option (List Token) := do
  let chars ← prepare? text
  TokenReader.readAll? (chars.length + 1) { cursor := { rest := chars } }

end Rollup.Yaml
