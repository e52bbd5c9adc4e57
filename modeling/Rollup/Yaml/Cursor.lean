/-!
# Places in a YAML text

A cursor is a place in a text: the text that follows, with the line and the column
at which it starts.  Texts are prepared first: only characters that YAML allows
stand in them, and all line breaks but the Unicode separators are line feeds.
-/

namespace Rollup.Yaml

/-- Whether a character may stand in a YAML text. -/
def isAllowed (c : Char) : Bool :=
  let code := c.toNat
  code == 0x09 || code == 0x0A || code == 0x0D || (0x20 ≤ code && code ≤ 0x7E) ||
    code == 0x85 || (0xA0 ≤ code && code ≤ 0xFFFD) || 0x10000 ≤ code

/-- A text whose line breaks of the kinds CR, CR LF and NEL are line feeds. -/
def unifyBreaks : List Char → List Char
  | '\r' :: '\n' :: rest => '\n' :: unifyBreaks rest
  | c :: rest => (if c == '\r' || c == '\u0085' then '\n' else c) :: unifyBreaks rest
  | [] => []

/-- A text made ready to be read. -/
def prepare? (text : String) : Option (List Char) :=
  let chars := text.toList
  if chars.all isAllowed then some (unifyBreaks chars) else none

/-- Whether a character ends a line. -/
def isBreak (c : Char) : Bool :=
  c == '\n' || c == '\u2028' || c == '\u2029'

/-- Whether a character is white space inside a line. -/
def isSpace (c : Char) : Bool :=
  c == ' ' || c == '\t'

/-- Whether a text is at its end, at white space or at a line break. -/
def isGap : List Char → Bool
  | [] => true
  | c :: _ => isSpace c || isBreak c

/-- Whether a text starts with the marker of a document's start or end. -/
def isMarker : List Char → Bool
  | '-' :: '-' :: '-' :: rest => isGap rest
  | '.' :: '.' :: '.' :: rest => isGap rest
  | _ => false

/-- A place in a text. -/
structure Cursor where
  rest : List Char
  line : Nat := 0
  column : Nat := 0

namespace Cursor

/-- Some characters further on the same line. -/
def advance (cursor : Cursor) (count : Nat) : Cursor :=
  { cursor with rest := cursor.rest.drop count, column := cursor.column + count }

/-- The characters of a class in front of a cursor, and the place behind them. -/
def takeWhile (cursor : Cursor) (isMember : Char → Bool) : List Char × Cursor :=
  let taken := cursor.rest.takeWhile isMember
  (taken, cursor.advance taken.length)

/-- The place behind the characters of a class. -/
def dropWhile (cursor : Cursor) (isMember : Char → Bool) : Cursor :=
  (cursor.takeWhile isMember).2

/-- The place at the end of a line of which only white space and a comment are left;
the comment needs no space before it. -/
def endOfLine? (cursor : Cursor) : Option Cursor :=
  let cursor := cursor.dropWhile isSpace
  let cursor :=
    match cursor.rest with
    | '#' :: _ => cursor.dropWhile (!isBreak ·)
    | _ => cursor
  match cursor.rest with
  | [] => some cursor
  | c :: _ => if isBreak c then some cursor else none

/-- The start of the next line, from the end of one. -/
def nextLine (cursor : Cursor) : Cursor :=
  match cursor.rest with
  | [] => cursor
  | _ :: rest => { rest := rest, line := cursor.line + 1, column := 0 }

end Cursor

end Rollup.Yaml
