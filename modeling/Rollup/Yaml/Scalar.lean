import Rollup.Text.Code
import Rollup.Yaml.Cursor

/-!
# Scalars that flow over lines

Plain and quoted scalars.  The white space around a line break in them goes: one
break becomes a space, and of more of them all but the first stay.  A backslash
before the break in a scalar in double quotes joins the lines with nothing between
them.  The Unicode separators are breaks that always stay.
-/

namespace Rollup.Yaml

open Text

/-! ## Folding -/

/-- White space between two characters of a scalar, the last character first. -/
inductive Gap where
  /-- White space within a line. -/
  | spaces (chars : List Char)
  /-- Line breaks, the white space around them left out. -/
  | breaks (chars : List Char)
  /-- Line breaks after one that a backslash took away. -/
  | joined (chars : List Char)

namespace Gap

/-- A gap with one more white space. -/
def space (c : Char) : Gap → Gap
  | .spaces chars => .spaces (c :: chars)
  | gap => gap

/-- A gap with one more line break. -/
def lineBreak (c : Char) : Gap → Gap
  | .spaces _ => .breaks [c]
  | .breaks chars => .breaks (c :: chars)
  | .joined chars => .joined (c :: chars)

/-- What a gap stands for. -/
def text : Gap → List Char
  | .spaces chars => chars.reverse
  | .joined chars => chars.reverse
  | .breaks chars =>
      match chars.reverse with
      | ['\n'] => [' ']
      | '\n' :: more => more
      | chars => chars

/-- Whether there is nothing between two characters. -/
def isEmpty : Gap → Bool
  | .spaces chars => chars.isEmpty
  | _ => false

/-- Whether a gap goes over the end of a line. -/
def isBroken : Gap → Bool
  | .breaks _ => true
  | _ => false

end Gap

/-- A scalar being read: its characters so far, the last one first, and the gap
after them. -/
structure Folding where
  chars : List Char := []
  gap : Gap := .spaces []

namespace Folding

/-- The gap becomes part of the scalar. -/
def close (folding : Folding) : Folding :=
  { chars := folding.gap.text.reverse ++ folding.chars }

/-- One more character that is no white space. -/
def push (c : Char) (folding : Folding) : Folding :=
  { chars := c :: folding.close.chars }

/-- One more white space or line break. -/
def pushGap (c : Char) (folding : Folding) : Folding :=
  { folding with
    gap := if isBreak c then folding.gap.lineBreak c else folding.gap.space c }

/-- A line break taken away. -/
def join (folding : Folding) : Folding :=
  { folding.close with gap := .joined [] }

/-- The text of the scalar without the gap after it. -/
def text (folding : Folding) : String :=
  String.ofList folding.chars.reverse

end Folding

/-! ## Quoted scalars -/

/-- A scalar in single quotes, from behind the opening quote; a quote in it is
written twice. -/
def takeSingleQuoted? (folding : Folding) (line column : Nat) :
    List Char → Option (String × Cursor)
  | [] => none
  | '\x27' :: '\x27' :: rest =>
      takeSingleQuoted? (folding.push '\x27') line (column + 2) rest
  | '\x27' :: rest =>
      some (folding.close.text, { rest := rest, line := line, column := column + 1 })
  | c :: rest =>
      if column == 0 && isMarker (c :: rest) then none
      else if isBreak c then takeSingleQuoted? (folding.pushGap c) (line + 1) 0 rest
      else if isSpace c then takeSingleQuoted? (folding.pushGap c) line (column + 1) rest
      else takeSingleQuoted? (folding.push c) line (column + 1) rest
termination_by structural text => text

/-- The character that a letter after a backslash stands for. -/
def escaped? : Char → Option Char
  | '0' => some '\x00'
  | 'a' => some '\x07'
  | 'b' => some '\x08'
  | 't' => some '\t'
  | '\t' => some '\t'
  | 'n' => some '\n'
  | 'v' => some '\x0b'
  | 'f' => some '\x0c'
  | 'r' => some '\r'
  | 'e' => some '\x1b'
  | ' ' => some ' '
  | '\x22' => some '\x22'
  | '/' => some '/'
  | '\\' => some '\\'
  | 'N' => some '\u0085'
  | '_' => some '\u00a0'
  | 'L' => some '\u2028'
  | 'P' => some '\u2029'
  | _ => none

/-- A scalar in double quotes, from behind the opening quote. -/
def takeDoubleQuoted? (folding : Folding) (line column : Nat) :
    List Char → Option (String × Cursor)
  | [] => none
  | '\x22' :: rest =>
      some (folding.close.text, { rest := rest, line := line, column := column + 1 })
  | '\\' :: 'x' :: a :: b :: rest =>
      match charOfHex? [a, b] with
      | some c => takeDoubleQuoted? (folding.push c) line (column + 4) rest
      | none => none
  | '\\' :: 'u' :: a :: b :: c :: d :: rest =>
      match charOfHex? [a, b, c, d] with
      | some c => takeDoubleQuoted? (folding.push c) line (column + 6) rest
      | none => none
  | '\\' :: 'U' :: a :: b :: c :: d :: e :: f :: g :: h :: rest =>
      match charOfHex? [a, b, c, d, e, f, g, h] with
      | some c => takeDoubleQuoted? (folding.push c) line (column + 10) rest
      | none => none
  | '\\' :: letter :: rest =>
      if isBreak letter then takeDoubleQuoted? folding.join (line + 1) 0 rest
      else
        match escaped? letter with
        | some c => takeDoubleQuoted? (folding.push c) line (column + 2) rest
        | none => none
  | c :: rest =>
      if column == 0 && isMarker (c :: rest) then none
      else if c == '\\' then none
      else if isBreak c then takeDoubleQuoted? (folding.pushGap c) (line + 1) 0 rest
      else if isSpace c then takeDoubleQuoted? (folding.pushGap c) line (column + 1) rest
      else takeDoubleQuoted? (folding.push c) line (column + 1) rest
termination_by structural text => text

/-! ## Plain scalars -/

/-- The characters that stand for themselves in a flow collection. -/
def isFlowSign (c : Char) : Bool :=
  c == ',' || c == '[' || c == ']' || c == '{' || c == '}'

/-- Whether a character ends a plain scalar in front of the given text. -/
def endsPlain (inFlow : Bool) (c : Char) (rest : List Char) : Bool :=
  (c == ':' && isGap rest) || (inFlow && isFlowSign c)

/-- Whether a colon in a flow collection stands at a sign that it must not touch. -/
def isBadColon (inFlow : Bool) (c : Char) (rest : List Char) : Bool :=
  inFlow && c == ':' && rest.head?.any fun next => isFlowSign next || next == '?'

/-- A plain scalar from its first character on, with the gap after it.  Outside flow
collections it ends at a line that is not indented by at least `indent`. -/
def takePlain? (inFlow : Bool) (indent : Nat) (folding : Folding) (line column : Nat) :
    List Char → Option (Folding × Cursor)
  | [] => some (folding, { rest := [], line := line, column := column })
  | c :: rest =>
      if isBreak c then takePlain? inFlow indent (folding.pushGap c) (line + 1) 0 rest
      else if isSpace c then
        if c == '\t' && folding.gap.isBroken && decide (column < indent) then none
        else takePlain? inFlow indent (folding.pushGap c) line (column + 1) rest
      else if !folding.gap.isEmpty &&
          (c == '#' || (column == 0 && isMarker (c :: rest)) ||
            (!inFlow && decide (column < indent))) then
        some (folding, { rest := c :: rest, line := line, column := column })
      else if isBadColon inFlow c rest then none
      else if endsPlain inFlow c rest then
        some (folding, { rest := c :: rest, line := line, column := column })
      else takePlain? inFlow indent (folding.push c) line (column + 1) rest
termination_by structural text => text

end Rollup.Yaml
