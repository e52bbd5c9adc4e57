import Rollup.Yaml.Cursor

/-!
# Block scalars

Scalars that take whole lines, all of them indented alike.  A literal one keeps its
line breaks.  A folded one turns a break between two lines into a space, unless one
of the lines starts with white space; empty lines between them stay.  The header
tells what becomes of the breaks at the end.
-/

namespace Rollup.Yaml

/-- A line without its break, and the break, which only the last line lacks. -/
abbrev Line := List Char × Option Char

/-- The lines of a text. -/
def linesOf : List Char → List Line
  | [] => [([], none)]
  | c :: rest =>
      if isBreak c then ([], some c) :: linesOf rest
      else
        match linesOf rest with
        | (chars, ending) :: lines => ((c :: chars), ending) :: lines
        | [] => [([c], none)]

/-- The text of some lines. -/
def textOfLines (lines : List Line) : List Char :=
  lines.flatMap fun line => line.1 ++ line.2.toList

/-- What becomes of the line breaks at the end of a block scalar. -/
inductive Chomping where
  /-- All of them go. -/
  | strip
  /-- The first of them stays. -/
  | clip
  /-- All of them stay. -/
  | keep

/-- The sign of a chomping. -/
def Chomping.ofSign? : Char → Option Chomping
  | '-' => some .strip
  | '+' => some .keep
  | _ => none

/-- An indentation given in a header, which is not zero. -/
def increment? (c : Char) : Option Nat :=
  if '1' ≤ c ∧ c ≤ '9' then some (c.toNat - 0x30) else none

/-- The header of a block scalar: its chomping, the indentation where one is given,
and the number of characters that these take. -/
def blockHeader : List Char → Chomping × Option Nat × Nat
  | [] => (.clip, none, 0)
  | c :: rest =>
      match Chomping.ofSign? c, increment? c with
      | some chomping, _ =>
          match rest.head?.bind increment? with
          | some increment => (chomping, some increment, 2)
          | none => (chomping, none, 1)
      | none, some increment =>
          match rest.head?.bind Chomping.ofSign? with
          | some chomping => (chomping, some increment, 2)
          | none => (.clip, some increment, 1)
      | none, none => (.clip, none, 0)

/-- The indentation of the lines below a header that does not give it: that of the
first line that is not empty, or of an empty line in front of it if that one has
more spaces.  It is greater than the indentation around the scalar, and tabs are no
part of it. -/
def indentationOf? (parent : Int) (lines : List Line) : Option Nat :=
  let margin (line : Line) : Nat := (line.1.takeWhile (· == ' ')).length
  let isEmpty (line : Line) : Bool := line.1.all (· == ' ') && line.2.isSome
  let leading := lines.takeWhile isEmpty
  let first := (lines.drop leading.length).headD ([], none)
  match first.1.drop (margin first) with
  | '\t' :: _ => none
  | _ =>
      let widest := (leading ++ [first]).foldl (fun width line => max width (margin line)) 0
      some (max widest (max (parent + 1).toNat 1))

/-- A block scalar being read. -/
structure Block where
  /-- The characters so far, the last one first, without the break after them. -/
  chars : List Char := []
  /-- The break at the end of the last line that is not empty. -/
  ending : Option Char := none
  /-- The breaks of the empty lines since, the last one first. -/
  empty : List Char := []
  /-- Whether the last line that is not empty starts with white space. -/
  isIndented : Bool := false

namespace Block

/-- One more line that is not empty. -/
def push (isFolded : Bool) (content : List Char) (ending : Option Char) (block : Block) :
    Block :=
  let isIndented := content.head?.any isSpace
  let between :=
    if isFolded && block.ending == some '\n' && !block.isIndented && !isIndented then
      if block.empty.isEmpty then [' '] else []
    else block.ending.toList
  { chars := content.reverse ++ block.empty ++ between ++ block.chars
    ending := ending
    isIndented := isIndented }

/-- The text of a block scalar. -/
def text (chomping : Chomping) (block : Block) : String :=
  let chars :=
    match chomping with
    | .strip => block.chars
    | .clip => block.ending.toList ++ block.chars
    | .keep => block.empty ++ block.ending.toList ++ block.chars
  String.ofList chars.reverse

end Block

/-- The lines of a block scalar, and those after it. -/
def takeBlockLines? (isFolded : Bool) (indentation : Nat) (block : Block) :
    List Line → Option (Block × List Line)
  | [] => some (block, [])
  | (chars, ending) :: rest =>
      let margin := ((chars.takeWhile (· == ' ')).take indentation).length
      match chars.drop margin, ending with
      | [], none => some (block, [(chars, none)])
      | [], some c =>
          takeBlockLines? isFolded indentation { block with empty := c :: block.empty } rest
      | content, ending =>
          if margin == indentation then
            takeBlockLines? isFolded indentation (block.push isFolded content ending) rest
          else if content.head? == some '\t' then none
          else some (block, (chars, ending) :: rest)

/-- A block scalar from behind its sign, in a block of the indentation `parent`. -/
def takeBlockScalar? (isFolded : Bool) (parent : Int) (cursor : Cursor) :
    Option (String × Cursor) := do
  let (chomping, increment, width) := blockHeader cursor.rest
  let start := (← (cursor.advance width).endOfLine?).nextLine
  let lines := linesOf start.rest
  let indentation ←
    match increment with
    | some increment => some ((max parent 0).toNat + increment)
    | none => indentationOf? parent lines
  let (block, others) ← takeBlockLines? isFolded indentation {} lines
  return (block.text chomping,
    { rest := textOfLines others
      line := start.line + (lines.length - others.length)
      column := 0 })

end Rollup.Yaml
