import Phrasebook.Text.Width

/-!
# Positions in a source

The line and column at which a character of a source is shown. A line ends after a line feed, or
after a carriage return that no line feed follows.

- `displayColumns`: the columns that a character takes in front of a position;
- `Position.find`: the line, the column and the text of the line at an offset.

Every character has its columns and every offset its position. That holds of U+17D8 too, which is
three columns wide, and at which a reader that knows no widths above two stops.
-/

namespace Phrasebook.Text

/-- The number of 16-bit code units of a character. -/
def codeUnits (c : Char) : Nat := if c.toNat < 0x10000 then 1 else 2

/-- The columns that a character takes in front of a position: four for a tab. Columns are counted
in code units, so a character that has two of them takes one column more than it is wide. No width
is refused, also not the three columns of U+17D8. -/
def displayColumns (c : Char) : Nat :=
  if c = '\t' then 4 else columns c + (codeUnits c - 1)

/-- A place in a source. -/
structure Position where
  /-- The number of the line, counted from 1. -/
  line : Nat
  /-- The number of columns before the place on its line. -/
  indent : Nat
  /-- The source from the start of the line on. -/
  rest : List Char
deriving Repr, DecidableEq

namespace Position

/-- Whether a line ends after `c`, with `rest` after it. -/
def endsLine (c : Char) (rest : List Char) : Bool :=
  c == '\n' || (c == '\r' && rest.head? != some '\n')

/-- Go on by as many bytes over the text that follows a position. -/
def advance (position : Position) : Nat → List Char → Position
  | 0, _ | _, [] => position
  | bytes + 1, c :: rest =>
    let left := bytes + 1 - c.utf8Size
    if endsLine c rest then advance ⟨position.line + 1, 0, rest⟩ left rest
    else advance { position with indent := position.indent + displayColumns c } left rest
termination_by structural _ text => text

/-- The position of the character at a byte offset of a text. -/
def find (text : String) (offset : Nat) : Position :=
  advance ⟨1, 0, text.toList⟩ offset text.toList

/-- The text from the start of the line up to the next line feed. -/
def lineText (position : Position) : String :=
  String.ofList (position.rest.takeWhile (· ≠ '\n'))

end Position

end Phrasebook.Text
