/-!
# Lines of a text

Where lines start, in bytes of UTF-8, and which line holds a given byte.

- `byteLength`: the number of bytes of a list of characters;
- `lineStarts`: the offsets at which lines start;
- `lineAt`: the number of the line that holds an offset, found by halving.
-/

namespace Phrasebook.Text

/-- The number of UTF-8 bytes of `cs`. -/
def byteLength : List Char → Nat
  | [] => 0
  | c :: rest => c.utf8Size + byteLength rest

/-- The offsets that follow a line feed in `cs`, whose first character stands at `offset`. -/
def breaksFrom (offset : Nat) : List Char → List Nat
  | [] => []
  | c :: rest =>
    let next := offset + c.utf8Size
    if c = '\n' then next :: breaksFrom next rest else breaksFrom next rest

/-- The byte offsets at which the lines of `text` start, in ascending order. Only a line feed ends
a line. -/
def lineStarts (text : String) : List Nat := 0 :: breaksFrom 0 text.toList

/-- `low` if none of the ascending `starts` at positions `low … high - 1` is at most `offset`, and
otherwise the position after the last one that is. -/
def positionAfter (starts : Array Nat) (offset low high : Nat) : Nat :=
  if low < high then
    let middle := (low + high) / 2
    if starts.getD middle 0 ≤ offset then positionAfter starts offset (middle + 1) high
    else positionAfter starts offset low middle
  else low
termination_by high - low

/-- The number of the line, counted from 1, that holds the byte at `offset`. -/
def lineAt (starts : Array Nat) (offset : Nat) : Nat :=
  positionAfter starts offset 0 starts.size

end Phrasebook.Text
