import Phrasebook.Text.Lines

/-!
# Windows around an offset

The characters of a text around a byte offset. An offset that falls inside a character counts as
the start of that character, and one past the end as the end.

- `splitAtByte`: the two sides of an offset;
- `floorBoundary`: the character boundary that an offset counts as;
- `window`: so many characters to each side.
-/

namespace Phrasebook.Text

/-- Split `cs` after its longest initial part of at most `offset` bytes. -/
def splitAtByte (offset : Nat) : List Char → List Char × List Char
  | [] => ([], [])
  | c :: rest =>
    if c.utf8Size ≤ offset then
      let (before, after) := splitAtByte (offset - c.utf8Size) rest
      (c :: before, after)
    else ([], c :: rest)

/-- The largest character boundary of `text` that is at most `offset`. -/
def floorBoundary (text : String) (offset : Nat) : Nat :=
  byteLength (splitAtByte offset text.toList).1

/-- At most `radius` characters to each side of `offset`. -/
def window (text : String) (offset radius : Nat) : String :=
  let (before, after) := splitAtByte offset text.toList
  String.ofList ((before.reverse.take radius).reverse ++ after.take radius)

end Phrasebook.Text
