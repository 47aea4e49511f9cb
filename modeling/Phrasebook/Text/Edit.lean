import Phrasebook.Text.Window

/-!
# Edits of a text

Parts of a text replaced by others.

- `Edit`: a part, given by byte offsets, and what comes in its place;
- `applyEdits`: a text with edits made.
-/

namespace Phrasebook.Text

/-- A part of a text, between two byte offsets, and what comes in its place. -/
structure Edit where
  start : Nat
  stop : Nat
  replacement : String
deriving Repr, DecidableEq, Inhabited

/-- Make edits that are in order and do not overlap; the text starts at the given offset. -/
def applySorted (offset : Nat) : List Edit → List Char → List Char
  | [], text => text
  | edit :: rest, text =>
    let (kept, tail) := splitAtByte (edit.start - offset) text
    let (_, after) := splitAtByte (edit.stop - edit.start) tail
    kept ++ edit.replacement.toList ++ applySorted edit.stop rest after

/-- Make edits that do not overlap. -/
def applyEdits (text : String) (edits : List Edit) : String :=
  let sorted := edits.mergeSort fun a b => a.start ≤ b.start
  String.ofList (applySorted 0 sorted text.toList)

end Phrasebook.Text
