/-!
# Blanks

- `isBlank`: the characters that are white space;
- `trim`: a text without blanks at its ends.
-/

namespace Phrasebook.Text

/-- Whether `c` is white space. -/
def isBlank (c : Char) : Bool :=
  let code := c.toNat
  (9 ≤ code && code ≤ 13) || code == 0x20 || code == 0x85 || code == 0xA0 || code == 0x1680 ||
    (0x2000 ≤ code && code ≤ 0x200A) || code == 0x2028 || code == 0x2029 || code == 0x202F ||
    code == 0x205F || code == 0x3000

/-- The characters between the blanks at the start and the end. -/
def trimChars (cs : List Char) : List Char :=
  ((cs.dropWhile isBlank).reverse.dropWhile isBlank).reverse

/-- The text between the blanks at the start and the end. -/
def trim (text : String) : String := String.ofList (trimChars text.toList)

end Phrasebook.Text
