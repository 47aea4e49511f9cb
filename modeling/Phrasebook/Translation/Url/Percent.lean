import Phrasebook.Json.Writer

/-!
# Percent encoding

In an address a byte that cannot stand for itself is a percent sign and two digits of base sixteen.

- `encode`: a character, encoded if a part of an address reserves it;
- `decode`: the bytes of a text;
- `inFragment`, `inPath`, `inQuery`, `inUser`: what the parts of an address reserve.
-/

namespace Phrasebook.Url

/-- A byte as a percent sign and two digits. -/
def percent (byte : UInt8) : List Char :=
  ['%', (Json.hexDigit (byte.toNat / 16)).toUpper, (Json.hexDigit (byte.toNat % 16)).toUpper]

/-- The bytes of a character. -/
def bytesOf (c : Char) : List UInt8 := c.toString.toUTF8.toList

/-- A character by itself, or by its bytes if it is `reserved`. -/
def encode (reserved : Char → Bool) (c : Char) : List Char :=
  if reserved c then (bytesOf c).flatMap percent else [c]

/-- The value of a digit of base sixteen. -/
def hexValue? (c : Char) : Option Nat :=
  if c.isDigit then some (c.toNat - '0'.toNat)
  else if 'a' ≤ c && c ≤ 'f' then some (c.toNat - 'a'.toNat + 10)
  else if 'A' ≤ c && c ≤ 'F' then some (c.toNat - 'A'.toNat + 10)
  else none

/-- The bytes of a text. A percent sign without two digits stands for itself. -/
def decode : List Char → List UInt8
  | '%' :: high :: low :: rest =>
    match hexValue? high, hexValue? low with
    | some h, some l => UInt8.ofNat (16 * h + l) :: decode rest
    | _, _ => bytesOf '%' ++ decode (high :: low :: rest)
  | c :: rest => bytesOf c ++ decode rest
  | [] => []

/-- The text of bytes, if they are one. -/
def textOf? (bytes : List UInt8) : Option String := String.fromUTF8? ⟨bytes.toArray⟩

/-! ## Parts of an address -/

/-- What no part of an address holds: control characters and characters above ASCII. -/
def isReserved (c : Char) : Bool := c.toNat < 0x20 || 0x7E < c.toNat

/-- What a fragment reserves. -/
def inFragment (c : Char) : Bool := isReserved c || [' ', '"', '<', '>', '\x60'].contains c

/-- What a path reserves. -/
def inPath (c : Char) : Bool := inFragment c || ['#', '?', '\x7b', '\x7d'].contains c

/-- What the name and password of a user reserve. -/
def inUser (c : Char) : Bool :=
  inPath c || ['/', ':', ';', '=', '@', '[', '\\', ']', '^', '|'].contains c

/-- What a query reserves; a `special` address also reserves quotation marks. -/
def inQuery (special : Bool) (c : Char) : Bool :=
  isReserved c || [' ', '"', '#', '<', '>'].contains c || (special && c == '\x27')

end Phrasebook.Url
