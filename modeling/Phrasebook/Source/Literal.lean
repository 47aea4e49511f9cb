/-!
# String literals

The text that a string literal denotes. Escapes may name UTF-16 surrogates: a high one directly
before a low one is the character that the pair encodes, and a literal that keeps a lone surrogate
denotes no text.

- `Literal`: the decoded text, and whether it is complete;
- `Literal.ofUnits`: decoding from code points and surrogates;
- `Literal.text?`: the text of a complete literal.
-/

namespace Phrasebook.Source

/-- What a string literal denotes. -/
structure Literal where
  /-- The text, with U+FFFD for each lone surrogate. -/
  lossy : String
  /-- Whether no surrogate stands alone. -/
  complete : Bool
deriving Repr, DecidableEq, Inhabited

namespace Literal

/-- The literal that denotes `text`. -/
def ofString (text : String) : Literal := ⟨text, true⟩

/-- The denoted text, if the literal is complete. -/
def text? (literal : Literal) : Option String :=
  if literal.complete then some literal.lossy else none

/-- Whether `unit` is the first half of a surrogate pair. -/
def isHighSurrogate (unit : Nat) : Bool := 0xD800 ≤ unit && unit ≤ 0xDBFF

/-- Whether `unit` is the second half of a surrogate pair. -/
def isLowSurrogate (unit : Nat) : Bool := 0xDC00 ≤ unit && unit ≤ 0xDFFF

/-- The code point that a surrogate pair encodes. -/
def paired (high low : Nat) : Nat := 0x10000 + (high - 0xD800) * 0x400 + (low - 0xDC00)

/-- The characters that `units` denote, and whether no surrogate stands alone. -/
def decode : List Nat → List Char × Bool
  | [] => ([], true)
  | [unit] =>
    if isHighSurrogate unit || isLowSurrogate unit then (['\uFFFD'], false)
    else ([Char.ofNat unit], true)
  | high :: low :: rest =>
    if isHighSurrogate high && isLowSurrogate low then
      let (tail, complete) := decode rest
      (Char.ofNat (paired high low) :: tail, complete)
    else
      let (tail, complete) := decode (low :: rest)
      if isHighSurrogate high || isLowSurrogate high then ('\uFFFD' :: tail, false)
      else (Char.ofNat high :: tail, complete)

/-- The literal spelled by a sequence of code points and surrogates. -/
def ofUnits (units : List Nat) : Literal :=
  let (chars, complete) := decode units
  ⟨String.ofList chars, complete⟩

end Literal

end Phrasebook.Source
