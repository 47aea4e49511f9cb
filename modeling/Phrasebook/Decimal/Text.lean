import Phrasebook.Decimal.Shortest

/-!
# Written numbers

How binary fractions are written: the shortest decimal, positionally where that is short, and with
an exponent otherwise.

- `DecimalStyle`: where positional notation ends;
- `doubleText?`, `singleText?`: the text of a number of either precision; none for one that is not
  finite.
-/

namespace Phrasebook

/-- Where positional notation ends. -/
structure DecimalStyle where
  /-- The most digits before the point. -/
  widest : Int
  /-- Numbers with at most this many zeros between the point and the first digit are positional. -/
  deepest : Int

namespace DecimalStyle

/-- Numbers of double precision. -/
def double : DecimalStyle := ⟨16, 4⟩

/-- Numbers of single precision. -/
def single : DecimalStyle := ⟨13, 5⟩

/-- The text of a decimal. Positional numbers have at least one digit on each side of the point; an
exponent carries its sign. -/
def write (style : DecimalStyle) (decimal : Decimal) : String :=
  let digits := Nat.toDigits 10 decimal.digits
  let point := digits.length + decimal.exponent
  let zeros (count : Int) := List.replicate count.toNat '0'
  String.ofList <|
    if 0 ≤ decimal.exponent ∧ point ≤ style.widest then
      digits ++ zeros decimal.exponent ++ ['.', '0']
    else if 0 < point ∧ point ≤ style.widest then
      digits.take point.toNat ++ '.' :: digits.drop point.toNat
    else if -style.deepest ≤ point ∧ point ≤ 0 then
      ['0', '.'] ++ zeros (-point) ++ digits
    else
      let mantissa := if digits.length = 1 then digits else digits.take 1 ++ '.' :: digits.drop 1
      let exponent := point - 1
      let sign := if exponent < 0 then '-' else '+'
      mantissa ++ 'e' :: sign :: Nat.toDigits 10 exponent.natAbs

end DecimalStyle

/-- The layout of a binary format. -/
structure BinaryFormat where
  /-- Bits of the mantissa that are stored. -/
  mantissaBits : Nat
  exponentBits : Nat

namespace BinaryFormat

/-- Double precision. -/
def double : BinaryFormat := ⟨52, 11⟩

/-- Single precision. -/
def single : BinaryFormat := ⟨23, 8⟩

/-- The text of the number with the given bits; none if it is not finite. -/
def text? (format : BinaryFormat) (style : DecimalStyle) (bits : Nat) : Option String :=
  let stored := bits % Nat.pow 2 format.mantissaBits
  let exponent := bits / Nat.pow 2 format.mantissaBits % Nat.pow 2 format.exponentBits
  let negative := bits / Nat.pow 2 (format.mantissaBits + format.exponentBits) % 2 = 1
  let bias : Int := Int.ofNat (Nat.pow 2 (format.exponentBits - 1) - 1 + format.mantissaBits)
  let magnitude :=
    if exponent = 0 then
      if stored = 0 then "0.0" else style.write (Rounding.ofBinary stored (1 - bias) false).shortest
    else
      let mantissa := Nat.pow 2 format.mantissaBits + stored
      let narrow := stored = 0 ∧ 1 < exponent
      style.write (Rounding.ofBinary mantissa (exponent - bias) narrow).shortest
  if exponent = Nat.pow 2 format.exponentBits - 1 then none
  else some (if negative then "-" ++ magnitude else magnitude)

end BinaryFormat

/-- The shortest text that reads back as the number; none if it is not finite. -/
def doubleText? (value : Float) : Option String :=
  BinaryFormat.double.text? .double value.toBits.toNat

/-- The shortest text that reads back as the number; none if it is not finite. -/
def singleText? (value : Float32) : Option String :=
  BinaryFormat.single.text? .single value.toBits.toNat

end Phrasebook
