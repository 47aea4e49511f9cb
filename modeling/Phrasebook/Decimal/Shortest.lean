/-!
# Shortest decimals

The decimal with the fewest digits that lies closer to a given binary fraction than to any other
fraction of the same format, and of those the nearest.

- `Decimal`: digits and a power of ten;
- `Rounding`: the interval of numbers that a format rounds to one of its values;
- `Rounding.shortest`: the decimal, found by testing for each number of digits the two neighbours of
  the value on that decimal grid.
-/

namespace Phrasebook

/-- The number `digits * 10 ^ exponent`. -/
structure Decimal where
  digits : Nat
  exponent : Int
deriving Repr, DecidableEq

/-- The numbers that round to one value: between `low / unit` and `high / unit`, around
`value / unit`, ends included if `closed`. -/
structure Rounding where
  low : Nat
  value : Nat
  high : Nat
  unit : Nat
  closed : Bool

namespace Rounding

/-- The numbers that round to `mantissa * 2 ^ exponent`. An even mantissa takes the halfway points
on both sides; the gap below is half as wide where the format changes to a finer grid. -/
def ofBinary (mantissa : Nat) (exponent : Int) (narrowBelow : Bool) : Rounding :=
  let scale := Nat.pow 2 (exponent - 2).toNat
  { low := (4 * mantissa - if narrowBelow then 1 else 2) * scale
    value := 4 * mantissa * scale
    high := (4 * mantissa + 2) * scale
    unit := Nat.pow 2 (2 - exponent).toNat
    closed := mantissa % 2 = 0 }

/-- The first of `exponent`, `exponent + 1`, … for which `value * 10 ^ exponent` is at least `unit`,
with at most so many steps. -/
def leadingZeros (value unit : Nat) : Nat → Nat → Nat
  | 0, exponent => exponent
  | steps + 1, exponent =>
    if unit ≤ value * Nat.pow 10 exponent then exponent
    else leadingZeros value unit steps (exponent + 1)

/-- The place of the first digit: the value lies below `10` to this power and not below a tenth of
that. -/
def magnitude (span : Rounding) : Int :=
  let whole := span.value / span.unit
  if whole = 0 then 1 - leadingZeros span.value span.unit (span.unit.log2 + 1) 1
  else (Nat.toDigits 10 whole).length

/-- Whether `digits * 10 ^ exponent` rounds to the value. -/
def covers (span : Rounding) (digits : Nat) (exponent : Int) : Bool :=
  let point := digits * span.unit * Nat.pow 10 exponent.toNat
  let scale := Nat.pow 10 (-exponent).toNat
  if span.closed then span.low * scale ≤ point && point ≤ span.high * scale
  else span.low * scale < point && point < span.high * scale

/-- The nearest decimal with so many digits, if it rounds to the value; a tie goes to the even
digit. -/
def withDigits? (span : Rounding) (count : Nat) : Option Decimal :=
  let exponent := span.magnitude - count
  let grid := span.unit * Nat.pow 10 exponent.toNat
  let scaled := span.value * Nat.pow 10 (-exponent).toNat
  let below := scaled / grid
  let above := below + 1
  let twice := 2 * (scaled % grid)
  match span.covers below exponent, span.covers above exponent with
  | true, true =>
    if twice < grid ∨ (twice = grid ∧ below % 2 = 0) then some ⟨below, exponent⟩
    else some ⟨above, exponent⟩
  | true, false => some ⟨below, exponent⟩
  | false, true => some ⟨above, exponent⟩
  | false, false => none

/-- Drop zeros at the end of the digits. -/
def trim : Nat → Decimal → Decimal
  | 0, decimal => decimal
  | steps + 1, decimal =>
    if decimal.digits ≠ 0 ∧ decimal.digits % 10 = 0 then
      trim steps ⟨decimal.digits / 10, decimal.exponent + 1⟩
    else decimal

/-- The shortest decimal that rounds to the value; no format here needs more than 17 digits. -/
def shortest (span : Rounding) : Decimal :=
  let found := (List.range 17).findSome? fun place => span.withDigits? (place + 1)
  trim 17 (found.getD ⟨0, 0⟩)

end Rounding

end Phrasebook
