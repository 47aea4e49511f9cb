/-!
# Ranges of code points

Membership of a code point in a sorted table of disjoint closed ranges.

- `Range`: a closed interval of code points;
- `Range.covers`: binary search in a table.
-/

namespace Phrasebook.Text

/-- A closed interval of code points: first and last. -/
abbrev Range := Nat × Nat

/-- Whether one of the sorted ranges at positions `low … high - 1` of `table` holds `code`; the
first argument bounds the number of halvings. -/
def Range.search (table : Array Range) (code : Nat) : Nat → Nat → Nat → Bool
  | 0, _, _ => false
  | fuel + 1, low, high =>
    if low < high then
      let middle := (low + high) / 2
      match table[middle]? with
      | none => false
      | some (first, last) =>
        if code < first then Range.search table code fuel low middle
        else if last < code then Range.search table code fuel (middle + 1) high
        else true
    else false

/-- Whether one of the sorted ranges of `table` holds `code`. -/
def Range.covers (table : Array Range) (code : Nat) : Bool :=
  Range.search table code (table.size + 1) 0 table.size

end Phrasebook.Text
