import Phrasebook.Json.Reader

/-!
# Reading records

Texts, switches, lists and records are read for what they are expected to be, so that the first
thing out of place is reported where it stands.

- `Json.expectText`, `Json.expectSwitch`, `Json.expectNumeral`, `Json.expectList`: single values;
- `Json.Field`, `Json.expectRecord`: a record, written as an object or as the list of its fields.
-/

namespace Phrasebook.Json

/-- Fail because the value that comes next is not what is expected. The value is read as far as it
shows what it is. -/
def refuseType {α : Type} (expected : String) : Reading α := do
  match ← next? with
  | some 'n' =>
    passWord ['n', 'u', 'l', 'l']
    refuse (.wrongType .null expected)
  | some 't' =>
    passWord ['t', 'r', 'u', 'e']
    refuse (.wrongType (.bool true) expected)
  | some 'f' =>
    passWord ['f', 'a', 'l', 's', 'e']
    refuse (.wrongType (.bool false) expected)
  | some '"' =>
    let text ← readText
    refuse (.wrongType (.string text) expected)
  | some '[' => refuse (.wrongType .sequence expected)
  | some '\x7b' => refuse (.wrongType .map expected)
  | some c =>
    if c = '-' ∨ (digit? c).isSome then
      let numeral ← readSigned
      refuse (.wrongType numeral.shape expected)
    else refuseNext .expectedValue
  | none => refuseNext .expectedValue

/-- The visible character that comes next; there has to be one. -/
def needVisible : Reading Char := do
  match ← nextVisible? with
  | none => refuseNext .endInValue
  | some c => return c

/-- Read a string. -/
def expectText : Reading String := do
  if (← needVisible) = '"' then readText else refuseType "a string"

/-- Read a string or `null`. -/
def expectOptionalText : Reading (Option String) := do
  if (← nextVisible?) = some 'n' then
    passWord ['n', 'u', 'l', 'l']
    return none
  else return some (← expectText)

/-- Read `true` or `false`. -/
def expectSwitch : Reading Bool := do
  match ← needVisible with
  | 't' =>
    passWord ['t', 'r', 'u', 'e']
    return true
  | 'f' =>
    passWord ['f', 'a', 'l', 's', 'e']
    return false
  | _ => refuseType "a boolean"

/-- Read a number. -/
def expectNumeral (expected : String) : Reading Numeral := do
  let c ← needVisible
  if c = '-' ∨ (digit? c).isSome then readSigned else refuseType expected

/-- Read a natural number of at most `limit`. -/
def expectNatural (expected : String) (limit : Nat) : Reading Nat := do
  match ← expectNumeral expected with
  | .natural value =>
    if value ≤ limit then return value
    else refuse (.wrongValue (.integer value) expected)
  | .negative value => refuse (.wrongValue (.integer (-value)) expected)
  | .decimal value => refuse (.wrongType (.decimal value) expected)

/-- Read a number in single precision. -/
def expectSingle (expected : String) : Reading Float32 := do
  match ← expectNumeral expected with
  | .natural value => return value.toUInt64.toFloat32
  | .negative value => return -value.toUInt64.toFloat32
  | .decimal value => return value.toFloat32

/-- Read a list. -/
def expectList {α : Type} (item : Reading α) : Reading (List α) := do
  if (← needVisible) = '[' then
    advance
    readItems item (← itemBound) true
  else refuseType "a sequence"

/-- A field of a record: its name, and how its value changes the record. -/
structure Field (ρ : Type) where
  name : String
  read : Reading (ρ → ρ)

/-- Fail because a field is given twice. The place is the one after its name, and after the blanks
and the closing brace that may follow. -/
def refuseDuplicate {α : Type} (name : String) : Reading α := do
  if (← nextVisible?) = some '\x7d' then advance
  refuse (.duplicateField name)

/-- Read the members of an object into a record, fields in `seen` having been given. Names that are
no fields are passed with their values. -/
def readFields {ρ : Type} (fields : List (Field ρ)) :
    Nat → Bool → List String → ρ → Reading ρ
  | 0, _, _, _ => refuse .expectedValue
  | bound + 1, isFirst, seen, record => do
    if ← hasMember isFirst then
      let name ← readText
      match fields.find? (·.name == name) with
      | none =>
        passColon
        skipValue (← itemBound)
        readFields fields bound false seen record
      | some field =>
        if seen.contains name then refuseDuplicate name
        else
          passColon
          let update ← field.read
          readFields fields bound false (name :: seen) (update record)
    else
      advance
      return record

/-- Read the items of a list into the fields of a record, in their order. Missing fields keep their
value, unless all are needed. -/
def readPositions {ρ : Type} (needed : Option String) :
    List (Field ρ) → Bool → ρ → Reading ρ
  | [], _, record => do
    passListEnd
    return record
  | field :: rest, isFirst, record => do
    if ← hasItem isFirst then
      let update ← field.read
      readPositions needed rest false (update record)
    else
      match needed with
      | some expected => refuse (.wrongLength expected)
      | none =>
        passListEnd
        return record

/-- Read a record, given the value that fields have where they are missing. -/
def expectRecord {ρ : Type} (expected : String) (needed : Option String) (fields : List (Field ρ))
    (standard : ρ) : Reading ρ := do
  match ← needVisible with
  | '\x7b' =>
    advance
    readFields fields (← itemBound) true [] standard
  | '[' =>
    advance
    readPositions needed fields true standard
  | _ => refuseType expected

end Phrasebook.Json
