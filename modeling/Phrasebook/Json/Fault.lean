import Phrasebook.Decimal.Text
import Phrasebook.Text.Quoted

/-!
# Faults in JSON

Why a text cannot be read, and where.

- `Json.Problem`: what is wrong;
- `Json.Fault`: a problem and the text that was left;
- `Json.Fault.message`: the problem with its line and column.
-/

namespace Phrasebook.Json

/-- What was found in place of something else. -/
inductive Shape where
  | null
  | bool (value : Bool)
  | integer (value : Int)
  | decimal (value : Float)
  | string (text : String)
  | sequence
  | map
deriving Inhabited

/-- The words for a shape. -/
def Shape.describe : Shape → String
  | .null => "null"
  | .bool value => "boolean \x60" ++ (if value then "true" else "false") ++ "\x60"
  | .integer value => "integer \x60" ++ toString value ++ "\x60"
  | .decimal value => "floating point \x60" ++ (doubleText? value).getD "null" ++ "\x60"
  | .string text => "string " ++ Text.quoted text
  | .sequence => "sequence"
  | .map => "map"

/-- What is wrong with a text. -/
inductive Problem where
  | endInValue
  | endInList
  | endInObject
  | endInString
  | expectedColon
  | expectedListEnd
  | expectedObjectEnd
  | expectedWord
  | expectedValue
  | invalidEscape
  | invalidNumber
  | numberTooLarge
  | controlCharacter
  | keyNotString
  | loneSurrogate
  | unfinishedSurrogate
  | trailingComma
  | trailingCharacters
  | tooDeep
  | wrongType (found : Shape) (expected : String)
  | wrongValue (found : Shape) (expected : String)
  | wrongLength (expected : String)
  | duplicateField (name : String)
deriving Inhabited

/-- The words for a problem. -/
def Problem.describe : Problem → String
  | .endInValue => "EOF while parsing a value"
  | .endInList => "EOF while parsing a list"
  | .endInObject => "EOF while parsing an object"
  | .endInString => "EOF while parsing a string"
  | .expectedColon => "expected \x60:\x60"
  | .expectedListEnd => "expected \x60,\x60 or \x60]\x60"
  | .expectedObjectEnd => "expected \x60,\x60 or \x60\x7d\x60"
  | .expectedWord => "expected ident"
  | .expectedValue => "expected value"
  | .invalidEscape => "invalid escape"
  | .invalidNumber => "invalid number"
  | .numberTooLarge => "number out of range"
  | .controlCharacter => "control character (\\u0000-\\u001F) found while parsing a string"
  | .keyNotString => "key must be a string"
  | .loneSurrogate => "lone leading surrogate in hex escape"
  | .unfinishedSurrogate => "unexpected end of hex escape"
  | .trailingComma => "trailing comma"
  | .trailingCharacters => "trailing characters"
  | .tooDeep => "recursion limit exceeded"
  | .wrongType found expected => "invalid type: " ++ found.describe ++ ", expected " ++ expected
  | .wrongValue found expected => "invalid value: " ++ found.describe ++ ", expected " ++ expected
  | .wrongLength expected => "invalid length, expected " ++ expected
  | .duplicateField name => "duplicate field \x60" ++ name ++ "\x60"

/-- A problem, the text that was left when it showed, and how many bytes of that belong to it. -/
structure Fault where
  problem : Problem
  rest : List Char
  ahead : Nat
deriving Inhabited

/-- A place in a text: the line, counted from 1, and the number of bytes before it on that line. -/
structure Place where
  line : Nat
  column : Nat
deriving Repr, DecidableEq

namespace Place

/-- Where a text starts. -/
def start : Place := ⟨1, 0⟩

/-- The place so many bytes further in `text`. -/
def skipBytes (place : Place) : Nat → List Char → Place
  | _, [] => place
  | 0, _ => place
  | bytes, c :: rest =>
    if c = '\n' then skipBytes ⟨place.line + 1, 0⟩ (bytes - 1) rest
    else skipBytes ⟨place.line, place.column + min bytes c.utf8Size⟩ (bytes - c.utf8Size) rest

/-- The place after all of `text`. -/
def skip (place : Place) : List Char → Place
  | [] => place
  | c :: rest =>
    if c = '\n' then skip ⟨place.line + 1, 0⟩ rest
    else skip ⟨place.line, place.column + c.utf8Size⟩ rest

end Place

namespace Fault

/-- Where in `text` the problem shows. -/
def place (fault : Fault) (text : List Char) : Place :=
  let passed := text.take (text.length - fault.rest.length)
  (Place.start.skip passed).skipBytes fault.ahead fault.rest

/-- The problem with its place in `text`. -/
def message (fault : Fault) (text : List Char) : String :=
  let found := fault.place text
  fault.problem.describe ++ " at line " ++ toString found.line ++ " column " ++
    toString found.column

end Fault

end Phrasebook.Json
