/-!
# JSON values

- `Json.Value`: a value; numbers keep their written form, objects the order of their members;
- `Json.Value.text?`: the text of a string.
-/

namespace Phrasebook.Json

/-- A JSON value. -/
inductive Value where
  | null
  | bool (value : Bool)
  /-- A number, as it is written. -/
  | number (text : String)
  | string (text : String)
  | array (items : List Value)
  /-- Members with distinct names, in order of first appearance. -/
  | object (members : List (String × Value))
deriving Inhabited, Repr

namespace Value

/-- The text of a string. -/
def text? : Value → Option String
  | .string text => some text
  | _ => none

end Value

end Phrasebook.Json
