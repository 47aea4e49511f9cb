import Phrasebook.Json.Reader
import Phrasebook.Json.Value
import Phrasebook.OrderedMap

/-!
# Reading any JSON value

- `Json.Value.read`: a value of bounded depth;
- `Json.parse`: a whole text.
-/

namespace Phrasebook.Json

/-- How deep lists and objects may be nested. -/
def depthLimit : Nat := 127

/-- The written form of the number that comes next. -/
def readNumberText : Reading String := do
  let before ← get
  let _ ← readSigned
  let after ← get
  return String.ofList (before.take (before.length - after.length))

/-- Read a value in which lists and objects are nested at most so deep. A member that is given
again takes the last value and keeps its first place. -/
def Value.read (depth : Nat) : Reading Value := do
  match ← nextVisible? with
  | none => refuseNext .endInValue
  | some 'n' =>
    passWord ['n', 'u', 'l', 'l']
    return .null
  | some 't' =>
    passWord ['t', 'r', 'u', 'e']
    return .bool true
  | some 'f' =>
    passWord ['f', 'a', 'l', 's', 'e']
    return .bool false
  | some '"' => return .string (← readText)
  | some '[' =>
    match depth with
    | 0 => refuseNext .tooDeep
    | depth + 1 =>
      advance
      return .array (← readItems (Value.read depth) (← itemBound) true)
  | some '\x7b' =>
    match depth with
    | 0 => refuseNext .tooDeep
    | depth + 1 =>
      advance
      let members ← readMembers (Value.read depth) (← itemBound) true
      return .object (OrderedMap.ofList members).entries
  | some c =>
    if c = '-' ∨ (digit? c).isSome then return .number (← readNumberText)
    else refuseNext .expectedValue

/-- The value that a text holds. -/
def parse (text : String) : Except Fault Value := readAll (Value.read depthLimit) text

/-- The string that a text holds. -/
def parseText (text : String) : Except Fault String :=
  readAll (do
    match ← nextVisible? with
    | some '"' => readText
    | _ => refuseNext .expectedValue) text

end Phrasebook.Json
