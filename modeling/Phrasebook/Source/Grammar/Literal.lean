import Phrasebook.Source.Grammar.Class

/-!
# Compound literals

- `arrayLiteral`, `objectLiteral`: bracketed lists;
- `regularExpression`: a literal whose spelling the grammar has to ask for;
- `functionExpression`: a function in an expression.
-/

namespace Phrasebook.Source.Grammar

open Reader

variable (rules : Rules)

/-! ## Lists -/

/-- An element of an array literal; a hole is an empty group. -/
def arrayElement : Reader Node := do
  if ← atMark "," then return .group []
  argument rules

/-- An array literal. -/
def arrayLiteral : Reader Node := do
  expectMark "["
  return .array (← bracketed (separated "]" (arrayElement rules)))

/-! ## Objects -/

/-- The tokens behind a key for which the property goes on. -/
def continuesProperty (plain : Bool) : Token → Bool
  | .word _ | .escapedWord _ | .text _ | .number | .bigNumber => true
  | .mark symbol =>
    ["(", "[", ":", ",", "?", "=", "*", "<"].contains symbol || (symbol == "\x7d" && plain)
  | _ => false

/-- The function that gets or sets a property. One that sets has at most two parameters, of which
the first is `this`, and one that gets has none. -/
def accessorMethod (sets : Bool) : Reader Node := do
  let (_, parts) ← propertyKey rules
  let _ ← optionalTypeParameters rules
  let parameters ← within (fun context => context.body false false) rules.parameters
  let result ← optionalResultType rules
  let body ← functionBody rules false false
  if sets then return .accessor parts (parameters.take 2) [] body
  return .accessor parts [] result body

/-- A property that starts with the name `id`, behind that name. -/
def namedProperty (id : String) : Reader Node := do
  let _ ← eatMark "?"
  if ← eatMark "=" then return .fallback (.binding id) (← rules.assignment)
  if (← atMark ",") || (← atMark "\x7d") then return .property (.name id) []
  if id == "get" || id == "set" then accessorMethod rules (id == "set")
  else
    require (id == "async")
    let generator ← eatMark "*"
    let (_, parts) ← propertyKey rules
    return .group (parts ++ [← functionRest rules generator true])

/-- A property of an object literal. A value that is missing is passed over. -/
def objectProperty : Reader Node := do
  if ← eatMark "..." then return .spread (← rules.assignment)
  if ← eatMark "*" then
    let (_, parts) ← propertyKey rules
    return .group (parts ++ [← functionRest rules true false])
  visibility
  let (key, parts) ← propertyKey rules
  let plain :=
    match key with
    | .name _ => true
    | _ => false
  if !(continuesProperty plain (← token)) then return .property key (parts ++ [.missing])
  if ← eatMark ":" then return .property key (parts ++ [← rules.assignment])
  if ← atMethod then return .group (parts ++ [← functionRest rules false false])
  match key with
  | .name id => namedProperty rules id
  | _ => refuse

/-- An object literal. -/
def objectLiteral : Reader Node := do
  expectMark "\x7b"
  return .object (← bracketed (separated "\x7d" (objectProperty rules)))

/-! ## Regular expressions -/

/-- The regular expression at hand. -/
def regularExpression : Reader Node := do
  let some cursor := (← current).origin.pattern? | refuse
  resume cursor
  return .expression .plain []

/-! ## Functions -/

/-- A function in an expression, behind the word `async`, if there is one. It has a body. -/
def functionExpression (asynchronous : Bool) : Reader Node := do
  expectWord "function"
  let generator ← eatMark "*"
  let name ← if (← token).isName then pure (some (← bindingName)) else pure none
  let function ← functionRest rules generator asynchronous
  match function with
  | .function _ _ [] _ => refuse
  | _ => return function.called name

end Phrasebook.Source.Grammar
