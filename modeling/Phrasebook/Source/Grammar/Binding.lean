import Phrasebook.Source.Grammar.Types

/-!
# Patterns and functions

Patterns bind names in parameters and declarations.

- `bindingName`, `pattern`: a name, or an object or array of patterns;
- `parameters`, `constructorParameters`: a parenthesised parameter list;
- `block`: a block of statements, which the end of the script closes too;
- `functionRest`: everything behind the name of a function.
-/

namespace Phrasebook.Source.Grammar

open Reader

variable (rules : Rules)

/-! ## Patterns -/

/-- A name that is bound. Only what is defined elsewhere can be called `await`. -/
def bindingName : Reader String := do
  match ← token with
  | .word id =>
    require (id == "this" || !isReserved id)
    require (id != "await" || (← context).ambient)
    advance
    return id
  | .escapedWord id =>
    advance
    return id
  | _ => refuse

/-- A pattern with an optional default value. -/
def patternElement : Reader Node := do
  let target ← rules.pattern
  if ← eatMark "=" then return .fallback target (← bracketed rules.assignment)
  return target

/-- An element of an array pattern. -/
def arrayPatternElement : Reader Node := do
  if ← atMark "," then return .group []
  if ← eatMark "..." then return .spread (← rules.pattern)
  patternElement rules

/-- A property of an object pattern. -/
def objectPatternProperty : Reader Node := do
  if ← eatMark "..." then return .spread (← rules.pattern)
  let (key, parts) ← propertyKey rules
  if ← eatMark ":" then
    let target ← patternElement rules
    return parts.foldr .keyed target
  match key with
  | .name id =>
    if ← eatMark "=" then return .fallback (.binding id) (← bracketed rules.assignment)
    return .binding id
  | _ => refuse

/-- Whether what remains of an object is bound to a plain name, if it is the last property. -/
def bindsRemainder (properties : List Node) : Bool :=
  match properties.getLast? with
  | some (.spread (.binding _)) => true
  | some (.spread _) => false
  | _ => true

/-- A pattern that binds names. What is defined elsewhere can be marked as optional. -/
def pattern : Reader Node := do
  let elements ←
    if ← eatMark "[" then separated "]" (arrayPatternElement rules)
    else if ← eatMark "\x7b" then
      let properties ← separated "\x7d" (objectPatternProperty rules)
      require (bindsRemainder properties)
      pure properties
    else return .binding (← bindingName)
  if (← context).ambient then
    let _ ← eatMark "?"
  return .pattern elements

/-! ## Parameters -/

/-- A parameter that takes one argument. A type behind a default value is dropped. -/
def plainParameter : Reader Node := do
  visibility
  let element ← patternElement rules
  if ← eatMark "?" then require (!element.isFallback || (← context).ambient)
  let target ←
    if element.isFallback then
      let _ ← optionalType rules
      pure element
    else annotated rules element
  if ← eatMark "=" then return .fallback target (← rules.assignment)
  return target

/-- A parameter. -/
def parameter : Reader Node := do
  unless ← eatMark "..." do return ← plainParameter rules
  let target ← rules.pattern
  let target ←
    if ← eatMark "=" then pure (.fallback target (← rules.assignment)) else pure target
  let parameter ← annotated rules (.spread target)
  let _ ← eatMark "?"
  return parameter

/-- A parenthesised parameter list. -/
def parameters : Reader (List Node) := do
  expectMark "("
  separated ")" (parameter rules)

/-- The word that tells who may see a member, if there is one. Words about variance are passed
over. -/
def access? : Reader (Option String) := do
  match ← modifier? ["public", "protected", "private", "in", "out"] with
  | some id => return if id == "in" || id == "out" then none else some id
  | none => return none

/-- A parameter of a constructor; one with a modifier also declares a property. -/
def constructorParameter : Reader Node := do
  if ← eatMark "..." then return ← annotated rules (.spread (← rules.pattern))
  let access ← access?
  let overriding ← modifier? ["override"]
  let constant ← modifier? ["readonly"]
  let parameter ← plainParameter rules
  if access.isNone && overriding.isNone && constant.isNone then return parameter
  match parameter with
  | .pattern _ | .typed (.pattern _) _ => refuse
  | _ => return parameter

/-- The parenthesised parameter list of a constructor. -/
def constructorParameters : Reader (List Node) := do
  expectMark "("
  separated ")" (constructorParameter rules)

/-! ## Functions -/

/-- A block of statements. The end of the script closes it too. -/
def block : Reader Node := do
  expectMark "\x7b"
  let closed := do return (← atMark "\x7d") || (← atFinish)
  let statements ← repeatedUntil closed (rules.statement true)
  let _ ← eatMark "\x7d"
  return .block statements

/-- The body of a function. A function that is only declared has none. -/
def functionBody (generator asynchronous : Bool) : Reader (List Node) := do
  if !(← atMark "\x7b") then
    if ← semicolon? then return []
  return [← within (fun context => context.body generator asynchronous) (block rules)]

/-- Everything behind the name of a function. -/
def functionRest (generator asynchronous : Bool) : Reader Node := do
  let types ← optionalTypeParameters rules
  let parameters ← within (fun context => context.body false asynchronous) rules.parameters
  let result ← optionalResultType rules
  let body ← functionBody rules generator asynchronous
  return .function .ordinary parameters body (types ++ result)

end Phrasebook.Source.Grammar
