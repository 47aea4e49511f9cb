import Phrasebook.Source.Grammar.Expression

/-!
# Markup

Elements in the midst of expressions, with expressions in braces.

- `element`: an element or fragment with its content.
-/

namespace Phrasebook.Source.Grammar

open Reader

variable (rules : Rules)

/-! ## Names -/

/-- A name in markup, where hyphens are letters. -/
def markupWord : Reader String := do
  let some (name, cursor) := (← current).origin.markupWord? | refuse
  resume cursor
  return name

/-- A name in markup, possibly with a namespace in front of it. -/
def markupName : Reader (List String) := do
  let first ← markupWord
  if ← eatMark ":" then return [first, ":", ← markupWord] else return [first]

/-- The name of an element: a name, possibly with property names behind it. -/
def elementName : Reader (List String) := do
  let first ← markupName
  let others ← repeated do
    if ← eatMark "." then return some (← markupWord)
    return none
  return first ++ others

/-! ## Attributes -/

/-- The value of an attribute. -/
def attributeValue : Reader Node := do
  match ← token with
  | .mark "\x7b" =>
    advance
    let value ← bracketed (expression rules)
    expectMark "\x7d"
    return value
  | .mark "<" => rules.element
  | _ =>
    let some cursor := (← current).origin.markupString? | refuse
    resume cursor
    return .group []

/-- An attribute, or attributes that are spread. -/
def elementAttribute : Reader Node := do
  if ← eatMark "\x7b" then
    expectMark "..."
    let value ← bracketed rules.assignment
    expectMark "\x7d"
    return value
  let _ ← markupName
  if ← eatMark "=" then attributeValue rules else return .group []

/-! ## Content -/

/-- An expression in braces, possibly spread, or only comments. -/
def container : Reader Node := do
  expectMark "\x7b"
  if ← eatMark "\x7d" then return .group []
  let _ ← eatMark "..."
  let value ← bracketed (expression rules)
  expectMark "\x7d"
  return value

/-- A child of the element at hand. None is left at a closing tag. -/
def child? : Reader (Option Node) := do
  let some text := (← state).place.markupText? | refuse
  resume text
  if ← atMark "\x7b" then return some (← container rules)
  if (← ahead).token == .mark "/" then return none
  return some (← rules.element)

/-- The children and the closing tag of an element called `name`; a fragment has no name. -/
def content (name : List String) : Reader (List Node) := do
  let children ← repeated (child? rules)
  expectMark "<"
  expectMark "/"
  let closing ← if ← atMark ">" then pure [] else elementName
  require (closing == name)
  expectMark ">"
  return children

/-- An element or fragment with its content. -/
def element : Reader Node := do
  expectMark "<"
  if ← eatMark ">" then return .expression .plain (← content rules [])
  let name ← elementName
  let types ← if ← atMark "<" then pure [← typeArguments rules] else pure []
  let attributes ← repeated do
    if (← atMark "/") || (← atMark ">") then return none
    return some (← elementAttribute rules)
  if ← eatMark "/" then
    expectMark ">"
    return .expression .plain (attributes ++ types)
  expectMark ">"
  return .expression .plain (attributes ++ types ++ (← content rules name))

end Phrasebook.Source.Grammar
