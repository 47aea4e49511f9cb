import Phrasebook.Source.Grammar.Operand

/-!
# Expressions

- `yielded`: a `yield` expression;
- `plainAssignment`: assignments and most arrow functions;
- `genericArrow`: arrow functions that start with type parameters;
- `assignment`: an expression without commas.
-/

namespace Phrasebook.Source.Grammar

open Reader

variable (rules : Rules)

/-- Whether the operand of `yield` is at hand. -/
def atYieldedValue : Reader Bool := do
  let token ← token
  return !(← atEnd) && (token.startsExpression || token == .mark "*")

/-- A `yield` expression. -/
def yielded : Reader Node := do
  expectWord "yield"
  if ← atYieldedValue then
    let _ ← eatMark "*"
    return .expression .plain [← rules.assignment]
  return .expression .plain []

/-- Whether an arrow function can start with a token, type parameters apart. -/
def startsArrow : Token → Bool
  | .word id => !isReserved id && id != "let" && id != "await"
  | .escapedWord _ => true
  | .mark symbol => symbol == "("
  | _ => false

/-- An expression without commas that does not start with type parameters. -/
def plainAssignment : Reader Node := do
  if (← context).generator && (← atWord "yield") then return ← yielded rules
  let lexeme ← current
  let arrowStart := if startsArrow lexeme.token then some lexeme.start else none
  let target ← within (fun context => { context with arrowStart }) (conditional rules)
  if target.isArrow || target.endsAssignment then return target
  assignmentRest rules target

/-- An arrow function that starts with type parameters. In markup a lone name in angle brackets is
an element. -/
def genericArrow : Reader Node := do
  let (types, lone) ← typeParameters rules
  require (!(lone && (← state).dialect.markup))
  let function ← plainAssignment rules
  require function.isArrow
  return function.withTypeParameters types

/-- The arrow function with type parameters at hand, if there is one. -/
def genericArrow? : Reader (Option Node) :=
  attempt (within (fun context => { context with ternary := false }) (genericArrow rules))

/-- An expression without commas. In markup an angle bracket first starts an element. -/
def assignment : Reader Node := do
  unless ← atMark "<" do return ← plainAssignment rules
  let element ←
    if (← state).dialect.markup then attempt (plainAssignment rules) else pure none
  match element with
  | some value => return value
  | none =>
    match ← genericArrow? rules with
    | some function => return function
    | none => plainAssignment rules

end Phrasebook.Source.Grammar
