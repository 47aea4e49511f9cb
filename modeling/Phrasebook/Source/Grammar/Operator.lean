import Phrasebook.Source.Grammar.Literal

/-!
# Operators

- `operators`: what follows an operand, by precedence;
- `binary`: operands and operators;
- `conditional`: a choice between two expressions;
- `assignmentRest`: an assignment operator and the value behind it.
-/

namespace Phrasebook.Source.Grammar

open Reader

variable (rules : Rules)

/-- The operator of marks at hand. -/
def operatorMark? : Reader (Option String) := do
  let lexeme ← current
  match lexeme.token with
  | .mark symbol =>
    if symbol == "<" || symbol == ">" then return readAngleOperator lexeme.origin.rest
    return some symbol
  | _ => return none

/-- Read the operator `symbol` that is at hand. -/
def readOperator (symbol : String) : Reader Unit := do
  let preceding := if compoundOperators.contains symbol then .other else .operator
  resume ((← current).origin.skip symbol.length preceding)

/-! ## Binary operators -/

/-- The binary operator of marks at hand, and its precedence. -/
def markOperator? : Reader (Option (String × Nat)) := do
  match ← operatorMark? with
  | some symbol => return (precedence? symbol).map fun precedence => (symbol, precedence)
  | none => return none

/-- The binary operator at hand, and its precedence. -/
def binaryOperator? : Reader (Option (String × Nat)) := do
  if ← atWord "instanceof" then return some ("instanceof", wordPrecedence)
  if (← atWord "in") && (← context).inOperator then return some ("in", wordPrecedence)
  markOperator?

/-- Pass over the operator `symbol` that is at hand. -/
def passOperator (symbol : String) : Reader Unit := do
  if (← token).isWord then advance else readOperator symbol

/-- An assertion of a type behind `operand`, if there is one. -/
def assertion? (operand : Node) (bound : Nat) : Reader (Option Node) := do
  let lexeme ← current
  if lexeme.onNewLine || wordPrecedence ≤ bound then return none
  if lexeme.token == .word "as" && (← ahead).token == .word "const" then
    advance
    advance
    return some (.expression .plain [operand])
  if lexeme.token == .word "as" then
    advance
    return some (.expression .asserted [operand, ← rules.type true])
  if lexeme.token == .word "satisfies" then
    advance
    return some (.expression .instantiated [operand, ← rules.type true])
  return none

/-- One operator behind `left` that binds more than `bound`, with the operand behind it. A power
binds to the right, and is not taken of a signed operand. -/
def operatorStep (bound : Nat) (left : Node) : Reader (Option Node) := do
  match ← assertion? rules left bound with
  | some node => return some node
  | none =>
    match ← binaryOperator? with
    | none => return none
    | some (symbol, precedence) =>
      if precedence ≤ bound then return none
      require (symbol != "**" || !left.isSigned)
      passOperator symbol
      let first ← rules.unary
      let right ← rules.operators first (if symbol == "**" then precedence - 1 else precedence)
      return some (.expression .joined [left, right])

/-- What follows the operand `left`, up to operators that bind no more than `bound`. -/
def operators (left : Node) (bound : Nat) : Reader Node :=
  folded left (operatorStep rules bound)

/-- Operands and operators. An operand that is missing in front of an operator is passed over. -/
def binary : Reader Node := do
  match ← tolerate rules.unary with
  | some left => if left.isArrow then return left else operators rules left 0
  | none =>
    require (← binaryOperator?).isSome
    operators rules .missing 0

/-! ## Choices -/

/-- A choice behind its condition, if a question mark follows. -/
def choice (condition : Node) : Reader Node := do
  unless ← eatMark "?" do return condition
  let positive ←
    within (fun context => { context with inOperator := true, ternary := true }) rules.assignment
  expectMark ":"
  let negative ← within (fun context => { context with ternary := false }) rules.assignment
  return .expression .joined [condition, positive, negative]

/-- An expression without assignment operators of its own. -/
def conditional : Reader Node := do
  let condition ← binary rules
  if condition.isArrow then return condition
  choice rules condition

/-! ## Assignments -/

/-- The assignment to `target`, if an assignment operator follows. -/
def assignmentRest (target : Node) : Reader Node := do
  match ← operatorMark? with
  | some "=" =>
    let some target := target.asTarget? | refuse
    advance
    return .expression .assignment [target, ← rules.assignment]
  | some symbol =>
    unless compoundOperators.contains symbol do return target
    require target.isAssignable
    readOperator symbol
    return .expression .plain [target, ← rules.assignment]
  | none => return target

end Phrasebook.Source.Grammar
