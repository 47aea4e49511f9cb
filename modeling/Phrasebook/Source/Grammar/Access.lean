import Phrasebook.Source.Grammar.Binding

/-!
# Accesses and calls

- `expression`: expressions with commas;
- `arguments`, `template`: what a call or a template hands over;
- `instantiated`: type arguments of an expression that is not called;
- `accesses`: accesses, calls and templates behind an expression.
-/

namespace Phrasebook.Source.Grammar

open Reader

variable (rules : Rules)

/-- One or more expressions with commas between them. -/
def expression : Reader Node := do
  match ← joined "," rules.assignment with
  | [value] => return value
  | values => return .expression .plain values

/-- An argument or element, possibly spread. -/
def argument : Reader Node := do
  if ← eatMark "..." then return .spread (← rules.assignment)
  rules.assignment

/-- A parenthesised argument list. -/
def arguments : Reader (List Node) := do
  expectMark "("
  bracketed (separated ")" (argument rules))

/-- The placeholders of the template at hand. Only a tagged one can hold escapes that spell
nothing. -/
def template (tagged : Bool) : Reader (List Node) :=
  repeated do
    let some (part, cursor) := (← current).next.templatePart? | refuse
    require (tagged || part.isValid)
    resume cursor
    if part.ended then return none
    let inner ← bracketed (expression rules)
    require (← atMark "\x7d")
    return some inner

/-! ## Nodes -/

/-- An expression together with type arguments. -/
def withTypes (node : Node) : List Node → Node
  | [] => node
  | types => .expression .operand (node :: types)

/-- An access to a property of `owner`, which stays in an optional chain. -/
def memberOf (chained : Bool) (owner : Node) (name : Option String) : Node :=
  if chained then .expression .chain [owner] else .member owner name

/-- An access to an element of `owner`, which stays in an optional chain. -/
def elementOf (chained : Bool) (owner key : Node) : Node :=
  if chained then .expression .chain [owner, key] else .element owner key

/-- A call of `callee` at `start`, which stays in an optional chain. -/
def callOf (chained : Bool) (start : Nat) (callee : Node) (arguments types : List Node) : Node :=
  if chained then .expression .chain (callee :: arguments ++ types)
  else withTypes (.call start callee arguments) types

/-! ## Properties -/

/-- The name of a property behind a dot; private ones have none. -/
def propertyName : Reader (Option String) := do
  match ← token with
  | .word id | .escapedWord id =>
    advance
    return some id
  | .privateWord _ =>
    advance
    return none
  | _ => refuse

/-- An expression in square brackets. -/
def elementKey : Reader Node := do
  expectMark "["
  let key ← bracketed (expression rules)
  expectMark "]"
  return key

/-! ## Type arguments -/

/-- The marks that show that what looks like type arguments in front of them belongs to a call or
template, or is none. -/
def marksBehindCalls : List String := ["(", "`", "<", ">", "+", "-"]

/-- Type arguments of an expression that is not called, which what follows them has to confirm. -/
def instantiation : Reader Node := do
  let types ← typeArguments rules
  let lexeme ← current
  match lexeme.token with
  | .mark symbol => require (!marksBehindCalls.contains symbol)
  | _ => pure ()
  require (lexeme.onNewLine || lexeme.token.joinsOperands || !lexeme.token.startsExpression)
  return types

/-- An expression with the type arguments behind it, if it is given any. -/
def instantiated (node : Node) : Reader Node := do
  unless ← atMark "<" do return node
  match ← attempt (instantiation rules) with
  | some types => return .expression .instantiated [node, types]
  | none => return node

/-! ## Steps -/

/-- The first access of an optional chain behind its question mark and dot. It can use square
brackets if `computes` holds. -/
def chainedAccess (computes : Bool) (start : Nat) (owner : Node) : Reader Node := do
  match ← token with
  | .mark "[" =>
    require computes
    instantiated rules (elementOf true owner (← elementKey rules))
  | .mark "(" => return callOf true start owner (← arguments rules) []
  | .mark "<" =>
    let types ← typeArguments rules
    return callOf true start owner (← arguments rules) [types]
  | _ => instantiated rules (memberOf true owner (← propertyName))

/-- What type arguments behind `owner` belong to: a call, if `calls` allows one, a template, or
`owner` itself in front of an assignment or assertion. -/
def typedAccess (calls : Bool) (start : Nat) (owner : Node) : Reader Node := do
  let types ← typeArguments rules
  match ← token with
  | .mark "(" =>
    require calls
    return callOf owner.isChain start owner (← arguments rules) [types]
  | .mark "`" => return .expression .plain (owner :: types :: (← template rules true))
  | .mark "=" | .word "as" | .word "satisfies" => return .expression .instantiated [owner, types]
  | _ => refuse

/-- One access, call or assertion behind `owner`, if there is one: a plain call only if `calls`
holds, an access with square brackets only if `computes` holds. -/
def accessStep (calls computes : Bool) (start : Nat) (owner : Node) : Reader (Option Node) := do
  let lexeme ← current
  let chained := owner.isChain
  match lexeme.token with
  | .mark "!" =>
    if lexeme.onNewLine then return none
    advance
    return some (.nonNull owner)
  | .mark "<" => attempt (typedAccess rules calls start owner)
  | .mark "?" =>
    if (← ahead).token != .mark "." then return none
    advance
    advance
    return some (← chainedAccess rules computes start owner)
  | .mark "." =>
    advance
    return some (← instantiated rules (memberOf chained owner (← propertyName)))
  | .mark "[" =>
    if !computes then return none
    return some (← instantiated rules (elementOf chained owner (← elementKey rules)))
  | .mark "(" =>
    if !calls then return none
    return some (callOf chained start owner (← arguments rules) [])
  | .mark "`" => return some (.expression .plain (owner :: (← template rules true)))
  | _ => return none

/-- Everything behind the expression `owner`, which starts at `start`. -/
def accesses (calls : Bool) (start : Nat) (owner : Node) : Reader Node :=
  folded owner (accessStep rules calls true start)

end Phrasebook.Source.Grammar
