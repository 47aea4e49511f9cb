import Phrasebook.Source.Grammar.Arrow

/-!
# Operands

- `primary`: literals, names and bracketed expressions;
- `member`: what `new` can call, and `new` itself;
- `operand`: an expression that can be called;
- `unary`: an operand with its signs.
-/

namespace Phrasebook.Source.Grammar

open Reader

variable (rules : Rules)

/-! ## Primary expressions -/

/-- What starts with the name `id`, read from `lexeme`: an arrow function, if `free` says that one
can start here, or the name itself. -/
def named (lexeme : Lexeme) (id : String) (free : Bool) : Reader Node := do
  advance
  let name := Node.name lexeme.start id
  let behind ← current
  if !free || behind.onNewLine then return name
  if id == "async" && behind.token.isName then return ← asyncNamed rules lexeme.start
  if ← eatMark "=>" then return ← arrowBody rules false [.binding id] []
  return name

/-- What starts with the word `async`, read from `lexeme`. -/
def asyncPrimary (lexeme : Lexeme) (free : Bool) : Reader Node := do
  let behind ← ahead
  if behind.token == .word "function" && !behind.onNewLine then
    advance
    return ← functionExpression rules true
  let generic ←
    if free && behind.token == .mark "<" then
      attempt do
        advance
        asyncGenericArrow rules
    else pure none
  match generic with
  | some function => return function
  | none =>
    if free && behind.token == .mark "(" && !behind.onNewLine then
      advance
      enclosed rules (some lexeme.start) free
    else named rules lexeme "async" free

/-- What starts with the word `id`, read from `lexeme`. -/
def wordPrimary (lexeme : Lexeme) (id : String) (free : Bool) : Reader Node := do
  if ["this", "null", "true", "false"].contains id then
    advance
    return .expression .plain []
  if id == "function" then return ← functionExpression rules false
  if id == "class" then
    advance
    let (name, body) ← classRest rules false
    return body.called name
  if id == "async" then return ← asyncPrimary rules lexeme free
  require (!isReserved id && id != "yield")
  named rules lexeme id free

/-- A literal, a name, a function, a class or a bracketed expression. -/
def primary : Reader Node := do
  let lexeme ← current
  let free := (← context).arrowStart == some lexeme.start
  match lexeme.token with
  | .word id => wordPrimary rules lexeme id free
  | .escapedWord id => named rules lexeme id free
  | .text literal =>
    advance
    return .text lexeme.start lexeme.stop literal
  | .number | .bigNumber | .privateWord _ =>
    advance
    return .expression .plain []
  | .mark "(" => enclosed rules none free
  | .mark "[" => arrayLiteral rules
  | .mark "\x7b" => objectLiteral rules
  | .mark "`" => return .expression .operand (← template rules false)
  | .mark "/" | .mark "/=" => regularExpression
  | _ => refuse

/-! ## Parents and modules -/

/-- An access to the parent of an object, which drops the type arguments behind it. -/
def uninstantiated (node : Node) : Reader Node := do
  let _ ← instantiated rules node
  return node

/-- An access to the parent of an object, or a call of its constructor. -/
def parentExpression (calls : Bool) : Reader Node := do
  let start := (← current).start
  expectWord "super"
  let access ←
    match ← token with
    | .mark "." =>
      advance
      require (← propertyName).isSome
      uninstantiated rules (.expression .access [])
    | .mark "[" => uninstantiated rules (.expression .access [← elementKey rules])
    | _ =>
      require calls
      pure (.expression .operand (← arguments rules))
  accesses rules calls start access

/-- An `import` call behind its word. -/
def importCall (calls : Bool) (start : Nat) : Reader Node := do
  require calls
  let arguments ← arguments rules
  require (arguments.length == 1 || arguments.length == 2)
  accesses rules calls start (.expression .operand arguments)

/-- An `import` call or the metadata of the module. -/
def importExpression (calls : Bool) : Reader Node := do
  let start := (← current).start
  expectWord "import"
  unless ← eatMark "." do return ← importCall rules calls start
  let id ← anyWord
  if id == "meta" then accesses rules calls start (.expression .plain [])
  else
    require (id == "defer" || id == "source")
    importCall rules calls start

/-! ## Members and `new` -/

/-- Type arguments that are followed by a call. -/
def calledTypeArguments : Reader Node := do
  let types ← typeArguments rules
  require (← atMark "(")
  return types

/-- Type arguments of a call behind an expression, if there are any. -/
def calledTypeArguments? : Reader (List Node) := do
  if ← atMark "<" then return (← attempt (calledTypeArguments rules)).toList
  return []

/-- Whether `new` can call an expression: it calls no optional chain, and no property of one. -/
def isConstructible : Node → Bool
  | .expression .chain _ => false
  | .member (.expression .chain _) _ => false
  | _ => true

/-- A `new` expression. -/
def construct : Reader Node := do
  let lexeme ← next
  if ← eatMark "." then
    expectWord "target"
    return ← accesses rules false lexeme.start (.expression .plain [])
  let callee ← rules.member
  if callee.isArrow then return callee
  require (isConstructible callee)
  let types ← calledTypeArguments? rules
  unless ← atMark "(" do return .construct lexeme.start lexeme.comment callee []
  let arguments ← arguments rules
  let made := withTypes (.construct lexeme.start lexeme.comment callee arguments) types
  accesses rules false lexeme.start made

/-- What `new` can call, which includes `new` itself. -/
def member : Reader Node := do
  let lexeme ← current
  match lexeme.token with
  | .word "new" => construct rules
  | .word "super" => parentExpression rules false
  | .word "import" => importExpression rules false
  | _ =>
    let base ← primary rules
    if base.isArrow then return base
    accesses rules false lexeme.start (← instantiated rules base)

/-- An expression that can be called. -/
def operand : Reader Node := do
  let lexeme ← current
  if lexeme.token == .mark "<" && (← state).dialect.markup then return ← rules.element
  if lexeme.token == .word "super" then return ← parentExpression rules true
  if lexeme.token == .word "import" then return ← importExpression rules true
  let callee ← member rules
  if callee.isArrow then return callee
  let types ← calledTypeArguments? rules
  unless ← atMark "(" do return callee
  let call := callOf callee.isChain lexeme.start callee (← arguments rules) types
  accesses rules true lexeme.start call

/-! ## Signs -/

/-- A type assertion in front of an operand. -/
def typeAssertion : Reader Node := do
  expectMark "<"
  if ← eatWord "const" then
    expectMark ">"
    return .expression .plain [← rules.unary]
  let type ← rules.type true
  expectMark ">"
  return .expression .instantiated [← rules.unary, type]

/-- An operand behind the word `await`, which is a name in front of some brackets. -/
def awaited : Reader Node := do
  let lexeme ← next
  require (!(← atMark "*"))
  let closed := (← atMark ")") || (← atMark "]")
  if closed && !(← context).asynchronous then return .name lexeme.start "await"
  return .expression .awaited [← rules.unary]

/-- Whether a token is a sign in front of an operand. -/
def isSign : Token → Bool
  | .word id => ["delete", "void", "typeof"].contains id
  | .mark symbol => ["+", "-", "~", "!"].contains symbol
  | _ => false

/-- Whether a counter is to go up or down. -/
def isCounting (token : Token) : Bool := token == .mark "++" || token == .mark "--"

/-- An operand with its signs. One that is missing behind a sign is passed over. -/
def unary : Reader Node := do
  let lexeme ← current
  if lexeme.token == .mark "<" && !(← state).dialect.markup then return ← typeAssertion rules
  if isCounting lexeme.token then
    advance
    return .expression .joined [← rules.unary]
  if isSign lexeme.token then
    advance
    return .expression .signed (← tolerate rules.unary).toList
  if lexeme.token == .word "await" then return ← awaited rules
  let value ← operand rules
  if value.isArrow then return value
  let behind ← current
  if isCounting behind.token && !behind.onNewLine then
    advance
    return .expression .joined [value]
  return value

end Phrasebook.Source.Grammar
