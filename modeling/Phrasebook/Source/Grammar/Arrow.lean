import Phrasebook.Source.Grammar.Operator

/-!
# Parentheses and arrow functions

What parentheses hold is read once, as expressions and as parameters; an arrow behind them decides
which of the two it is.

- `arrowBody`: what stands behind an arrow;
- `enclosed`: a parenthesised expression, an arrow function or a call of `async`;
- `namedArrow?`, `genericArrow`: arrow functions that start with a name or with type parameters.
-/

namespace Phrasebook.Source.Grammar

open Reader

variable (rules : Rules)

/-- The body of an arrow function. -/
def arrowBody (asynchronous : Bool) (parameters signature : List Node) : Reader Node := do
  let body ←
    if ← atMark "\x7b" then
      within (fun context => context.body false asynchronous) (block rules)
    else
      within (fun context => { context with generator := false, asynchronous }) rules.assignment
  return .function .arrow parameters [body] signature

/-! ## Items in parentheses -/

/-- What stands between two commas in parentheses. -/
inductive EnclosedItem where
  /-- An expression. -/
  | value (node : Node)
  /-- An expression behind three dots. -/
  | spread (node : Node)
  /-- A parameter, which is no expression. -/
  | parameter (node : Node)
deriving Inhabited

namespace EnclosedItem

/-- Whether the item can only be a parameter. -/
def isParameter : EnclosedItem → Bool
  | .parameter _ => true
  | _ => false

/-- Whether the item is a plain name. -/
def isName : EnclosedItem → Bool
  | .value (.name _ _) | .spread (.name _ _) => true
  | .parameter node => node.plainName?.isSome
  | _ => false

/-- Whether the item is a rest. -/
def isRest : EnclosedItem → Bool
  | .spread _ | .parameter (.spread _) | .parameter (.typed (.spread _) _) => true
  | _ => false

/-- The item as a parameter, if it can be one. -/
def asParameter? : EnclosedItem → Option Node
  | .value node => node.asPattern? .binding
  | .spread node => (node.asPattern? .binding).map .spread
  | .parameter node => some node

/-- The item as an argument, if it can be one. -/
def asArgument? : EnclosedItem → Option Node
  | .value node => some node
  | .spread node => some (.spread node)
  | .parameter _ => none

/-- The item as an expression, if it can be one. -/
def asValue? : EnclosedItem → Option Node
  | .value node => some node
  | _ => none

/-- The items as parameters, if they can be parameters. A rest in front of others is dropped. -/
def parameters? : List EnclosedItem → Option (List Node)
  | [] => some []
  | [item] => return [← item.asParameter?]
  | item :: rest =>
    if item.isRest then parameters? rest
    else return (← item.asParameter?) :: (← parameters? rest)

end EnclosedItem

/-- The expression that an item starts with. One that starts with a name is read without its
choice, whose question mark can also make a parameter optional. -/
def itemExpression : Reader EnclosedItem := do
  let start := (← current).start
  visibility
  let rest ← eatMark "..."
  let named := (← token).isName
  if rest then
    return .spread (← if named then binary rules else rules.assignment)
  if named then
    let value ←
      within (fun context => { context with arrowStart := some start }) (binary rules)
    return .value (← if value.isArrow then pure value else assignmentRest rules value)
  return .value (← rules.assignment)

/-- A parameter behind the expression that it starts with: its type and default value. -/
def itemParameter (item : EnclosedItem) : Reader EnclosedItem := do
  let some target := item.asParameter? | refuse
  let target ←
    match target with
    | .binding _ | .pattern _ | .spread _ => annotated rules target
    | _ => pure target
  if ← eatMark "=" then return .parameter (.fallback target (← rules.assignment))
  return .parameter target

/-- Whether the question mark at hand makes a parameter optional. -/
def atOptionalMark : Reader Bool := do
  match (← ahead).token with
  | .mark symbol => return (← atMark "?") && [",", "=", ")", ":"].contains symbol
  | _ => return false

/-- An item in parentheses. Only a plain name can be optional. -/
def enclosedItem : Reader EnclosedItem := do
  let item ← itemExpression rules
  if ← atOptionalMark then
    advance
    match item with
    | .value (.name _ _) | .spread (.name _ _) => return ← itemParameter rules item
    | _ => refuse
  let item ←
    match item with
    | .value node => pure (.value (← choice rules node))
    | _ => pure item
  if ← atMark ":" then itemParameter rules item else return item

/-- The items behind an item that follows `earlier`, last one first: an arrow behind a plain name
makes a function of all items so far. -/
def withArrow (items : List EnclosedItem) : Reader (List EnclosedItem) := do
  unless ← eatMark "=>" do return items
  unless (items.getLast?.any EnclosedItem.isName) do return items
  let some parameters := EnclosedItem.parameters? items.reverse | refuse
  return .value (← arrowBody rules false parameters []) :: items

/-- The items in parentheses. -/
def enclosedItems : Reader (List EnclosedItem) := do
  expectMark "("
  let items ← folded [] fun items => do
    if ← atMark ")" then return none
    let items ← withArrow rules ((← enclosedItem rules) :: items)
    unless ← atMark ")" do expectMark ","
    return some items
  expectMark ")"
  return items.reverse

/-! ## Parentheses -/

/-- The arrow and what stands behind it, for the parameters `items`. -/
def arrowRest (asynchronous : Bool) (items : List EnclosedItem) (signature : List Node) :
    Reader Node := do
  expectMark "=>"
  let some parameters := EnclosedItem.parameters? items | refuse
  arrowBody rules asynchronous parameters signature

/-- An arrow function with a result type where a choice awaits its colon: another colon has to
follow. -/
def arrowInChoice (asynchronous : Bool) (items : List EnclosedItem) : Reader Node := do
  expectMark ":"
  let result ← resultType rules
  let function ← arrowRest rules asynchronous items [result]
  require (← atMark ":")
  return function

/-- A result type with an arrow behind it. -/
def resultBeforeArrow : Reader Node := do
  expectMark ":"
  let result ← resultType rules
  require (← atMark "=>")
  return result

/-- Whether the body of a function is a block. -/
def hasBlock : Node → Bool
  | .function _ _ [.block _] _ => true
  | _ => false

/-- Items in parentheses as an expression, or as the arguments of a call of `async`. -/
def enclosedValue (asyncStart : Option Nat) (items : List EnclosedItem) : Option Node := do
  match asyncStart with
  | some start =>
    return .call start (.name start "async") (← items.mapM EnclosedItem.asArgument?)
  | none =>
    match ← items.mapM EnclosedItem.asValue? with
    | [] => none
    | [value] => return .paren value
    | values => return .paren (.expression .plain values)

/-- An arrow function behind its parameters `items`. Operators behind its block take it as an
operand. -/
def enclosedArrow (asynchronous free : Bool) (items : List EnclosedItem) (result : Option Node) :
    Reader Node := do
  require (free && !(← current).onNewLine)
  let function ← arrowRest rules asynchronous items result.toList
  if hasBlock function && (← markOperator?).isSome then rules.operators function 0
  else return function

/-- What starts with a parenthesis: an arrow function, if `free` says that one can start here, a
call of `async`, which stands at `asyncStart`, or a parenthesised expression. -/
def enclosed (asyncStart : Option Nat) (free : Bool) : Reader Node := do
  let asynchronous := asyncStart.isSome
  let items ← bracketed (enclosedItems rules)
  let ternary := (← context).ternary
  let typed ← atMark ":"
  let inChoice ←
    if typed && ternary then attempt (arrowInChoice rules asynchronous items) else pure none
  match inChoice with
  | some function => return function
  | none =>
    let result ← if typed && !ternary then attempt (resultBeforeArrow rules) else pure none
    if items.any EnclosedItem.isParameter || result.isSome || (← atMark "=>") then
      enclosedArrow rules asynchronous free items result
    else
      let some value := enclosedValue asyncStart items | refuse
      return value

/-! ## Arrow functions without parentheses in front -/

/-- What follows the name `async` where a name stands behind it: a parameter and an arrow, or the
assertion of a type. -/
def asyncNamed (start : Nat) : Reader Node := do
  let name ← bindingName
  if name == "as" && !(← atMark "=>") then
    return .expression .asserted [.name start "async", ← rules.type true]
  expectMark "=>"
  arrowBody rules true [.binding name] []

/-- An asynchronous arrow function with type parameters, behind the word `async`. -/
def asyncGenericArrow : Reader Node := do
  let (types, _) ← typeParameters rules
  let parameters ← within (fun context => context.body false false) rules.parameters
  let result ← optionalResultType rules
  expectMark "=>"
  arrowBody rules true parameters (types ++ result)

end Phrasebook.Source.Grammar
