import Phrasebook.Source.Lexeme
import Phrasebook.Source.Pattern

/-!
# Readers

A `Reader` reads a part of a script or refuses it. Refusal carries no reason, but it keeps the place
where reading stopped: most refusals refuse the script, some are passed over there, and an attempt
goes back to where it began.

- `Dialect`: the variants of the language that depend on the kind of file;
- `State`, `Context`, `Reader`: a place in a script, its surroundings, and what reads on from it;
- `Reader.attempt`, `Reader.lookahead`, `Reader.tolerate`: what becomes of a refusal;
- `Reader.folded`, `Reader.repeated`, `Reader.separated`: repetition;
- `Rules`: the constructs that contain one another.
-/

namespace Phrasebook.Source

/-- The variants of the language. -/
structure Dialect where
  /-- Whether an angle bracket can start markup. -/
  markup : Bool
  /-- Whether the file only declares what is defined elsewhere. -/
  ambient : Bool
deriving Repr, DecidableEq, Inhabited

/-- A place in a script, one lexeme ahead. -/
structure State where
  /-- The place just behind the last token. -/
  place : Cursor
  /-- The lexeme that follows. -/
  current : Lexeme
  /-- The length of the script in bytes. -/
  limit : Nat
  dialect : Dialect
deriving Repr, Inhabited

/-- What a construct inherits from its surroundings. -/
structure Context where
  /-- Whether `in` is an operator; it is none in the head of a loop. -/
  inOperator : Bool := true
  /-- Whether `yield` suspends a generator. -/
  generator : Bool := false
  /-- Whether `await` suspends a function, so that it is never a name. -/
  asynchronous : Bool := false
  /-- Whether a conditional expression awaits its colon, which then starts no return type. -/
  ternary : Bool := false
  /-- Whether what is declared is defined elsewhere. -/
  ambient : Bool := false
  /-- The offset at which the parameters of an arrow function can start. -/
  arrowStart : Option Nat := none
deriving Repr, DecidableEq, Inhabited

/-- What the parts of a bracketed expression inherit. -/
def Context.bracketed (context : Context) : Context :=
  { context with inOperator := true, ternary := false }

/-- What the body of a function inherits. -/
def Context.body (context : Context) (generator asynchronous : Bool) : Context :=
  { ambient := context.ambient, generator, asynchronous }

/-- What reads a part of a script or refuses it, and goes to another place in either case. -/
def Reader (α : Type) := Context → State → Option α × State

instance : Monad Reader where
  pure value := fun _ state => (some value, state)
  bind reader next := fun context state =>
    match reader context state with
    | (some value, state) => next value context state
    | (none, state) => (none, state)

namespace Reader

variable {α β : Type}

/-! ## Places and refusals -/

/-- Refuse. -/
def refuse : Reader α := fun _ state => (none, state)

/-- What the construct at hand inherits. -/
def context : Reader Context := fun context state => (some context, state)

/-- The place at hand. -/
def state : Reader State := fun _ state => (some state, state)

/-- Read by `reader` in other surroundings. -/
def within (change : Context → Context) (reader : Reader α) : Reader α := fun context state =>
  reader (change context) state

/-- Read a part of a bracketed expression. -/
def bracketed (reader : Reader α) : Reader α := within Context.bracketed reader

/-- What `reader` reads, if it does not refuse; a refused attempt goes back. -/
def attempt (reader : Reader α) : Reader (Option α) := fun context state =>
  match reader context state with
  | (some value, state) => (some (some value), state)
  | (none, _) => (some none, state)

/-- What `reader` reads, if it does not refuse; a refusal is passed over where reading stopped. -/
def tolerate (reader : Reader α) : Reader (Option α) := fun context state =>
  let (value, state) := reader context state
  (some value, state)

/-- Whether `reader` finds what it looks for; the place stays the same. -/
def lookahead (reader : Reader Bool) : Reader Bool := fun context state =>
  (some ((reader context state).1.getD false), state)

/-- Refuse unless `condition` holds. -/
def require (condition : Bool) : Reader Unit := if condition then pure () else refuse

/-! ## Lexemes -/

/-- The lexeme at hand. -/
def current : Reader Lexeme := return (← state).current

/-- The lexeme behind the one at hand. -/
def ahead : Reader Lexeme := return (← state).current.next.lexeme

/-- The token at hand. -/
def token : Reader Token := return (← state).current.token

/-- Read on from `cursor`. -/
def resume (cursor : Cursor) : Reader Unit := fun _ state =>
  (some (), { state with place := cursor, current := cursor.lexeme })

/-- Read the lexeme at hand. -/
def next : Reader Lexeme := do
  let lexeme ← current
  resume lexeme.next
  return lexeme

/-- Pass over the lexeme at hand. -/
def advance : Reader Unit := do resume (← current).next

/-- Whether the punctuator `symbol` is at hand. -/
def atMark (symbol : String) : Reader Bool := return (← token) == .mark symbol

/-- Whether the word `id` is at hand. -/
def atWord (id : String) : Reader Bool := return (← token) == .word id

/-- Whether the end of the script is at hand. -/
def atFinish : Reader Bool := return (← token) == .finish

/-- Read the lexeme at hand if `condition` holds. -/
def eatIf (condition : Reader Bool) : Reader Bool := do
  if ← condition then
    advance
    return true
  return false

/-- Read the punctuator `symbol` if it is at hand. -/
def eatMark (symbol : String) : Reader Bool := eatIf (atMark symbol)

/-- Read the word `id` if it is at hand. -/
def eatWord (id : String) : Reader Bool := eatIf (atWord id)

/-- Read one of the punctuators `symbols` if it is at hand. -/
def eatMarks (symbols : List String) : Reader Bool :=
  eatIf do
    match ← token with
    | .mark symbol => return symbols.contains symbol
    | _ => return false

/-- Read the punctuator `symbol`. -/
def expectMark (symbol : String) : Reader Unit := do require (← eatMark symbol)

/-- Read the word `id`. -/
def expectWord (id : String) : Reader Unit := do require (← eatWord id)

/-- Read any name or keyword. -/
def anyWord : Reader String := do
  match (← token).word? with
  | some id =>
    advance
    return id
  | none => refuse

/-- Read a string literal. -/
def textLiteral : Reader Literal := do
  match ← token with
  | .text literal =>
    advance
    return literal
  | _ => refuse

/-- Whether a statement can end here: before a semicolon or a closing brace, at the end of the
script and where a line ends. -/
def atEnd : Reader Bool := do
  let lexeme ← current
  return lexeme.token == .mark ";" || lexeme.token == .mark "\x7d" || lexeme.token == .finish ||
    lexeme.onNewLine

/-- Read the end of a statement, if there is one. -/
def semicolon? : Reader Bool := do
  if ← eatMark ";" then return true
  atEnd

/-- Read the end of a statement or refuse. -/
def semicolon : Reader Unit := do require (← semicolon?)

/-! ## Repetition -/

/-- Apply `step` until it yields nothing, at most `fuel` times. -/
def foldedWithin (step : β → Reader (Option β)) : Nat → β → Reader β
  | 0, value => pure value
  | fuel + 1, value => do
    match ← step value with
    | some next => foldedWithin step fuel next
    | none => return value

/-- Apply `step` to `value` until it yields nothing. Each application reads at least one byte, so
there are no more than bytes left. -/
def folded (value : β) (step : β → Reader (Option β)) : Reader β := do
  let state ← state
  foldedWithin step (state.limit + 1 - state.current.start) value

/-- What `step` reads until it yields nothing. -/
def repeated (step : Reader (Option α)) : Reader (List α) := do
  let read ← folded [] fun read => do
    match ← step with
    | some value => return some (value :: read)
    | none => return none
  return read.reverse

/-- What `item` reads until `ended` holds. -/
def repeatedUntil (ended : Reader Bool) (item : Reader α) : Reader (List α) :=
  repeated do
    if ← ended then return none
    return some (← item)

/-- Items separated by commas up to the punctuator `closing`, which is read too. A comma may follow
the last item. -/
def separated (closing : String) (item : Reader α) : Reader (List α) := do
  let items ← repeatedUntil (atMark closing) do
    let value ← item
    unless ← atMark closing do expectMark ","
    return value
  expectMark closing
  return items

/-- One or more items with the punctuator `symbol` between them. -/
def joined (symbol : String) (item : Reader α) : Reader (List α) := do
  let first ← item
  let others ← repeated do
    if ← eatMark symbol then return some (← item)
    return none
  return first :: others

end Reader

/-! ## Constructs -/

/-- The constructs that contain one another. A construct reads its parts through these rules, so
each is defined by itself. -/
structure Rules where
  /-- An expression without commas. -/
  assignment : Reader Node
  /-- An operand of a binary operator. -/
  unary : Reader Node
  /-- What follows an operand, up to operators that bind no more than the bound. -/
  operators : Node → Nat → Reader Node
  /-- What `new` can call. -/
  member : Reader Node
  /-- An expression that can be called. -/
  operand : Reader Node
  /-- A statement; the argument says whether it can be a declaration of `let` or `const`. -/
  statement : Bool → Reader Node
  /-- A top-level item. -/
  item : Reader Item
  /-- A pattern that binds names. -/
  pattern : Reader Node
  /-- A parenthesised list of parameters. -/
  parameters : Reader (List Node)
  /-- A type; the argument says whether it can be conditional. -/
  type : Bool → Reader Node
  /-- A markup element. -/
  element : Reader Node

/-- The rules that refuse everything. -/
def Rules.exhausted : Rules where
  assignment := .refuse
  unary := .refuse
  operators _ _ := .refuse
  member := .refuse
  operand := .refuse
  statement _ := .refuse
  item := .refuse
  pattern := .refuse
  parameters := .refuse
  type _ := .refuse
  element := .refuse

end Phrasebook.Source
