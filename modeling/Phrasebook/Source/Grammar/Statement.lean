import Phrasebook.Source.Grammar.Declaration

/-!
# Statements

- `keywordStatement?`: statements that start with a reserved word;
- `forLoop`: `for` loops;
- `expressionStatement`: expressions, and declarations that start with a name;
- `statement`: a statement or declaration.
-/

namespace Phrasebook.Source.Grammar

open Reader

variable (rules : Rules)

/-! ## Loops -/

/-- The head of a `for` loop. -/
structure LoopHead where
  /-- The declaration in it. -/
  declared : List Node
  /-- Its other parts. -/
  parts : List Node
  /-- Whether the loop goes over elements. -/
  overElements : Bool
deriving Inhabited

/-- The head of a loop behind its first part and a semicolon. -/
def countingHead (declared parts : List Node) : Reader LoopHead := do
  let test ←
    if ← eatMark ";" then pure []
    else
      let test ← expression rules
      expectMark ";"
      pure [test]
  let update ← if ← atMark ")" then pure [] else pure [← expression rules]
  return ⟨declared, parts ++ test ++ update, false⟩

/-- The head of a loop over elements or keys behind what takes them. -/
def valuesHead (declared parts : List Node) : Reader LoopHead := do
  if ← eatWord "of" then return ⟨declared, parts ++ [← rules.assignment], true⟩
  expectWord "in"
  return ⟨declared, parts ++ [← expression rules], false⟩

/-- Whether the word `of` or `in` is at hand. -/
def atValues : Reader Bool := return (← atWord "of") || (← atWord "in")

/-- Whether a loop takes its elements as resources: an expression `using`, possibly behind `await`,
with a name and the word `of` or `in` behind it. -/
def takesResource (value : Node) : Reader Bool := do
  let marked :=
    match value with
    | .name _ "using" | .expression .awaited [.name _ "using"] => true
    | _ => false
  let behind := (← ahead).token
  return marked && !(← atWord "of") && (behind == .word "of" || behind == .word "in")

/-- Whether the name `async` in the head of a loop takes the elements. -/
def atAsyncOf : Reader Bool := do
  let behind ← ahead
  return (← atWord "async") && behind.token == .word "of" &&
    behind.next.lexeme.token != .mark "=>"

/-- The expression that the head of a loop starts with. -/
def headExpression : Reader Node := do
  if ← atAsyncOf then return .name (← next).start "async"
  within (fun context => { context with inOperator := false }) (expression rules)

/-- The head of a loop. -/
def loopHead : Reader LoopHead := do
  if ← atVariables then
    let declared ←
      within (fun context => { context with inOperator := false })
        (variableDeclaration rules "" true)
    if ← atValues then return ← valuesHead rules [declared] []
    expectMark ";"
    return ← countingHead rules [declared] []
  if ← eatMark ";" then return ← countingHead rules [] []
  let value ← headExpression rules
  if ← takesResource value then
    let target ← bindingName
    return ← valuesHead rules [.resources [.declarator (.binding target) []]] []
  if ← atValues then
    let some target := value.asLoopTarget? | refuse
    return ← valuesHead rules [] [target]
  expectMark ";"
  countingHead rules [] [value]

/-- A `for` loop behind its word. Only one over elements awaits them. -/
def forLoop : Reader Node := do
  let awaits ← eatWord "await"
  expectMark "("
  let head ← loopHead rules
  expectMark ")"
  require (!awaits || head.overElements)
  return .loop head.declared (head.parts ++ [← rules.statement false])

/-! ## Statements with a word of their own -/

/-- A parenthesised expression. -/
def parenthesised : Reader Node := do
  expectMark "("
  let value ← expression rules
  expectMark ")"
  return value

/-- An `if` statement behind its word. -/
def choiceStatement : Reader Node := do
  let test ← parenthesised rules
  let positive ← rules.statement false
  if ← eatWord "else" then return .group [test, positive, ← rules.statement false]
  return .group [test, positive]

/-- A `do` loop behind its word. -/
def doLoop : Reader Node := do
  let body ← rules.statement false
  expectWord "while"
  let test ← parenthesised rules
  let _ ← eatMark ";"
  return .group [test, body]

/-- A `while` loop or `with` statement behind its word. -/
def whileLoop : Reader Node := do
  let test ← parenthesised rules
  return .group [test, ← rules.statement false]

/-- A `return` statement behind its word. -/
def returnStatement : Reader Node := do
  if ← semicolon? then return .group []
  let value ← expression rules
  semicolon
  return value

/-- A `throw` statement behind its word. -/
def throwStatement : Reader Node := do
  require (!(← current).onNewLine)
  let value ← expression rules
  semicolon
  return value

/-- A `break` or `continue` statement behind its word. -/
def jump : Reader Node := do
  unless ← semicolon? do
    reference (!(← context).generator)
    semicolon
  return .group []

/-- The statements of a clause of a `switch` statement. -/
def clauseBody : Reader (List Node) :=
  repeatedUntil
    (do return (← atWord "case") || (← atWord "default") || (← atMark "\x7d"))
    (rules.statement true)

/-- The clauses of a `switch` statement, of which at most one has no test. -/
def switchClauses : Reader (List Node) := do
  let clauses ← repeated do
    if ← eatMark "\x7d" then return none
    let test ←
      if ← eatWord "default" then pure []
      else
        expectWord "case"
        pure [← expression rules]
    expectMark ":"
    return some (test, ← clauseBody rules)
  require ((clauses.filter fun clause => clause.1.isEmpty).length ≤ 1)
  return clauses.map fun clause => .clause clause.1 clause.2

/-- A `switch` statement behind its word. -/
def switchStatement : Reader Node := do
  let value ← parenthesised rules
  expectMark "\x7b"
  return .switch value (← switchClauses rules)

/-- A `catch` clause, if there is one. -/
def handler? : Reader (List Node) := do
  unless ← eatWord "catch" do return []
  let parameter ←
    if ← eatMark "(" then
      let target ← annotated rules (← rules.pattern)
      expectMark ")"
      pure [target]
    else pure []
  return [.handler parameter [← block rules]]

/-- A `finally` clause, if there is one. -/
def finalizer? : Reader (List Node) := do
  if ← eatWord "finally" then return [← block rules]
  return []

/-- A `try` statement behind its word. -/
def tryStatement : Reader Node := do
  let body ← block rules
  let handler ← handler? rules
  return .group (body :: handler ++ (← finalizer? rules))

/-- Clauses without a `try` statement, which are passed over. -/
def strayClauses : Reader Node := do
  let _ ← tolerate (handler? rules)
  let _ ← tolerate (finalizer? rules)
  return .group []

/-- What `reader` reads behind the word at hand. -/
def behindWord (reader : Reader Node) : Reader (Option Node) := do
  advance
  return some (← reader)

/-- A statement that starts with the keyword `id`, if that is one. -/
def keywordStatement? (id : String) : Reader (Option Node) :=
  match id with
  | "if" => behindWord (choiceStatement rules)
  | "for" => behindWord (forLoop rules)
  | "while" | "with" => behindWord (whileLoop rules)
  | "do" => behindWord (doLoop rules)
  | "return" => behindWord (returnStatement rules)
  | "throw" => behindWord (throwStatement rules)
  | "break" | "continue" => behindWord jump
  | "debugger" =>
    behindWord do
      semicolon
      return .group []
  | "switch" => behindWord (switchStatement rules)
  | "try" => behindWord (tryStatement rules)
  | "catch" | "finally" => return some (← strayClauses rules)
  | _ => return none

/-! ## Expressions as statements -/

/-- The end of a statement that is the expression `value`. Operators may follow instead. -/
def expressionEnd (value : Node) : Reader Node := do
  if ← semicolon? then return value
  require (← markOperator?).isSome
  rules.operators value 0

/-- The declaration behind the name `id`, which starts a statement, if there is one; `comment`
stands in front of the name. -/
def namedDeclaration? (comment id : String) : Reader (Option Node) := do
  let behind ← current
  if id == "declare" then return ← ambientDeclaration? rules comment
  if id == "global" && behind.token == .mark "\x7b" then return some (← namespaceBody rules)
  if continuesDeclaration id behind then return some (← typeDeclaration rules comment id)
  let marked := ["public", "static", "abstract"].contains id
  if ← eatIf (do return marked && (← atWord "interface")) then
    return some (← interfaceRest rules)
  return none

/-- What follows an expression that is the name `id`: a statement that the name labels, which is no
generator, a declaration or nothing. -/
def namedStatement (comment id : String) (value : Node) : Reader Node := do
  if ← eatMark ":" then
    require (!((← atWord "function") && (← ahead).token == .mark "*"))
    return .group [← rules.statement false]
  if id == "interface" && (← current).onNewLine then
    let _ ← eatMark ";"
    return value
  match ← namedDeclaration? rules comment id with
  | some node => return node
  | none => expressionEnd rules value

/-- A statement that starts with an expression. -/
def expressionStatement : Reader Node := do
  let comment := (← current).comment
  let value ← expression rules
  match value with
  | .name _ id => namedStatement rules comment id value
  | _ => expressionEnd rules value

/-! ## Statements that start with a word -/

/-- Resources behind the word `await`, or another operand that the word awaits. -/
def awaitedResources : Reader Node := do
  advance
  match ← resources? rules with
  | some node => return node
  | none =>
    let value := Node.expression .awaited [← rules.unary]
    let value ← rules.operators value 0
    let _ ← semicolon?
    return value

/-- A declaration that keywords start, if there is one; `inBlock` says whether it can be one of
variables in a block. -/
def keywordDeclaration? (lexeme : Lexeme) (inBlock : Bool) : Reader (Option Node) := do
  match ← constantEnum? rules with
  | some node => return some node
  | none =>
    let behind ← ahead
    if lexeme.token == .word "var" || (inBlock && (← atVariables)) then
      return some (← variableDeclaration rules lexeme.comment false)
    if inBlock && lexeme.token == .word "await" && behind.token == .word "using" then
      return some (← awaitedResources rules)
    let resources ← if inBlock then resources? rules else pure none
    match resources with
    | some node => return some node
    | none => functionOrClass? rules true

/-- A declaration that starts with the word `id` and has any word behind it, if there is one. -/
def wordDeclaration? (lexeme : Lexeme) (id : String) : Reader (Option Node) := do
  let behind ← ahead
  if ["enum", "interface", "type"].contains id && behind.token.isWord && !behind.onNewLine then
    advance
    return some (← typeDeclaration rules lexeme.comment id)
  return none

/-- An expression that starts with `import`. No semicolon has to follow. -/
def importStatement : Reader Node := do
  let behind := (← ahead).token
  require (behind == .mark "(" || behind == .mark ".")
  let value ← expression rules
  let _ ← semicolon?
  return value

/-- The first of `readers` that reads something. -/
def firstOf (readers : List (Reader (Option Node))) : Reader (Option Node) :=
  match readers with
  | [] => return none
  | reader :: others => do
    match ← reader with
    | some node => return some node
    | none => firstOf others

/-- A statement or declaration that starts with the word `id`, read from `lexeme`. -/
def wordStatement (lexeme : Lexeme) (id : String) (inBlock : Bool) : Reader Node := do
  if id == "import" then return ← importStatement rules
  let special ← firstOf
    [keywordStatement? rules id, keywordDeclaration? rules lexeme inBlock,
      wordDeclaration? rules lexeme id]
  match special with
  | some node => return node
  | none => expressionStatement rules

/-- A statement or declaration; `inBlock` says whether it can declare variables of a block. -/
def statement (inBlock : Bool) : Reader Node := do
  let lexeme ← current
  match lexeme.token with
  | .mark "\x7b" => block rules
  | .mark ";" =>
    advance
    return .group []
  | .word id => wordStatement rules lexeme id inBlock
  | _ => expressionStatement rules

end Phrasebook.Source.Grammar
