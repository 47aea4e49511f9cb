import Phrasebook.Source.Grammar.Expression

/-!
# Declarations

- `variableDeclaration`, `resources?`: declarations of variables;
- `functionDeclaration`, `classDeclaration`: functions and classes;
- `typeDeclaration`: enumerations, interfaces, aliases, namespaces and abstract classes;
- `ambientDeclaration?`: what stands behind the word `declare`.
-/

namespace Phrasebook.Source.Grammar

open Reader

variable (rules : Rules)

/-! ## Variables -/

/-- The kinds of variables. -/
inductive VariableKind where
  /-- `var` -/
  | hoisted
  /-- `let` -/
  | block
  /-- `const` -/
  | constant
deriving Repr, DecidableEq, Inhabited

/-- The kind of variables that a word declares. -/
def VariableKind.ofWord (id : String) : VariableKind :=
  if id == "var" then .hoisted else if id == "let" then .block else .constant

/-- One declarator of a variable declaration. Only a plain name may go without a value, unless the
declaration is of constants or what it declares is defined elsewhere. -/
def declarator (kind : VariableKind) (inLoop : Bool) : Reader Node := do
  require (kind == .hoisted || !(← atWord "let"))
  let target ← rules.pattern
  let plain := target.plainName?.isSome
  if plain then
    let _ ← eatMark "!"
  let target ← annotated rules target
  if inLoop && ((← atWord "in") || (← atWord "of")) then return .declarator target []
  if ← eatMark "=" then return .declarator target [← rules.assignment]
  require (plain || (kind == .constant && !inLoop) || (← context).ambient)
  return .declarator target []

/-- Declarators, the last of which may be missing in front of a semicolon. -/
def declarators (kind : VariableKind) (inLoop : Bool) : Reader (List Node) := do
  let ended := do return (← atMark ";") || (← atFinish)
  if ← ended then return []
  let first ← declarator rules kind inLoop
  let others ← repeated do
    unless ← eatMark "," do return none
    if ← ended then return none
    return some (← declarator rules kind inLoop)
  return first :: others

/-- Whether what a loop goes over is at hand, so that the declaration in its head is empty. -/
def atLoopValues : Reader Bool :=
  lookahead do
    unless ← eatWord "of" do expectWord "in"
    let _ ← rules.assignment
    atMark ")"

/-- Pass over what stands between a declaration of variables and the end of the statement. -/
def skipStatement : Reader Unit := do
  let _ ← tolerate (expression rules)
  let _ ← repeated do
    if ← semicolon? then return none
    advance
    if (← token) == .unreadable then return none
    return some ()

/-- A declaration of variables with the comments in front of it. In the head of a loop it ends
without a semicolon. -/
def variableDeclaration (comment : String) (inLoop : Bool) : Reader Node := do
  let kind := VariableKind.ofWord (← anyWord)
  let hoisted := kind == .hoisted
  let empty ← if inLoop then atLoopValues rules else pure false
  if empty then return .variables comment hoisted []
  let declarators ←
    within (fun context => { context with inOperator := context.inOperator || !hoisted })
      (declarators rules kind inLoop)
  unless inLoop do
    unless ← semicolon? do skipStatement rules
  return .variables comment hoisted declarators

/-- Whether variables can follow the word `let`. -/
def followsLet : Token → Bool
  | .word id => !isReserved id
  | .escapedWord _ => true
  | .mark symbol => symbol == "[" || symbol == "\x7b"
  | _ => false

/-- Whether a declaration of variables is at hand. -/
def atVariables : Reader Bool := do
  match ← token with
  | .word "var" | .word "const" => return true
  | .word "let" => return followsLet (← ahead).token
  | _ => return false

/-- A declaration of resources behind the words in front of `using`, if there is one. No semicolon
belongs to it. -/
def resources? : Reader (Option Node) := do
  let behind ← ahead
  if (← atWord "using") && behind.token.isName && !behind.onNewLine then
    advance
    return some (.resources (← declarators rules .hoisted false))
  return none

/-! ## Functions and classes -/

/-- A function behind the word `async`, if there is one, and the comments in front of it. -/
def functionDeclaration (comment : String) (isNamed asynchronous : Bool) : Reader Node := do
  expectWord "function"
  let generator ← eatMark "*"
  let name ← if isNamed || (← token).isName then pure (some (← bindingName)) else pure none
  return .functionDeclaration comment name (← functionRest rules generator asynchronous)

/-- A class behind the word `abstract`, if there is one, and the comments in front of it. -/
def classDeclaration (comment : String) (isNamed : Bool) : Reader Node := do
  expectWord "class"
  let (name, body) ← classRest rules isNamed
  return .classDeclaration comment name body

/-- A function or class, if there is one. -/
def functionOrClass? (isNamed : Bool) : Reader (Option Node) := do
  let lexeme ← current
  let behind ← ahead
  match lexeme.token with
  | .word "function" => return some (← functionDeclaration rules lexeme.comment isNamed false)
  | .word "class" => return some (← classDeclaration rules lexeme.comment isNamed)
  | .word "async" =>
    if behind.token != .word "function" || behind.onNewLine then return none
    advance
    return some (← functionDeclaration rules lexeme.comment isNamed true)
  | _ => return none

/-! ## Enumerations -/

/-- The name of a member of an enumeration. -/
def enumKey : Reader Unit := do
  match ← token with
  | .word _ | .escapedWord _ | .text _ | .number => advance
  | _ =>
    expectMark "["
    let _ ← bracketed (expression rules)
    expectMark "]"

/-- A member of an enumeration, with the comma behind it. Between a
name and something else, two tokens are passed over. -/
def enumMember : Reader Node := do
  enumKey rules
  let value ← if ← eatMark "=" then pure [← bracketed rules.assignment] else pure []
  if value.isEmpty && !(← atMark ",") && !(← atMark "\x7d") then
    advance
    advance
  else
    let _ ← eatMark ","
  return .group value

/-- An enumeration behind the word `enum`. Commas behind values may be missing. -/
def enumRest : Reader Node := do
  let _ ← anyWord
  expectMark "\x7b"
  let members ← repeatedUntil (atMark "\x7d") (enumMember rules)
  expectMark "\x7d"
  return .group members

/-! ## Types and namespaces -/

/-- An interface behind its first word. What stands behind a second list of interfaces is passed
over. -/
def interfaceRest : Reader Node := do
  let _ ← anyWord
  let types ← optionalTypeParameters rules
  let parents ← if ← eatWord "extends" then heritage rules else pure []
  if ← atWord "extends" then
    let _ ← repeatedUntil (do return (← atMark "\x7b") || (← atFinish)) advance
  return .group (types ++ parents ++ [← objectType rules])

/-- A type alias behind its first word. -/
def aliasRest : Reader Node := do
  let _ ← anyWord
  let types ← optionalTypeParameters rules
  expectMark "="
  let inner ← rules.type true
  semicolon
  return .group (types ++ [inner])

/-- The items of a namespace, in braces. The end of the script closes it too. -/
def namespaceBody : Reader Node := do
  expectMark "\x7b"
  let closed := do return (← atMark "\x7d") || (← atFinish)
  let items ← repeatedUntil closed rules.item
  let _ ← eatMark "\x7d"
  return .group (items.flatMap Item.nodes)

/-- A namespace behind its first word. -/
def namespaceRest : Reader Node := do
  let _ ← joined "." anyWord
  namespaceBody rules

/-- A module with a text for its name or `global` instead, possibly without a body. -/
def externalModule : Reader Node := do
  advance
  if ← atMark "\x7b" then namespaceBody rules
  else
    semicolon
    return .group []

/-- A module behind its first word. -/
def moduleRest : Reader Node := do
  match ← token with
  | .text _ => externalModule rules
  | _ => namespaceRest rules

/-! ## Declarations behind a word -/

/-- The words that start declarations, but are names elsewhere. -/
def declaringWords : List String :=
  ["abstract", "enum", "interface", "module", "namespace", "type"]

/-- The declaration behind the word `id`. -/
def typeDeclaration (comment id : String) : Reader Node :=
  match id with
  | "abstract" => classDeclaration rules comment true
  | "enum" => enumRest rules
  | "interface" => interfaceRest rules
  | "module" => moduleRest rules
  | "namespace" => namespaceRest rules
  | _ => aliasRest rules

/-- Whether `behind` goes on with a declaration that starts with the word `id`. -/
def continuesDeclaration (id : String) (behind : Lexeme) : Bool :=
  match id, behind.token with
  | "abstract", token => token == .word "class" && !behind.onNewLine
  | "module", .text _ => !behind.onNewLine
  | "module", token | "type", token => token.isName && !behind.onNewLine
  | "enum", token | "interface", token | "namespace", token => token.isName
  | _, _ => false

/-- The declaration behind the comments `comment` that a declaring word starts, if one is at hand.
No line ends in front of the word `module`. -/
def declaringWord? (comment : String) : Reader (Option Node) := do
  let lexeme ← current
  match lexeme.token with
  | .word id =>
    if declaringWords.contains id && !(id == "module" && lexeme.onNewLine) then
      advance
      return some (← typeDeclaration rules comment id)
    return none
  | _ => return none

/-- A constant enumeration, if there is one. -/
def constantEnum? : Reader (Option Node) := do
  if (← atWord "const") && (← ahead).token == .word "enum" then
    advance
    advance
    return some (← enumRest rules)
  return none

/-- The declaration behind the word `declare`, if there is one; `comment` stands in front of that
word. -/
def ambientDeclaration? (comment : String) : Reader (Option Node) :=
  within (fun context => { context with ambient := true }) do
    match ← constantEnum? rules with
    | some node => return some node
    | none =>
      match ← token with
      | .word "function" => return some (← functionDeclaration rules comment true false)
      | .word "class" => return some (← classDeclaration rules comment true)
      | .word "const" | .word "var" | .word "let" =>
        return some (← variableDeclaration rules comment false)
      | .word "global" => return some (← externalModule rules)
      | _ => declaringWord? rules comment

end Phrasebook.Source.Grammar
