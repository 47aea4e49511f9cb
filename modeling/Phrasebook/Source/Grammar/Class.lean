import Phrasebook.Source.Grammar.Access

/-!
# Classes

- `heritage`: a list of classes or interfaces that a declaration goes back to;
- `classMember`: a member of a class body;
- `classRest`: everything behind the word `class`.
-/

namespace Phrasebook.Source.Grammar

open Reader

variable (rules : Rules)

/-! ## Keys -/

/-- The key of a member with the comments in front of it. -/
structure MemberKey where
  comment : String
  /-- The key; a private name is none that others can spell. -/
  key : PropertyKey
  /-- The parts of a computed key. -/
  parts : List Node
deriving Inhabited

/-- The key of a member that is called by a word like a modifier. -/
def MemberKey.ofLexeme (lexeme : Lexeme) : MemberKey :=
  ⟨lexeme.comment, .name (lexeme.token.word?.getD ""), []⟩

/-- The name of a member; private and computed keys have none. -/
def MemberKey.name? (key : MemberKey) : Option String :=
  match key.key with
  | .name id => some id
  | .text literal => literal.text?
  | .other => none

/-- Whether the key is that of a constructor. -/
def MemberKey.isConstructor (key : MemberKey) : Bool := key.name? == some "constructor"

/-- The key of a member. -/
def memberKey : Reader MemberKey := do
  let comment := (← current).comment
  match ← token with
  | .privateWord _ =>
    advance
    return ⟨comment, .other, []⟩
  | _ =>
    let (key, parts) ← propertyKey rules
    return ⟨comment, key, parts⟩

/-! ## Methods and properties -/

/-- Whether the parameters of a method are at hand. -/
def atMethod : Reader Bool := return (← atMark "(") || (← atMark "<")

/-- Whether what follows the key of a property is at hand; `anyEnd` says whether that includes an
end without a semicolon. -/
def atProperty (anyEnd : Bool) : Reader Bool := do
  match ← token with
  | .mark symbol =>
    if ["!", ":", "=", "\x7d", ";"].contains symbol then return true
    return anyEnd && (← atEnd)
  | _ => return anyEnd && (← atEnd)

/-- A method behind its key; `comment` stands in front of the first token. -/
def method (comment : String) (key : MemberKey) (generator asynchronous : Bool) : Reader Node := do
  let function ← functionRest rules generator asynchronous
  return .classMember [comment, key.comment] key.name? (key.parts ++ [function])

/-- A property behind its key. What joins an accessor is no member of its own. -/
def property (comment : String) (key : MemberKey) (accessor optional : Bool) : Reader Node := do
  require (!key.isConstructor)
  unless optional do
    let _ ← eatMark "!"
  let type ← optionalType rules
  let value ← if ← eatMark "=" then pure [← bracketed rules.assignment] else pure []
  let _ ← semicolon?
  let parts := key.parts ++ value ++ type
  return if accessor then .group parts else .classMember [comment, key.comment] key.name? parts

/-- The member whose key is a word just read, if that is no modifier. -/
def memberNamed? (comment : String) (key : MemberKey) (anyEnd : Bool) : Reader (Option Node) := do
  if ← atMethod then return some (← method rules comment key false false)
  if (← atProperty anyEnd) || (← atMark "?") then
    return some (← property rules comment key false (← eatMark "?"))
  return none

/-- A constructor behind its key. Types that constructors cannot have are dropped. -/
def constructorRest (key : MemberKey) : Reader Node := do
  let _ ← optionalTypeParameters rules
  let parameters ←
    within (fun context => context.body false false) (constructorParameters rules)
  let _ ← optionalType rules
  let body ← functionBody rules false false
  return .group (key.parts ++ [.function .ordinary parameters body []])

/-! ## Modifiers -/

/-- The modifiers of a member behind those that come first. -/
structure Modifiers where
  /-- Whether the member belongs to the class itself. -/
  shared : Bool
  /-- Whether the member has an accessor for its value. -/
  accessor : Bool
  /-- Whether a class can have members under any key like it. -/
  indexable : Bool
  /-- The last of the words that keep a property constant. -/
  constant : Option Lexeme
deriving Inhabited

/-- Read further modifiers. -/
def furtherModifiers (modifiers : Modifiers) : Reader Modifiers :=
  folded modifiers fun modifiers => do
    let lexeme ← current
    if lexeme.token == .word "static" && (← ahead).token == .mark "\x7b" then return none
    match ← modifier? ["abstract", "readonly", "override", "static"] with
    | some "static" => return some { modifiers with shared := true }
    | some "readonly" => return some { modifiers with constant := some lexeme }
    | some _ => return some { modifiers with indexable := false }
    | none => return none

/-- A member behind its key, if that is no word of an accessor or an asynchronous method. -/
def memberRest? (comment : String) (key : MemberKey) (modifiers : Modifiers) :
    Reader (Option Node) := do
  let optional ← eatMark "?"
  if ← atMethod then
    require modifiers.constant.isNone
    if key.isConstructor then return some (← constructorRest rules key)
    return some (← method rules comment key false false)
  let lexeme ← current
  let generatorFollows := lexeme.onNewLine && lexeme.token == .mark "*"
  let accessor := (key.key == .name "get" || key.key == .name "set") &&
    !(← atProperty false) && !generatorFollows
  if !accessor && (← atProperty true) then
    return some (← property rules comment key modifiers.accessor optional)
  return none

/-- A member behind the word `async`, `get` or `set`. -/
def accessorOrAsync (comment : String) (word : MemberKey) : Reader Node := do
  if word.key == .name "async" && !(← current).onNewLine then
    let _ ← modifier? ["override"]
    let generator ← eatMark "*"
    let key ← memberKey rules
    require (!key.isConstructor)
    let _ ← eatMark "?"
    method rules comment key generator true
  else
    require (word.key == .name "get" || word.key == .name "set")
    method rules comment (← memberKey rules) false false

/-- A member behind its modifiers; `comment` stands in front of the first token. -/
def plainMember (comment : String) (modifiers : Modifiers) : Reader Node := do
  if ← eatMark "*" then return ← method rules comment (← memberKey rules) true false
  let key ←
    match modifiers.constant with
    | some lexeme =>
      if (← atMark "!") || (← atMark ":") then pure (MemberKey.ofLexeme lexeme)
      else memberKey rules
    | none => memberKey rules
  match ← memberRest? rules comment key modifiers with
  | some member => return member
  | none => accessorOrAsync rules comment key

/-- The statements that a class runs when it is made. -/
def staticBlock : Reader Node :=
  return .staticBlock (← within (fun context => context.body false false) (block rules))

/-- A member behind the words that come first; `shared` says whether the word `static` is among
them, and `visible` whether one tells who may see the member. -/
def modifiedMember (comment : String) (shared visible : Bool) : Reader Node := do
  let lexeme ← current
  let accessor ← eatWord "accessor"
  let key := MemberKey.ofLexeme lexeme
  let named ← if accessor then memberNamed? rules comment key true else pure none
  match named with
  | some member => return member
  | none =>
    let modifiers ← furtherModifiers ⟨shared, accessor, true, none⟩
    let accessor ← if accessor then pure true else eatWord "accessor"
    let modifiers := { modifiers with accessor }
    if modifiers.shared && (← atMark "\x7b") then return ← staticBlock rules
    if (← atWord "static") && (← ahead).token == .mark "\x7b" then
      advance
      return ← staticBlock rules
    let signature ←
      if modifiers.indexable && !visible then indexSignature? rules else pure none
    match signature with
    | some signature => return signature
    | none => plainMember rules comment modifiers

/-- A member of a class body. -/
def classMember : Reader Node := do
  let first ← current
  let declared ← eatWord "declare"
  let access ← access?
  let declared ← if declared then pure true else eatWord "declare"
  let key : MemberKey := ⟨first.comment, .name "declare", []⟩
  let named ← if declared then memberNamed? rules first.comment key true else pure none
  match named with
  | some member => return member
  | none =>
    let key := MemberKey.ofLexeme (← current)
    let shared ← eatWord "static"
    let named ← if shared then memberNamed? rules first.comment key false else pure none
    match named with
    | some member => return member
    | none => modifiedMember rules first.comment shared access.isSome

/-- The body of a class. -/
def classMembers : Reader (List Node) := do
  expectMark "\x7b"
  let members ← repeatedUntil (atMark "\x7d") do
    if ← eatMark ";" then return .group []
    classMember rules
  expectMark "\x7d"
  return members

/-! ## Heritage -/

/-- A class or interface that a declaration goes back to, with its type arguments. Accesses that
lead to it use no square brackets. -/
def heritageElement : Reader Node := do
  let start := (← current).start
  let first := Node.name start (← anyWord)
  match ← folded first (accessStep rules false false start) with
  | .expression .instantiated parts => return .expression .instantiated parts
  | element =>
    let types ← if ← atMark "<" then pure [← typeArguments rules] else pure []
    return .group (element :: types)

/-- Whether a list of classes or interfaces has ended. -/
def atHeritageEnd : Reader Bool :=
  return (← atMark "\x7b") || (← atWord "implements") || (← atWord "extends")

/-- Classes or interfaces that a declaration goes back to. -/
def heritage : Reader (List Node) :=
  repeatedUntil atHeritageEnd do
    let element ← heritageElement rules
    unless ← atHeritageEnd do expectMark ","
    return element

/-- The class that a class extends, and its type arguments. -/
def superclass : Reader (Node × List Node) := do
  match ← rules.operand with
  | .expression .instantiated [parent, types] => return (parent, [types])
  | parent =>
    let types ← if ← atMark "<" then pure [← typeArguments rules] else pure []
    return (parent, types)

/-- The class that a class extends, if it extends one. -/
def superclass? : Reader (Option (Node × List Node)) := do
  if ← eatWord "extends" then return some (← superclass rules)
  return none

/-- The lists behind the word `implements`, if there is one. -/
def implements? : Reader (List Node) := do
  if ← eatWord "implements" then heritage rules else return []

/-- Everything behind the word `class`: the name, and the body. Further classes to extend are
passed over. -/
def classRest (named : Bool) : Reader (Option String × Node) := do
  let name ←
    if named || (← token).isName then
      require (!(← atWord "let"))
      pure (some (← bindingName))
    else pure none
  let types ← optionalTypeParameters rules
  let parent ← superclass? rules
  if ← eatIf (do return parent.isSome && (← atMark ",")) then
    let _ ← heritage rules
  let _ ← superclass? rules
  let interfaces ← implements? rules
  let _ ← implements? rules
  let lateParent ← superclass? rules
  let (parents, arguments) :=
    match parent.or lateParent with
    | some (parent, arguments) => ([parent], arguments)
    | none => ([], [])
  let members ← classMembers rules
  return (name, .classBody members (parents ++ types ++ arguments ++ interfaces))

end Phrasebook.Source.Grammar
