import Phrasebook.Source.Reader

/-!
# Types

Types bind no names that matter, but the expressions in their computed keys, parameters and import
options are parts of the script. A type is a group of them.

- `propertyKey`: the key of a property, in objects, classes and patterns;
- `type`: a type;
- `typeParameters`, `typeArguments`: the lists in angle brackets;
- `resultType`: a type or type predicate behind a parameter list;
- `indexSignature?`, `modifier?`: what classes and object types share.
-/

namespace Phrasebook.Source.Grammar

open Reader

variable (rules : Rules)

/-! ## Keys and modifiers -/

/-- The key of a property; a string literal and the parts of a computed key are parts of their
own. -/
def propertyKey : Reader (PropertyKey × List Node) := do
  let lexeme ← current
  match lexeme.token with
  | .word id | .escapedWord id =>
    advance
    return (.name id, [])
  | .text literal =>
    advance
    return (.text literal, [.text lexeme.start lexeme.stop literal])
  | .number | .bigNumber =>
    advance
    return (.other, [])
  | _ =>
    expectMark "["
    let keys ← bracketed (joined "," rules.assignment)
    expectMark "]"
    return (.other, keys)

/-- Whether the token behind a modifier shows that it is one, and not a name. -/
def modifies (behind : Lexeme) : Bool :=
  match behind.token with
  | .word _ | .escapedWord _ | .privateWord _ | .text _ | .number | .bigNumber => true
  | .mark symbol =>
    symbol == "\x7b" || symbol == "*" || symbol == "..." || (symbol == "[" && !behind.onNewLine)
  | .finish | .unreadable => false

/-- Read one of the modifiers `allowed` if it is at hand. -/
def modifier? (allowed : List String) : Reader (Option String) := do
  match ← token with
  | .word id =>
    if allowed.contains id && modifies (← ahead) then
      advance
      return some id
    return none
  | _ => return none

/-- Read a word that tells who may see a property, in front of a name or a pattern. -/
def visibility : Reader Unit := do
  let behind := (← ahead).token
  if behind.isWord || behind == .mark "\x7b" || behind == .mark "[" then
    let _ ← modifier? ["public", "protected", "private", "readonly"]

/-! ## Lists in angle brackets -/

/-- The words in front of a type parameter. -/
def typeParameterModifiers : List String :=
  ["public", "private", "protected", "readonly", "abstract", "const", "override", "in", "out"]

/-- A type parameter, and whether it is a lone name. -/
def typeParameter : Reader (Node × Bool) := do
  let _ ← repeated (modifier? typeParameterModifiers)
  let _ ← anyWord
  let bounded ← eatWord "extends"
  let bound ← if bounded then pure [← rules.type true] else pure []
  let default ← if ← eatMark "=" then pure [← rules.type true] else pure []
  return (.group (bound ++ default), !(bounded || (← atMark ",")))

/-- Type parameters. The flag says whether they are a lone name, which in markup is the name of an
element. -/
def typeParameters : Reader (List Node × Bool) := do
  expectMark "<"
  let parameters ← separated ">" (typeParameter rules)
  return (parameters.map Prod.fst, parameters.map Prod.snd == [true])

/-- Type arguments. -/
def typeArguments : Reader Node := do
  expectMark "<"
  return .group (← separated ">" (rules.type true))

/-- Type parameters, if there are any. -/
def optionalTypeParameters : Reader (List Node) := do
  if ← atMark "<" then return (← typeParameters rules).1
  return []

/-- Type arguments, if they follow on the same line. -/
def optionalTypeArguments : Reader (List Node) := do
  let lexeme ← current
  if lexeme.token == .mark "<" && !lexeme.onNewLine then return [← typeArguments rules]
  return []

/-! ## Parts of types -/

/-- A type behind a colon, if there is one. -/
def optionalType : Reader (List Node) := do
  if ← eatMark ":" then return [← rules.type true]
  return []

/-- A pattern with the type behind it, if there is one. -/
def annotated (target : Node) : Reader Node := do
  match ← optionalType rules with
  | [type] => return .typed target type
  | _ => return target

/-- A type, or what a function asserts about a parameter. -/
def resultType : Reader Node := do
  let behind ← ahead
  let asserts := (← atWord "asserts") && behind.token.isName && !behind.onNewLine
  if asserts then advance
  let behind ← ahead
  let decides := (← token).isName && behind.token == .word "is" && !behind.onNewLine
  if asserts || decides then
    advance
    if decides then
      advance
      return ← rules.type true
    return .group []
  rules.type true

/-- A result type behind a colon, if there is one. -/
def optionalResultType : Reader (List Node) := do
  if ← eatMark ":" then return [← resultType rules]
  return []

/-- A name that refers to something; `yields` says whether it can be `yield`. Only what is defined
elsewhere can be called `await`. -/
def reference (yields : Bool) : Reader Unit := do
  match ← token with
  | .word id =>
    require (id == "this" || !isReserved id)
    require (id != "yield" || yields)
    require (id != "await" || (← context).ambient)
    advance
  | .escapedWord _ => advance
  | _ => refuse

/-- A name with further names behind dots; `keywords` says whether those can be keywords. A dot may
also end it. -/
def qualifiedName (keywords : Bool) : Reader Unit := do
  let _ ← anyWord
  let _ ← repeated do
    unless ← eatMark "." do return none
    match ← token with
    | .word _ | .escapedWord _ =>
      if keywords then advance else reference false
      return some ()
    | .privateWord _ => refuse
    | _ => return none

/-- Parameters of a signature, which have no default values. -/
def signatureParameters : Reader (List Node) := do
  let parameters ← rules.parameters
  require (parameters.all fun parameter => !parameter.isFallback)
  return parameters

/-- Whether a parameter of a function type starts here; it is read as far as it shows. -/
def startsParameter : Reader Bool := do
  visibility
  match ← token with
  | .word id =>
    if id == "void" || id == "this" || !isReserved id then
      advance
      return true
    return false
  | .escapedWord _ =>
    advance
    return true
  | .mark "[" | .mark "\x7b" => return (← tolerate rules.pattern).isSome
  | _ => return false

/-- Whether a parenthesis opens the parameters of a function type. -/
def atFunctionType : Reader Bool :=
  lookahead do
    expectMark "("
    if (← atMark ")") || (← atMark "...") then return true
    require (← startsParameter rules)
    match ← token with
    | .mark ")" =>
      advance
      atMark "=>"
    | .mark symbol => return [":", ",", "?", "="].contains symbol
    | _ => return false

/-- A parameter list and what a function of that type returns behind an arrow. -/
def functionType : Reader Node := do
  let types ← optionalTypeParameters rules
  let parameters ← signatureParameters rules
  expectMark "=>"
  return .group (parameters ++ types ++ [← resultType rules])

/-! ## Object types -/

/-- The end of a member of an object type. -/
def memberEnd : Reader Unit := do
  unless ← eatMark "," do semicolon

/-- Whether an index signature is at hand. -/
def atIndexSignature : Reader Bool :=
  lookahead do
    expectMark "["
    let _ ← anyWord
    return (← atMark ":") || (← atMark ",")

/-- An index signature, `[key: type]: type`, if there is one. -/
def indexSignature? : Reader (Option Node) := do
  unless ← atIndexSignature do return none
  expectMark "["
  let _ ← anyWord
  unless ← eatMark "," do expectMark ":"
  let key ← rules.type true
  expectMark "]"
  let value ← optionalType rules
  memberEnd
  return some (.group (key :: value))

/-- The key of a member of an object type. -/
def signatureKey : Reader (List Node) := do
  match ← token with
  | .text _ | .number | .bigNumber => return [← rules.member]
  | .word _ | .escapedWord _ | .privateWord _ =>
    advance
    return []
  | _ =>
    expectMark "["
    let key ← bracketed rules.assignment
    expectMark "]"
    return [key]

/-- A parameter list with an optional result type. -/
def callSignature : Reader (List Node) := do
  let types ← optionalTypeParameters rules
  let parameters ← signatureParameters rules
  let result ← optionalResultType rules
  memberEnd
  return parameters ++ result ++ types

/-- The signature of a function that gets or sets a property. -/
def accessorSignature : Reader Node := do
  if ← eatWord "get" then
    let key ← signatureKey rules
    expectMark "("
    expectMark ")"
    let result ← optionalType rules
    memberEnd
    return .group (key ++ result)
  expectWord "set"
  let key ← signatureKey rules
  let parameters ← signatureParameters rules
  require (!parameters.isEmpty)
  memberEnd
  return .group (key ++ parameters.take 1)

/-- A property or method of an object type. -/
def propertySignature (constant : Bool) : Reader Node := do
  let key ← signatureKey rules
  let _ ← eatMark "?"
  if (← atMark "(") || (← atMark "<") then
    require (!constant)
    return .group (key ++ (← callSignature rules))
  let type ← optionalType rules
  memberEnd
  return .group (key ++ type)

/-- A member of an object type. -/
def typeMember : Reader Node := do
  let behind := (← ahead).token
  if (← atMark "(") || (← atMark "<") then return .group (← callSignature rules)
  if (← atWord "new") && (behind == .mark "(" || behind == .mark "<") then
    advance
    return .group (← callSignature rules)
  let constant := (← modifier? ["readonly"]).isSome
  match ← indexSignature? rules with
  | some signature => return signature
  | none =>
    match ← attempt (do
      require (!constant)
      accessorSignature rules) with
    | some signature => return signature
    | none => propertySignature rules constant

/-- An object type. -/
def objectType : Reader Node := do
  expectMark "\x7b"
  let members ← repeatedUntil (atMark "\x7d") (typeMember rules)
  expectMark "\x7d"
  return .group members

/-- Whether a mapped type is at hand. -/
def atMappedType : Reader Bool :=
  lookahead do
    expectMark "\x7b"
    if ← eatMarks ["+", "-"] then atWord "readonly"
    else
      let _ ← eatWord "readonly"
      expectMark "["
      require (← token).isName
      advance
      atWord "in"

/-- A mapped type, `{ [key in type]: type }`. -/
def mappedType : Reader Node := do
  expectMark "\x7b"
  if ← eatMarks ["+", "-"] then expectWord "readonly"
  else
    let _ ← eatWord "readonly"
  expectMark "["
  let _ ← anyWord
  expectWord "in"
  let keys ← rules.type true
  let names ← if ← eatWord "as" then pure [← rules.type true] else pure []
  expectMark "]"
  if ← eatMarks ["+", "-"] then expectMark "?"
  else
    let _ ← eatMark "?"
  let values ← optionalType rules
  semicolon
  expectMark "\x7d"
  return .group (keys :: names ++ values)

/-! ## Other types -/

/-- The label of a tuple element. -/
def tupleLabel : Reader Unit := do
  let _ ← eatMark "..."
  let _ ← anyWord
  let _ ← eatMark "?"
  expectMark ":"

/-- What a tuple asks about one of its elements. -/
inductive TupleElement where
  | required
  | optional
  | remaining
deriving Repr, DecidableEq, Inhabited

/-- An element of a tuple type. -/
def tupleElement : Reader (Node × TupleElement) := do
  let _ ← attempt tupleLabel
  if ← eatMark "..." then return (← rules.type true, .remaining)
  let inner ← rules.type true
  return (inner, if ← eatMark "?" then .optional else .required)

/-- A tuple type. Behind an optional element none is required. -/
def tupleType : Reader Node := do
  expectMark "["
  let elements ← separated "]" (tupleElement rules)
  let behindOptional := (elements.map Prod.snd).dropWhile fun kind => kind != .optional
  require (!behindOptional.contains .required)
  return .group (elements.map Prod.fst)

/-- A template of types. -/
def templateType : Reader Node := do
  let parts ← repeated do
    let some (part, cursor) := (← current).next.templatePart? | refuse
    resume cursor
    if part.ended then return none
    let inner ← rules.type true
    require (← atMark "\x7d")
    return some inner
  return .group parts

/-- The options of an `import` type. -/
def importOptions : Reader Node := do
  expectMark "\x7b"
  expectWord "with"
  expectMark ":"
  require (← atMark "\x7b")
  let options ← rules.member
  let _ ← eatMark ","
  expectMark "\x7d"
  return options

/-- An `import` type. -/
def importType : Reader Node := do
  expectWord "import"
  expectMark "("
  advance
  let options ←
    if (← eatMark ",") && (← atMark "\x7b") then pure [← importOptions rules] else pure []
  expectMark ")"
  if ← eatMark "." then qualifiedName false
  let types ← if ← atMark "<" then pure [← typeArguments rules] else pure []
  return .group (types ++ options)

/-- The type of a value. -/
def queryType : Reader Node := do
  expectWord "typeof"
  let inner ← if ← atWord "import" then pure [← importType rules] else do
    qualifiedName true
    pure []
  return .group (inner ++ (← optionalTypeArguments rules))

/-- A type that a name refers to. -/
def namedType : Reader Node := do
  visibility
  qualifiedName true
  return .group (← optionalTypeArguments rules)

/-- What the word `is` says about `this`. -/
def thisType : Reader Node := do
  expectWord "this"
  let lexeme ← current
  if lexeme.token == .word "is" && !lexeme.onNewLine then
    advance
    rules.type true
  else return .group []

/-- The words that are types of their own, unless a dot follows. -/
def typeWords : List String :=
  ["any", "boolean", "bigint", "never", "number", "object", "string", "symbol", "unknown",
    "undefined", "intrinsic", "void", "null"]

/-- A type that starts with the word `id`. -/
def wordType (id : String) : Reader Node := do
  let behind := (← ahead).token
  if id == "typeof" then queryType rules
  else if id == "import" then importType rules
  else if id == "this" then thisType rules
  else if id == "asserts" && behind == .word "this" then
    advance
    thisType rules
  else if id == "true" || id == "false" || (typeWords.contains id && behind != .mark ".") then
    advance
    return .group []
  else
    require (!isReserved id || ["void", "null", "break"].contains id)
    namedType rules

/-- A type without operators. -/
def primaryType : Reader Node := do
  match ← token with
  | .word id => wordType rules id
  | .escapedWord _ => namedType rules
  | .text _ | .number | .bigNumber =>
    advance
    return .group []
  | .mark "-" =>
    advance
    match ← token with
    | .number | .bigNumber =>
      advance
      return .group []
    | _ => refuse
  | .mark "`" => templateType rules
  | .mark "(" =>
    advance
    let inner ← rules.type true
    expectMark ")"
    return inner
  | .mark "[" => tupleType rules
  | .mark "\x7b" => if ← atMappedType then mappedType rules else objectType rules
  | _ => refuse

/-- A type with array and index brackets. -/
def postfixType : Reader Node := do
  let inner ← primaryType rules
  let indices ← repeated do
    let lexeme ← current
    if lexeme.token == .mark "[" && !lexeme.onNewLine then
      advance
      if ← eatMark "]" then return some (.group [])
      let index ← rules.type true
      expectMark "]"
      return some index
    return none
  return .group (inner :: indices)

/-- The bound of an inferred type, unless it is the condition of a conditional type. -/
def inferredBound (conditional : Bool) : Reader Node := do
  expectWord "extends"
  let bound ← rules.type false
  require (!conditional || !(← atMark "?"))
  return bound

/-- A type behind operators that are words. -/
def operatorType (conditional : Bool) : Reader Node := do
  let _ ← repeated do
    if (← atWord "keyof") || (← atWord "unique") || (← atWord "readonly") then
      advance
      return some ()
    return none
  if ← eatWord "infer" then
    let _ ← anyWord
    return .group (← attempt (inferredBound rules conditional)).toList
  postfixType rules

/-- An intersection of types. -/
def intersectionType (conditional : Bool) : Reader Node := do
  let _ ← eatMark "&"
  return .group (← joined "&" (operatorType rules conditional))

/-- A union of types. -/
def unionType (conditional : Bool) : Reader Node := do
  let _ ← eatMark "|"
  return .group (← joined "|" (intersectionType rules conditional))

/-- A type that is not conditional itself. -/
def plainType (conditional : Bool) : Reader Node := do
  if (← atMark "<") || (← atFunctionType rules) then functionType rules
  else if (← atWord "new") || ((← atWord "abstract") && (← ahead).token == .word "new") then
    let _ ← eatWord "abstract"
    expectWord "new"
    functionType rules
  else unionType rules conditional

/-- A type; `conditional` says whether it can be conditional. -/
def type (conditional : Bool) : Reader Node := do
  let inner ← plainType rules conditional
  let lexeme ← current
  if conditional && lexeme.token == .word "extends" && !lexeme.onNewLine then
    advance
    let bound ← rules.type false
    expectMark "?"
    let positive ← rules.type true
    expectMark ":"
    return .group [inner, bound, positive, ← rules.type true]
  return inner

end Phrasebook.Source.Grammar
