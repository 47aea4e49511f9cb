import Phrasebook.Source.Literal

/-!
# Syntax trees

A script as name analysis sees it. A `Node` keeps the constructs that bind names, refer to them,
call something or spell a string; every other construct is a `group` of its parts, or an
`expression` that tells only what may be done with it. Parts stand in the order in which passes
visit them: source order, but a class body before the class it extends, the condition of a `do`
loop before its body, and arguments of types behind those of values. Offsets count bytes of UTF-8.

- `Shape`: what may be done with an expression;
- `Node`: expressions, patterns, types, statements and declarations;
- `Node.children`, `Node.preorder`: the parts of a node, and all nodes below it;
- `Item`: a top-level item of a module;
- `Node.boundNames`, `Node.plainName?`: the names that a pattern binds.
-/

namespace Phrasebook.Source

/-- The key of a property in an object literal. -/
inductive PropertyKey where
  /-- A plain name, `key: …` or the shorthand `key`. -/
  | name (id : String)
  /-- A string literal. -/
  | text (literal : Literal)
  /-- A number or a computed key. -/
  | other
deriving Repr, DecidableEq, Inhabited

/-- What may be done with an expression that has no form of its own. -/
inductive Shape where
  /-- Nothing but to use its value. -/
  | plain
  /-- An operand behind a sign or a word such as `typeof`; no power is taken of it. -/
  | signed
  /-- An operand behind `await`; no power is taken of it. -/
  | awaited
  /-- Operands joined by operators, and a counter going up or down: nothing is assigned to them. -/
  | joined
  /-- An access to the parent of an object. -/
  | access
  /-- A chain of accesses and calls, the first of them optional; `new` calls no such chain. -/
  | chain
  /-- A template or a call: in a pattern that assigns it keeps its place, like any target. -/
  | operand
  /-- An operand whose type is asserted behind it; in a pattern that assigns it keeps its place. -/
  | asserted
  /-- An operand that is given types, or whose type is checked; patterns drop it. -/
  | instantiated
  /-- An assignment by `=`: the target and the value. -/
  | assignment
  /-- Nothing, where an expression is missing. -/
  | missing
deriving Repr, DecidableEq, Inhabited

/-- The two kinds of functions. -/
inductive FunctionForm where
  /-- A function with a body of its own. -/
  | ordinary
  /-- A function written with an arrow. -/
  | arrow
deriving Repr, DecidableEq, Inhabited

/-- A construct of a script. -/
inductive Node where
  /-- Any construct without a form of its own, and any type: its parts. -/
  | group (parts : List Node)
  /-- Any expression without a form of its own. -/
  | expression (shape : Shape) (parts : List Node)
  /-- A reference to a name. -/
  | name (start : Nat) (id : String)
  /-- A string literal between two offsets, quotes included. -/
  | text (start stop : Nat) (literal : Literal)
  /-- A parenthesised expression. -/
  | paren (inner : Node)
  /-- A non-null assertion, `inner!`. -/
  | nonNull (inner : Node)
  /-- A property access `object.property`; private properties have no name. -/
  | member (object : Node) (property : Option String)
  /-- An element access `object[key]`. -/
  | element (object key : Node)
  /-- An ordinary call; calls in an optional chain are parts of the chain. -/
  | call (start : Nat) (callee : Node) (arguments : List Node)
  /-- A `new` expression, with the text of the comments in front of it. -/
  | construct (start : Nat) (comment : String) (callee : Node) (arguments : List Node)
  /-- An argument or element `...inner`. -/
  | spread (inner : Node)
  /-- An array literal; a hole is an empty group. -/
  | array (elements : List Node)
  /-- An object literal. -/
  | object (properties : List Node)
  /-- A property `key: value` or a shorthand; a computed key comes first among the parts. -/
  | property (key : PropertyKey) (parts : List Node)
  /-- A getter or setter of an object literal: a computed key, the parameters, the type of the
  result and the body. -/
  | accessor (key parameters signature body : List Node)
  /-- A name bound by a pattern. -/
  | binding (id : String)
  /-- A pattern with its type. -/
  | typed (target type : Node)
  /-- An object or array pattern; a hole is an empty group. -/
  | pattern (elements : List Node)
  /-- A pattern with a default value. -/
  | fallback (target value : Node)
  /-- A pattern under a computed key. -/
  | keyed (key target : Node)
  /-- One declarator of a variable declaration. -/
  | declarator (target : Node) (value : List Node)
  /-- A variable declaration: `hoisted` for `var`, otherwise `let` or `const`. -/
  | variables (comment : String) (hoisted : Bool) (declarators : List Node)
  /-- A declaration of resources, with `using`. -/
  | resources (declarators : List Node)
  /-- Parameters, body and type parameters and result of a function or method; the body is a block,
  or an expression. -/
  | function (form : FunctionForm) (parameters body signature : List Node)
  /-- A function or class of an expression, under a name of its own. -/
  | named (id : String) (inner : Node)
  /-- A function declaration. -/
  | functionDeclaration (comment : String) (id : Option String) (function : Node)
  /-- The members of a class, then the class it extends and its types. -/
  | classBody (members heritage : List Node)
  /-- A class declaration. -/
  | classDeclaration (comment : String) (id : Option String) (body : Node)
  /-- A method or property of a class with the comments in front of its first token and of its
  key; `id` is absent when the key is no plain name and no text. -/
  | classMember (comments : List String) (id : Option String) (parts : List Node)
  /-- The block that a class runs when it is made. -/
  | staticBlock (body : Node)
  /-- A block of statements. -/
  | block (statements : List Node)
  /-- A `switch` statement: what is compared, and the clauses. -/
  | switch (value : Node) (clauses : List Node)
  /-- A clause of a `switch` statement: the test, if there is one, and the statements. -/
  | clause (test statements : List Node)
  /-- A `catch` clause: parameter and body. -/
  | handler (parameter body : List Node)
  /-- A `for` loop: the declaration in its head, then its other parts. -/
  | loop (head parts : List Node)
deriving Repr, Inhabited

namespace Node

/-- The direct parts of a node, in visiting order. -/
def children : Node → List Node
  | .group parts => parts
  | .expression _ parts => parts
  | .name _ _ => []
  | .text _ _ _ => []
  | .paren inner => [inner]
  | .nonNull inner => [inner]
  | .member owner _ => [owner]
  | .element owner key => [owner, key]
  | .call _ callee arguments => callee :: arguments
  | .construct _ _ callee arguments => callee :: arguments
  | .spread inner => [inner]
  | .array elements => elements
  | .object properties => properties
  | .property _ parts => parts
  | .accessor key parameters signature body => key ++ parameters ++ signature ++ body
  | .binding _ => []
  | .typed target type => [target, type]
  | .pattern elements => elements
  | .fallback target value => [target, value]
  | .keyed key target => [key, target]
  | .declarator target value => target :: value
  | .variables _ _ declarators => declarators
  | .resources declarators => declarators
  | .function _ parameters body signature => parameters ++ body ++ signature
  | .named _ inner => [inner]
  | .functionDeclaration _ _ declared => [declared]
  | .classBody members heritage => members ++ heritage
  | .classDeclaration _ _ body => [body]
  | .classMember _ _ parts => parts
  | .staticBlock body => [body]
  | .block statements => statements
  | .switch value clauses => value :: clauses
  | .clause test statements => test ++ statements
  | .handler parameter body => parameter ++ body
  | .loop head parts => head ++ parts

mutual

/-- A node and all nodes below it, each before its parts. -/
def preorder : Node → List Node
  | .group parts => .group parts :: preorderAll parts
  | .expression shape parts => .expression shape parts :: preorderAll parts
  | .name start id => [.name start id]
  | .text start stop literal => [.text start stop literal]
  | .paren inner => .paren inner :: preorder inner
  | .nonNull inner => .nonNull inner :: preorder inner
  | .member owner field => .member owner field :: preorder owner
  | .element owner key => .element owner key :: (preorder owner ++ preorder key)
  | .call start callee arguments =>
    .call start callee arguments :: (preorder callee ++ preorderAll arguments)
  | .construct start comment callee arguments =>
    .construct start comment callee arguments :: (preorder callee ++ preorderAll arguments)
  | .spread inner => .spread inner :: preorder inner
  | .array elements => .array elements :: preorderAll elements
  | .object properties => .object properties :: preorderAll properties
  | .property key parts => .property key parts :: preorderAll parts
  | .accessor key parameters signature body =>
    .accessor key parameters signature body ::
      (preorderAll key ++ preorderAll parameters ++ preorderAll signature ++ preorderAll body)
  | .binding id => [.binding id]
  | .typed target type => .typed target type :: (preorder target ++ preorder type)
  | .pattern elements => .pattern elements :: preorderAll elements
  | .fallback target value => .fallback target value :: (preorder target ++ preorder value)
  | .keyed key target => .keyed key target :: (preorder key ++ preorder target)
  | .declarator target value => .declarator target value :: (preorder target ++ preorderAll value)
  | .variables comment hoisted declarators =>
    .variables comment hoisted declarators :: preorderAll declarators
  | .resources declarators => .resources declarators :: preorderAll declarators
  | .function form parameters body signature =>
    .function form parameters body signature ::
      (preorderAll parameters ++ preorderAll body ++ preorderAll signature)
  | .named id inner => .named id inner :: preorder inner
  | .functionDeclaration comment id declared =>
    .functionDeclaration comment id declared :: preorder declared
  | .classBody members heritage =>
    .classBody members heritage :: (preorderAll members ++ preorderAll heritage)
  | .classDeclaration comment id body =>
    .classDeclaration comment id body :: preorder body
  | .classMember comments id parts => .classMember comments id parts :: preorderAll parts
  | .staticBlock body => .staticBlock body :: preorder body
  | .block statements => .block statements :: preorderAll statements
  | .switch value clauses => .switch value clauses :: (preorder value ++ preorderAll clauses)
  | .clause test statements =>
    .clause test statements :: (preorderAll test ++ preorderAll statements)
  | .handler parameter body =>
    .handler parameter body :: (preorderAll parameter ++ preorderAll body)
  | .loop head parts => .loop head parts :: (preorderAll head ++ preorderAll parts)

/-- The nodes of a list and all nodes below them. -/
def preorderAll : List Node → List Node
  | [] => []
  | node :: rest => preorder node ++ preorderAll rest

end

mutual

/-- The names that a pattern binds. -/
def boundNames : Node → List String
  | .binding id => [id]
  | .typed target _ => boundNames target
  | .pattern elements => boundNamesAll elements
  | .spread inner => boundNames inner
  | .fallback target _ => boundNames target
  | .keyed _ target => boundNames target
  | .declarator target _ => boundNames target
  | _ => []

/-- The names that a list of patterns binds. -/
def boundNamesAll : List Node → List String
  | [] => []
  | node :: rest => boundNames node ++ boundNamesAll rest

end

/-- A function or class of an expression, possibly under a name of its own. -/
def called (inner : Node) : Option String → Node
  | some id => .named id inner
  | none => inner

/-- The name that a pattern without elements binds. -/
def plainName? : Node → Option String
  | .binding id => some id
  | .typed (.binding id) _ => some id
  | _ => none

end Node

/-- What a name of an import list stands for. -/
inductive ImportBinding where
  /-- The export `imported` of the module. -/
  | named (id imported : String)
  /-- The module as an object. -/
  | everything (id : String)
deriving Repr, DecidableEq, Inhabited

/-- An entry of an export list. -/
inductive ExportBinding where
  /-- The name `id` under the name `exported`. -/
  | named (id exported : String)
  /-- A whole module as an object under the name `exported`. -/
  | everything (exported : String)
deriving Repr, DecidableEq, Inhabited

/-- A top-level item of a module. -/
inductive Item where
  /-- A statement or declaration that exports nothing. -/
  | statement (node : Node)
  /-- An import declaration. -/
  | importing (specifier : Literal) (bindings : List ImportBinding) (attributes : List Node)
  /-- An exported declaration with the comments in front of `export`. -/
  | exporting (comment : String) (declaration : Node)
  /-- An export list, possibly of another module. -/
  | exportList (bindings : List ExportBinding) (specifier : Option Literal) (attributes : List Node)
  /-- `export * from "specifier"`. -/
  | exportAll (specifier : Literal) (attributes : List Node)
  /-- `export default` of a function or class, with the comments in front of `export`. -/
  | exportDefault (comment : String) (declaration : Node)
  /-- `export default` of an expression. -/
  | exportValue (value : Node)
deriving Repr, Inhabited

namespace Item

/-- The nodes of an item. -/
def nodes : Item → List Node
  | statement node => [node]
  | exporting _ declaration => [declaration]
  | exportDefault _ declaration => [declaration]
  | exportValue value => [value]
  | importing _ _ attributes => attributes
  | exportList _ _ attributes => attributes
  | exportAll _ attributes => attributes

end Item

end Phrasebook.Source
