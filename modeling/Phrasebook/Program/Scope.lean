import Phrasebook.Source.Node

/-!
# Local scopes

A callee that a parameter or a declaration inside a function or block binds refers to that local
binding, not to the top-level name it is spelled like.

- `hoistedNames`: the `var` names of a function body;
- `lexicalNames`: the names that a block declares;
- `shadowedCallees`: the offsets of all locally bound callees.
-/

namespace Phrasebook.Program

open Source

mutual

/-- The names of `var` declarations in a node, those of inner functions and classes apart. -/
def hoistedNames : Node → List String
  | .variables _ hoisted declarators =>
    (if hoisted then Node.boundNamesAll declarators else []) ++ hoistedNamesAll declarators
  | .function _ _ _ _ => []
  | .classBody _ _ => []
  | .group parts => hoistedNamesAll parts
  | .expression _ parts => hoistedNamesAll parts
  | .name _ _ => []
  | .text _ _ _ => []
  | .paren inner => hoistedNames inner
  | .nonNull inner => hoistedNames inner
  | .member owner _ => hoistedNames owner
  | .element owner key => hoistedNames owner ++ hoistedNames key
  | .call _ callee arguments => hoistedNames callee ++ hoistedNamesAll arguments
  | .construct _ _ callee arguments => hoistedNames callee ++ hoistedNamesAll arguments
  | .spread inner => hoistedNames inner
  | .array elements => hoistedNamesAll elements
  | .object properties => hoistedNamesAll properties
  | .property _ parts => hoistedNamesAll parts
  | .accessor key parameters signature body =>
    hoistedNamesAll key ++ hoistedNamesAll parameters ++ hoistedNamesAll signature ++
      hoistedNamesAll body
  | .binding _ => []
  | .typed target type => hoistedNames target ++ hoistedNames type
  | .pattern elements => hoistedNamesAll elements
  | .fallback target value => hoistedNames target ++ hoistedNames value
  | .keyed key target => hoistedNames key ++ hoistedNames target
  | .declarator target value => hoistedNames target ++ hoistedNamesAll value
  | .resources declarators => hoistedNamesAll declarators
  | .named _ inner => hoistedNames inner
  | .functionDeclaration _ _ declared => hoistedNames declared
  | .classDeclaration _ _ body => hoistedNames body
  | .classMember _ _ parts => hoistedNamesAll parts
  | .staticBlock body => hoistedNames body
  | .block statements => hoistedNamesAll statements
  | .switch value clauses => hoistedNames value ++ hoistedNamesAll clauses
  | .clause test statements => hoistedNamesAll test ++ hoistedNamesAll statements
  | .handler parameter body => hoistedNamesAll parameter ++ hoistedNamesAll body
  | .loop head parts => hoistedNamesAll head ++ hoistedNamesAll parts

/-- The names of `var` declarations in a list of nodes. -/
def hoistedNamesAll : List Node → List String
  | [] => []
  | node :: rest => hoistedNames node ++ hoistedNamesAll rest

end

/-- The names that a statement declares for the block it stands in. -/
def statementNames : Node → List String
  | .variables _ false declarators => Node.boundNamesAll declarators
  | .functionDeclaration _ (some name) _ => [name]
  | .classDeclaration _ (some name) _ => [name]
  | _ => []

/-- The names that the statements of a block declare. -/
def lexicalNames (statements : List Node) : List String := statements.flatMap statementNames

/-- The names that the body of a function hoists; an expression body hoists none. -/
def bodyNames : List Node → List String
  | [.block statements] => hoistedNamesAll statements
  | _ => []

/-- The names that the head of a loop declares. -/
def headNames : List Node → List String
  | [.variables _ _ declarators] => Node.boundNamesAll declarators
  | _ => []

/-- The offset of the name that decides what `callee` calls, if `scope` binds it. -/
def localCallee? (scope : List String) : Node → Option Nat
  | .paren inner => localCallee? scope inner
  | .nonNull inner => localCallee? scope inner
  | .name start id => if scope.contains id then some start else none
  | .member (.name start id) _ => if scope.contains id then some start else none
  | .element (.name start id) _ => if scope.contains id then some start else none
  | _ => none

mutual

/-- The offsets of callees in a node that are bound in it or in `scope`. -/
def shadowedIn (scope : List String) : Node → List Nat
  | .call _ callee arguments =>
    (localCallee? scope callee).toList ++ shadowedIn scope callee ++
      shadowedInAll scope arguments
  | .function _ parameters body signature =>
    let inner := Node.boundNamesAll parameters ++ bodyNames body ++ scope
    shadowedInAll inner parameters ++ shadowedInAll inner body ++ shadowedInAll inner signature
  | .block statements => shadowedInAll (lexicalNames statements ++ scope) statements
  | .handler parameter body =>
    let inner := Node.boundNamesAll parameter ++ scope
    shadowedInAll inner parameter ++ shadowedInAll inner body
  | .loop head parts =>
    let inner := headNames head ++ scope
    shadowedInAll inner head ++ shadowedInAll inner parts
  | .group parts => shadowedInAll scope parts
  | .expression _ parts => shadowedInAll scope parts
  | .name _ _ => []
  | .text _ _ _ => []
  | .paren inner => shadowedIn scope inner
  | .nonNull inner => shadowedIn scope inner
  | .member owner _ => shadowedIn scope owner
  | .element owner key => shadowedIn scope owner ++ shadowedIn scope key
  | .construct _ _ callee arguments => shadowedIn scope callee ++ shadowedInAll scope arguments
  | .spread inner => shadowedIn scope inner
  | .array elements => shadowedInAll scope elements
  | .object properties => shadowedInAll scope properties
  | .property _ parts => shadowedInAll scope parts
  | .accessor key parameters signature body =>
    shadowedInAll scope key ++ shadowedInAll scope parameters ++ shadowedInAll scope signature ++
      shadowedInAll scope body
  | .binding _ => []
  | .typed target type => shadowedIn scope target ++ shadowedIn scope type
  | .pattern elements => shadowedInAll scope elements
  | .fallback target value => shadowedIn scope target ++ shadowedIn scope value
  | .keyed key target => shadowedIn scope key ++ shadowedIn scope target
  | .declarator target value => shadowedIn scope target ++ shadowedInAll scope value
  | .variables _ _ declarators => shadowedInAll scope declarators
  | .resources declarators => shadowedInAll scope declarators
  | .named _ inner => shadowedIn scope inner
  | .functionDeclaration _ _ declared => shadowedIn scope declared
  | .classBody members heritage => shadowedInAll scope members ++ shadowedInAll scope heritage
  | .classDeclaration _ _ body => shadowedIn scope body
  | .classMember _ _ parts => shadowedInAll scope parts
  | .staticBlock body => shadowedIn scope body
  | .switch value clauses => shadowedIn scope value ++ shadowedInAll scope clauses
  | .clause test statements => shadowedInAll scope test ++ shadowedInAll scope statements

/-- The offsets of callees in a list of nodes that are bound in them or in `scope`. -/
def shadowedInAll (scope : List String) : List Node → List Nat
  | [] => []
  | node :: rest => shadowedIn scope node ++ shadowedInAll scope rest

end

/-- The offsets of callees that are bound locally, where `nodes` are the nodes of a module. -/
def shadowedCallees (nodes : List Node) : List Nat := shadowedInAll [] nodes

end Phrasebook.Program
