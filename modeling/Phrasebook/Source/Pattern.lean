import Phrasebook.Source.Node

/-!
# Expressions as patterns

What stands in front of an assignment operator or an arrow is read as an expression first and
understood as a pattern once the mark behind it is seen.

- `Node.isArrow`, `Node.isChain`, `Node.isAssignable`: what an expression is good for;
- `PatternRole`, `Node.asPattern?`: an expression understood as a pattern;
- `Node.asTarget?`: an expression understood as what `=` assigns to.
-/

namespace Phrasebook.Source

namespace Node

/-- The node of an expression that is missing or is not understood. -/
def missing : Node := .expression .missing []

/-- Whether an expression is an arrow function. -/
def isArrow : Node → Bool
  | .function .arrow _ _ _ => true
  | _ => false

/-- Whether an expression is an optional chain, possibly with assertions that it is not null. -/
def isChain : Node → Bool
  | .expression .chain _ => true
  | .nonNull inner => isChain inner
  | _ => false

/-- Whether an expression is an operand on which no power is taken. -/
def isSigned : Node → Bool
  | .expression .signed _ | .expression .awaited _ => true
  | _ => false

/-- Whether an expression ends where an assignment operator follows, and nothing is assigned. -/
def endsAssignment : Node → Bool
  | .expression .signed _ | .expression .joined _ => true
  | _ => false

/-- Whether an assignment operator can assign to an expression. -/
def isAssignable : Node → Bool
  | .name _ _ | .member _ _ | .element _ _ | .paren _ | .nonNull _ => true
  | .expression .access _ | .expression .chain _ => true
  | .expression .asserted _ | .expression .instantiated _ => true
  | _ => false

/-- Whether a pattern has a default value. -/
def isFallback : Node → Bool
  | .fallback _ _ => true
  | _ => false

/-- An arrow function with type parameters in front of it. -/
def withTypeParameters (types : List Node) : Node → Node
  | .function form parameters body signature => .function form parameters body (types ++ signature)
  | node => node

end Node

/-- What a pattern does with the values it takes apart. -/
inductive PatternRole where
  /-- It binds them to names. -/
  | binding
  /-- It assigns them to targets. -/
  | assigning
deriving Repr, DecidableEq, Inhabited

namespace Node

/-- Whether an element of an assigning pattern is kept as it is. -/
def isTarget : Node → Bool
  | .member _ _ | .element _ _ | .call _ _ _ | .construct _ _ _ _ | .text _ _ _ | .paren _ => true
  | .function .ordinary _ _ _ | .classBody _ _ | .named _ _ => true
  | .expression .access _ | .expression .operand _ | .expression .asserted _ => true
  | _ => false

mutual

/-- An expression understood as a pattern. Methods of an object are refused; what is no pattern
otherwise binds nothing and is dropped, except that any target keeps its place. -/
def asPattern? (role : PatternRole) : Node → Option Node
  | .name _ id => some (.binding id)
  | .array elements => return .pattern (← asElements? role elements)
  | .object properties => return .pattern (← asProperties? role properties)
  | .expression .assignment [.pattern elements, value] => some (.fallback (.pattern elements) value)
  | .expression .assignment [target, value] => return .fallback (← asPattern? role target) value
  | node => some (if role == .assigning && node.isTarget then node else missing)

/-- The elements of an array understood as patterns. A rest in front of other elements is
dropped. -/
def asElements? (role : PatternRole) : List Node → Option (List Node)
  | [] => some []
  | [.spread inner] => return [.spread (← asPattern? role inner)]
  | .spread _ :: rest => asElements? role rest
  | first :: rest => return (← asPattern? role first) :: (← asElements? role rest)

/-- The properties of an object understood as patterns. What remains is bound to a plain name. -/
def asProperties? (role : PatternRole) : List Node → Option (List Node)
  | [] => some []
  | .property (.name id) [] :: rest => return .binding id :: (← asProperties? role rest)
  | .property _ parts :: rest => return (← asKeyed? role parts) :: (← asProperties? role rest)
  | .fallback target value :: rest =>
    return .fallback target value :: (← asProperties? role rest)
  | .spread (.name _ id) :: rest => return .spread (.binding id) :: (← asProperties? role rest)
  | .spread inner :: rest =>
    match role with
    | .binding => return missing :: (← asProperties? role rest)
    | .assigning => return .spread (← asPattern? role inner) :: (← asProperties? role rest)
  | _ :: _ => none

/-- The value of a property understood as a pattern, behind the keys of the property. -/
def asKeyed? (role : PatternRole) : List Node → Option Node
  | [] => none
  | [value] => asPattern? role value
  | key :: rest => return .keyed key (← asKeyed? role rest)

end

/-- Whether an expression is an object or an array. -/
def isCollection : Node → Bool
  | .array _ | .object _ => true
  | _ => false

/-- An expression understood as what `=` assigns to. -/
def asTarget? (node : Node) : Option Node :=
  if node.isCollection then node.asPattern? .assigning
  else if node.isAssignable then some node
  else none

/-- An expression understood as what a loop assigns to. -/
def asLoopTarget? (node : Node) : Option Node :=
  if node.isCollection then node.asPattern? .assigning else some node

end Node

end Phrasebook.Source
