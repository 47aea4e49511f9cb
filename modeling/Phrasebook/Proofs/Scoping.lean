import Phrasebook.Proofs.LookupCalls

/-!
# Lexical scoping

The rules by which ECMAScript finds out what a name in a module means: what the innermost construct
around it says that binds the name. A name that no construct around it binds belongs to the module,
or is global. Types, enumerations and namespaces are no part of ECMAScript, and bind nothing here.

- `Node.Hoists`: `var` declarations, which belong to the function around them and not to the block;
- `Node.declaredNames`: what a statement binds in its block;
- `Scope`, `Scope.Binds`: constructs, and the names that they bind for their parts;
- `Node.regions`, `Around`: the scopes around each part of a script;
- `Scope.Resolves`, `Scope.BoundLocally`: the scope that a name is bound in.
-/

namespace Phrasebook.Source

/-! ## Declarations -/

namespace Node

/-- Whether `var` declarations below a node stay there. Those below a class belong to its methods,
or to its static blocks. -/
def ownsVariables : Node → Bool
  | .function _ _ _ _ | .accessor _ _ _ _ | .staticBlock _ | .classBody _ _ => true
  | _ => false

/-- A name is declared with `var` in a node, but not below a node where `stops` holds. -/
inductive Hoists (stops : Node → Bool) (id : String) : Node → Prop where
  | here {comment : String} {declarators : List Node} (h : id ∈ boundNamesAll declarators) :
    Hoists stops id (.variables comment true declarators)
  | deeper {node part : Node} (enters : stops node = false) (h : part ∈ node.children)
    (inside : Hoists stops id part) : Hoists stops id node

/-- The names that a statement binds in the block around it. -/
def declaredNames : Node → List String
  | .variables _ false declarators => boundNamesAll declarators
  | .resources declarators => boundNamesAll declarators
  | .functionDeclaration _ (some id) _ => [id]
  | .classDeclaration _ (some id) _ => [id]
  | _ => []

end Node

/-- Something holds of a statement of a body in braces. -/
def InStatements (holds : Node → Prop) (body : List Node) : Prop :=
  ∃ statements, body = [.block statements] ∧ ∃ statement ∈ statements, holds statement

/-! ## Scopes -/

/-- A construct that can bind names, seen from a part inside it. -/
inductive Scope where
  /-- A function, seen from its parameters and types. -/
  | functionHead (parameters body : List Node)
  /-- A function, seen from its body. -/
  | functionBody (parameters body : List Node)
  /-- A getter or setter of an object literal; seen from its parameters it has no body. -/
  | accessor (parameters body : List Node)
  /-- The block that a class runs when it is made. -/
  | staticBlock (body : Node)
  /-- A block of statements. -/
  | block (statements : List Node)
  /-- The clauses of a `switch` statement. -/
  | switchBody (clauses : List Node)
  /-- A `catch` clause. -/
  | handler (parameter : List Node)
  /-- A `for` loop with the declaration in its head. -/
  | loop (head : List Node)
  /-- A function or class of an expression that gives itself a name. -/
  | ownName (id : String)

/-- The parts of a node, in regions, with the scope that the node opens around each of these. -/
def Node.regions : Node → List (Option Scope × List Node)
  | .function _ parameters body signature =>
    -- Default values and types see the parameters, and no variable of the body.
    [(some (.functionHead parameters body), parameters),
      (some (.functionBody parameters body), body),
      (some (.functionHead parameters body), signature)]
  | .accessor key parameters signature body =>
    -- A computed key stands outside.
    [(none, key), (some (.accessor parameters []), parameters),
      (some (.accessor parameters []), signature), (some (.accessor parameters body), body)]
  | .staticBlock body => [(some (.staticBlock body), [body])]
  | .block statements => [(some (.block statements), statements)]
  | .switch value clauses => [(none, [value]), (some (.switchBody clauses), clauses)]
  | .handler parameter body =>
    [(some (.handler parameter), parameter), (some (.handler parameter), body)]
  -- What a loop goes over sees the names in the head already, though they have no value yet.
  | .loop head parts => [(some (.loop head), head), (some (.loop head), parts)]
  | .named id inner => [(some (.ownName id), [inner])]
  | node => [(none, node.children)]

/-- The regions of a node hold all its parts, in visiting order. -/
theorem Node.flatMap_regions (node : Node) : node.regions.flatMap Prod.snd = node.children := by
  cases node <;> simp [Node.regions, Node.children]

/-- A node is nested in `nodes`, and `scopes` are the scopes around it, innermost first. -/
inductive Around (nodes : List Node) : List Scope → Node → Prop where
  | top {node : Node} (h : node ∈ nodes) : Around nodes [] node
  | part {scopes : List Scope} {node part : Node} {scope : Option Scope} {parts : List Node}
    (h : Around nodes scopes node) (region : (scope, parts) ∈ node.regions)
    (here : part ∈ parts) : Around nodes (scope.toList ++ scopes) part

/-- Every nested node has scopes around it, and what has scopes around it is nested. -/
theorem exists_around_iff {nodes : List Node} {node : Node} :
    (∃ scopes, Around nodes scopes node) ↔ Node.Within nodes node := by
  constructor
  · rintro ⟨scopes, h⟩
    induction h with
    | top h => exact .here h
    | part _ region here ih =>
      refine .part ih ?_
      rw [← Node.flatMap_regions]
      exact List.mem_flatMap.mpr ⟨_, region, here⟩
  · intro h
    induction h with
    | here h => exact ⟨[], .top h⟩
    | part _ below ih =>
      obtain ⟨scopes, around⟩ := ih
      rw [← Node.flatMap_regions] at below
      obtain ⟨region, isRegion, here⟩ := List.mem_flatMap.mp below
      exact ⟨_, .part around isRegion here⟩

namespace Scope

/-! ## What names mean -/

/-- A scope binds a name. The body of a function sees the parameters and variables of the function,
the parameters see each other only, and a `var` in the head of a loop is not bound by the loop. -/
def Binds (id : String) : Scope → Prop
  | .functionHead parameters _ => id ∈ Node.boundNamesAll parameters
  | .functionBody parameters body | .accessor parameters body =>
    id ∈ Node.boundNamesAll parameters ∨ InStatements (Node.Hoists Node.ownsVariables id) body
  | .staticBlock body => InStatements (Node.Hoists Node.ownsVariables id) [body]
  | .block statements => ∃ statement ∈ statements, id ∈ statement.declaredNames
  | .switchBody clauses =>
    ∃ test statements, .clause test statements ∈ clauses ∧
      ∃ statement ∈ statements, id ∈ statement.declaredNames
  | .handler parameter => id ∈ Node.boundNamesAll parameter
  | .loop head =>
    ∃ declarators, id ∈ Node.boundNamesAll declarators ∧
      ((∃ comment, head = [.variables comment false declarators]) ∨
        head = [.resources declarators])
  | .ownName own => own = id

/-- Whether a scope only gives a function or class its own name. -/
def isOwnName : Scope → Bool
  | .ownName _ => true
  | _ => false

/-- A name is bound in the innermost of the scopes around it that binds it. -/
inductive Resolves (id : String) : List Scope → Scope → Prop where
  | here {scope : Scope} {outer : List Scope} (h : scope.Binds id) :
    Resolves id (scope :: outer) scope
  | outward {scope binder : Scope} {outer : List Scope} (free : ¬ scope.Binds id)
    (h : Resolves id outer binder) : Resolves id (scope :: outer) binder

/-- A name is bound by a declaration or parameter inside a function or block. The name that a
function or class gives itself is neither, though it hides those outside. -/
def BoundLocally (id : String) (scopes : List Scope) : Prop :=
  ∃ binder, Resolves id scopes binder ∧ binder.isOwnName = false

variable {id : String} {scope : Scope} {outer : List Scope}

theorem not_boundLocally_nil : ¬ BoundLocally id [] := by
  rintro ⟨binder, h, -⟩
  cases h

/-- A scope that binds the name hides those around it. -/
theorem boundLocally_cons :
    BoundLocally id (scope :: outer) ↔
      scope.Binds id ∧ scope.isOwnName = false ∨ ¬ scope.Binds id ∧ BoundLocally id outer := by
  constructor
  · rintro ⟨binder, h, kind⟩
    cases h with
    | here h => exact .inl ⟨h, kind⟩
    | outward free h => exact .inr ⟨free, binder, h, kind⟩
  · rintro (⟨h, kind⟩ | ⟨free, binder, h, kind⟩)
    · exact ⟨scope, .here h, kind⟩
    · exact ⟨binder, .outward free h, kind⟩

theorem eq_ownName_iff : scope = .ownName id ↔ scope.Binds id ∧ scope.isOwnName = true := by
  cases scope <;> simp [Binds, isOwnName]

end Scope

end Phrasebook.Source
