import Phrasebook.Program.Scope
import Phrasebook.Proofs.Scoping

/-!
# Callees that are bound locally

The walk over a module that looks for locally bound callees goes by names that it takes from the
constructs on its way. Where it takes other names than lexical scoping binds it can misjudge a
callee, and it is right about all others.

- `Node.calleeName?`, `CallAt`: the calls whose callees are looked at;
- `Scope.taken`, `mem_shadowedCallees_iff_taken`: the walk finds a callee exactly if it takes its
  name from a scope around the call;
- `Scope.Missed`, `Scope.Spurious`: the names that a scope binds and the walk does not take, and
  those that the walk takes although the scope does not bind them;
- `Scope.Misjudged`, `mem_shadowedCallees_iff`: the callees that the walk is wrong about.
-/

namespace Phrasebook

open Source

/-! ## The search for hoisted names -/

namespace Source.Node

/-- Whether the search for hoisted names passes a node over. -/
def stopsHoisting : Node → Bool
  | .function _ _ _ _ | .classBody _ _ => true
  | _ => false

/-- A name is declared with `var` below a node where it should stay, and the search for hoisted
names finds it nevertheless. -/
inductive Leaks (id : String) : Node → Prop where
  | here {node part : Node} (owns : node.ownsVariables = true)
    (enters : node.stopsHoisting = false) (h : part ∈ node.children)
    (inside : Hoists stopsHoisting id part) : Leaks id node
  | deeper {node part : Node} (enters : node.stopsHoisting = false) (h : part ∈ node.children)
    (inside : Leaks id part) : Leaks id node

variable {id : String} {node : Node}

theorem enters_of_owns_nothing (h : node.ownsVariables = false) : node.stopsHoisting = false := by
  cases node <;> first | rfl | cases h

/-- The search finds the variables of a node, and those that leak out of nodes in it. -/
theorem hoists_stopsHoisting_iff :
    Hoists stopsHoisting id node ↔ Hoists ownsVariables id node ∨ Leaks id node := by
  constructor
  · intro h
    induction h with
    | here h => exact .inl (.here h)
    | @deeper node _ enters h inside ih =>
      -- Of the nodes that own their variables the search passes over functions and classes only.
      cases owns : node.ownsVariables with
      | true => exact .inr (.here owns enters h inside)
      | false => exact ih.imp (.deeper owns h) (.deeper enters h)
  · rintro (h | h)
    · induction h with
      | here h => exact .here h
      | deeper owns h _ ih => exact .deeper (enters_of_owns_nothing owns) h ih
    · induction h with
      | here _ enters h inside => exact .deeper enters h inside
      | deeper enters h _ ih => exact .deeper enters h ih

end Source.Node

namespace Program

variable {id : String} {node : Node} {start : Nat} {scope : List String}

theorem mem_hoistedNamesAll {nodes : List Node} :
    id ∈ hoistedNamesAll nodes ↔ ∃ node ∈ nodes, id ∈ hoistedNames node := by
  induction nodes with
  | nil => simp [hoistedNamesAll]
  | cons first rest ih => simp [hoistedNamesAll, ih]

/-- One step of the search: it enters the parts of every node that does not stop it. -/
theorem mem_hoistedNames_step :
    id ∈ hoistedNames node ↔
      (∃ comment declarators, node = .variables comment true declarators ∧
        id ∈ Node.boundNamesAll declarators) ∨
      node.stopsHoisting = false ∧ ∃ part ∈ node.children, id ∈ hoistedNames part := by
  cases node <;>
    simp [hoistedNames, Node.stopsHoisting, Node.children, mem_hoistedNamesAll, or_and_right,
      exists_or]

theorem mem_hoistedNames : id ∈ hoistedNames node ↔ node.Hoists Node.stopsHoisting id := by
  -- The search recurs on the parts of a node, whichever construct it is.
  induction node using Node.part_induction with
  | step node ih =>
    rw [mem_hoistedNames_step]
    constructor
    · rintro (⟨comment, declarators, rfl, h⟩ | ⟨enters, part, below, h⟩)
      · exact .here h
      · exact .deeper enters below ((ih part below).mp h)
    · intro h
      cases h with
      | here h => exact .inl ⟨_, _, rfl, h⟩
      | deeper enters below inside => exact .inr ⟨enters, _, below, (ih _ below).mpr inside⟩

/-- The names that a body hoists are its variables, and those that leak out of nodes in it. -/
theorem mem_bodyNames {body : List Node} :
    id ∈ bodyNames body ↔
      InStatements (Node.Hoists Node.ownsVariables id) body ∨
        InStatements (Node.Leaks id) body := by
  have hoisted : id ∈ bodyNames body ↔ InStatements (Node.Hoists Node.stopsHoisting id) body := by
    unfold bodyNames InStatements
    split
    · simp [mem_hoistedNamesAll, mem_hoistedNames]
    · rename_i other
      refine iff_of_false List.not_mem_nil ?_
      rintro ⟨statements, rfl, -⟩
      exact other statements rfl
  rw [hoisted]
  unfold InStatements
  simp only [Node.hoists_stopsHoisting_iff, and_or_left, exists_or]

end Program

/-! ## Names that the walk takes -/

namespace Source

/-- The names of resources that a statement declares. -/
def Node.resourceNames : Node → List String
  | .resources declarators => boundNamesAll declarators
  | _ => []

namespace Scope

variable {id : String} {scope : Scope} {outer scopes : List Scope}

/-- The names that the walk takes from a scope. It takes the variables of a function together with
its parameters. -/
def taken : Scope → List String
  | .functionHead parameters body | .functionBody parameters body =>
    Node.boundNamesAll parameters ++ Program.bodyNames body
  | .block statements => Program.lexicalNames statements
  | .handler parameter => Node.boundNamesAll parameter
  | .loop head => Program.headNames head
  | .accessor _ _ | .staticBlock _ | .switchBody _ | .ownName _ => []

/-- The walk takes a name from one of some scopes. -/
def Taken (id : String) (scopes : List Scope) : Prop := ∃ scope ∈ scopes, id ∈ scope.taken

theorem not_taken_nil : ¬ Taken id [] := by simp [Taken]

theorem taken_cons : Taken id (scope :: outer) ↔ id ∈ scope.taken ∨ Taken id outer := by
  simp [Taken]

/-- A scope binds a name and the walk does not take it. The walk knows no scopes of accessors in
objects, of static blocks, of `switch` statements and of functions and classes that name themselves,
and no resources. -/
def Missed (id : String) : Scope → Prop
  | .functionHead _ _ | .functionBody _ _ | .handler _ => False
  | .accessor parameters body => Binds id (.accessor parameters body)
  | .staticBlock body => Binds id (.staticBlock body)
  | .switchBody clauses => Binds id (.switchBody clauses)
  | .ownName own => own = id
  | .block statements =>
    (∃ statement ∈ statements, id ∈ statement.resourceNames) ∧
      ∀ statement ∈ statements, id ∉ Program.statementNames statement
  | .loop head =>
    ∃ declarators, head = [.resources declarators] ∧ id ∈ Node.boundNamesAll declarators

/-- The walk takes a name from a scope that does not bind it. It lets the parameters of a function
see the variables of the body, lets variables leak out of accessors in objects, and takes a `var` in
the head of a loop for a variable of the loop. -/
def Spurious (id : String) : Scope → Prop
  | .functionHead parameters body =>
    id ∉ Node.boundNamesAll parameters ∧
      (InStatements (Node.Hoists Node.ownsVariables id) body ∨ InStatements (Node.Leaks id) body)
  | .functionBody parameters body =>
    id ∉ Node.boundNamesAll parameters ∧
      ¬ InStatements (Node.Hoists Node.ownsVariables id) body ∧ InStatements (Node.Leaks id) body
  | .loop head =>
    ∃ comment declarators, head = [.variables comment true declarators] ∧
      id ∈ Node.boundNamesAll declarators
  | _ => False

theorem mem_declaredNames {node : Node} :
    id ∈ node.declaredNames ↔ id ∈ Program.statementNames node ∨ id ∈ node.resourceNames := by
  unfold Node.declaredNames Program.statementNames Node.resourceNames
  cases node <;> grind

theorem mem_lexicalNames {statements : List Node} :
    id ∈ Program.lexicalNames statements ↔
      ∃ statement ∈ statements, id ∈ Program.statementNames statement :=
  List.mem_flatMap

theorem mem_headNames {head : List Node} :
    id ∈ Program.headNames head ↔
      ∃ comment hoisted declarators, head = [.variables comment hoisted declarators] ∧
        id ∈ Node.boundNamesAll declarators := by
  unfold Program.headNames
  split
  · simp
  · rename_i other
    refine iff_of_false List.not_mem_nil ?_
    rintro ⟨comment, hoisted, declarators, rfl, -⟩
    exact other comment hoisted declarators rfl

/-- The missed names are all that a scope binds and the walk does not take. -/
theorem missed_iff : scope.Missed id ↔ scope.Binds id ∧ id ∉ scope.taken := by
  cases scope with
  | functionHead parameters body =>
    -- The walk takes more than the parameters, so it misses none of them.
    simp only [Missed, Binds, taken, List.mem_append]
    tauto
  | functionBody parameters body =>
    simp only [Missed, Binds, taken, List.mem_append, Program.mem_bodyNames]
    tauto
  | block statements =>
    simp only [Missed, Binds, taken, mem_lexicalNames, mem_declaredNames]
    grind
  | loop head =>
    simp only [Missed, Binds, taken, mem_headNames]
    grind
  | handler parameter => simp [Missed, Binds, taken]
  | _ => simp [Missed, Binds, taken]

/-- The spurious names are all that the walk takes from a scope that does not bind them. -/
theorem spurious_iff : scope.Spurious id ↔ id ∈ scope.taken ∧ ¬ scope.Binds id := by
  cases scope with
  -- Heads and bodies of functions: names of the body count for the head, too.
  | functionHead parameters body =>
    simp only [Spurious, Binds, taken, List.mem_append, Program.mem_bodyNames]
    tauto
  | functionBody parameters body =>
    simp only [Spurious, Binds, taken, List.mem_append, Program.mem_bodyNames]
    tauto
  | block statements =>
    simp only [Spurious, Binds, taken, mem_lexicalNames, mem_declaredNames]
    grind
  -- A `var` in the head of a loop binds nothing there, but is taken to.
  | loop head =>
    simp only [Spurious, Binds, taken, mem_headNames]
    constructor
    · rintro ⟨comment, declarators, rfl, h⟩
      exact ⟨⟨comment, true, declarators, rfl, h⟩, by simp⟩
    · rintro ⟨⟨comment, hoisted, declarators, rfl, h⟩, free⟩
      cases hoisted with
      | true => exact ⟨comment, declarators, rfl, h⟩
      | false => exact absurd ⟨declarators, h, .inl ⟨comment, rfl⟩⟩ free
  | handler parameter => simp [Spurious, Binds, taken]
  | _ => simp [Spurious, taken]

/-! ## Names that the walk misjudges -/

/-- The walk misjudges a name between some scopes. To blame is the innermost of them that binds the
name or that the walk takes it from. -/
inductive Misjudged (id : String) : List Scope → Prop where
  /-- The walk misses the scope that binds the name, and takes the name from none outside. -/
  | missed {scope : Scope} {outer : List Scope} (h : scope.Missed id)
    (binds : scope.isOwnName = false) (free : ¬ Taken id outer) : Misjudged id (scope :: outer)
  /-- It is the own name of the function or class around, and the walk takes it from outside. -/
  | hidden {outer : List Scope} (h : Taken id outer) : Misjudged id (.ownName id :: outer)
  /-- The walk takes the name from a scope that does not bind it, and nor do those outside. -/
  | spurious {scope : Scope} {outer : List Scope} (h : scope.Spurious id)
    (free : ¬ BoundLocally id outer) : Misjudged id (scope :: outer)
  | outward {scope : Scope} {outer : List Scope} (free : ¬ scope.Binds id)
    (untaken : id ∉ scope.taken) (h : Misjudged id outer) : Misjudged id (scope :: outer)

theorem not_misjudged_nil : ¬ Misjudged id [] := fun h => nomatch h

theorem misjudged_cons :
    Misjudged id (scope :: outer) ↔
      (scope.Missed id ∧ scope.isOwnName = false ∧ ¬ Taken id outer) ∨
      (scope = .ownName id ∧ Taken id outer) ∨
      (scope.Spurious id ∧ ¬ BoundLocally id outer) ∨
      (¬ scope.Binds id ∧ id ∉ scope.taken ∧ Misjudged id outer) := by
  constructor
  · intro h
    cases h with
    | missed h binds free => exact .inl ⟨h, binds, free⟩
    | hidden h => exact .inr (.inl ⟨rfl, h⟩)
    | spurious h free => exact .inr (.inr (.inl ⟨h, free⟩))
    | outward free untaken h => exact .inr (.inr (.inr ⟨free, untaken, h⟩))
  · rintro (⟨h, binds, free⟩ | ⟨rfl, h⟩ | ⟨h, free⟩ | ⟨free, untaken, h⟩)
    · exact .missed h binds free
    · exact .hidden h
    · exact .spurious h free
    · exact .outward free untaken h

/-- The walk takes a name for a local one exactly if it is one, unless it misjudges the name; and
then it does not. -/
theorem taken_iff_boundLocally_iff :
    (Taken id scopes ↔ BoundLocally id scopes) ↔ ¬ Misjudged id scopes := by
  induction scopes with
  | nil => simp [not_taken_nil, not_boundLocally_nil, not_misjudged_nil]
  | cons scope outer ih =>
    rw [taken_cons, boundLocally_cons, misjudged_cons, missed_iff, spurious_iff, eq_ownName_iff]
    have unseen : scope.isOwnName = true → id ∉ scope.taken := by
      cases scope <;> simp [isOwnName, taken]
    -- whether the scope binds the name and whether the walk takes it decide what is left to show
    cases own : scope.isOwnName <;> by_cases binds : scope.Binds id <;>
      by_cases takes : id ∈ scope.taken <;> simp_all

end Scope

/-! ## The walk -/

/-- The identifier that a callee starts from, with its offset: the callee itself, or the object that
it is a member of. -/
def Node.calleeName? : Node → Option (Nat × String)
  | .paren inner => calleeName? inner
  | .nonNull inner => calleeName? inner
  | .name start id => some (start, id)
  | .member (.name start id) _ => some (start, id)
  | .element (.name start id) _ => some (start, id)
  | _ => none

end Source

namespace Program

variable {id : String} {node : Node} {nodes : List Node} {start : Nat} {scope : List String}

/-- A call in a module, between the scopes `scopes`, has a callee that starts from the identifier
`id` at the offset `start`. -/
def CallAt (nodes : List Node) (start : Nat) (id : String) (scopes : List Scope) : Prop :=
  ∃ offset callee arguments, Around nodes scopes (.call offset callee arguments) ∧
    callee.calleeName? = some (start, id)

theorem localCallee?_eq (callee : Node) :
    localCallee? scope callee =
      (callee.calleeName?.filter fun name => scope.contains name.2).map Prod.fst := by
  fun_induction localCallee? scope callee <;> simp_all [Node.calleeName?, Option.filter]

theorem localCallee?_eq_some_iff {scopes : List Scope} {callee : Node} :
    localCallee? (scopes.flatMap Scope.taken) callee = some start ↔
      ∃ id, callee.calleeName? = some (start, id) ∧ Scope.Taken id scopes := by
  rw [localCallee?_eq]
  simp [Option.filter_eq_some_iff, Scope.Taken, Prod.exists]

theorem mem_shadowedInAll :
    start ∈ shadowedInAll scope nodes ↔ ∃ node ∈ nodes, start ∈ shadowedIn scope node := by
  induction nodes with
  | nil => simp [shadowedInAll]
  | cons first rest ih => simp [shadowedInAll, ih]

/-- One step of the walk: it looks at a call, and goes on to the parts of the node with the names
that it takes from the scopes around these. -/
theorem mem_shadowedIn_step :
    start ∈ shadowedIn scope node ↔
      (∃ offset callee arguments, node = .call offset callee arguments ∧
        localCallee? scope callee = some start) ∨
      ∃ region ∈ node.regions, ∃ part ∈ region.2,
        start ∈ shadowedIn (region.1.toList.flatMap Scope.taken ++ scope) part := by
  cases node <;>
    simp [shadowedIn, Node.regions, Node.children, mem_shadowedInAll, Scope.taken, or_and_right,
      exists_or]

/-- Down the tree the walk carries the names taken from the scopes around, so that it finds calls
between these only. -/
theorem exists_callAt_of_mem (node : Node) :
    ∀ scopes, Around nodes scopes node → start ∈ shadowedIn (scopes.flatMap Scope.taken) node →
      ∃ id scopes, CallAt nodes start id scopes ∧ Scope.Taken id scopes := by
  induction node using Node.part_induction with
  | step node ih =>
    intro scopes around found
    -- The callee is found at this very node, or in a part, with the scope around that put on top.
    rcases mem_shadowedIn_step.mp found with
      ⟨offset, callee, arguments, rfl, h⟩ | ⟨⟨scope, parts⟩, region, part, here, h⟩
    · obtain ⟨id, name, taken⟩ := localCallee?_eq_some_iff.mp h
      exact ⟨id, scopes, ⟨offset, callee, arguments, around, name⟩, taken⟩
    · have below : part ∈ node.children := by
        rw [← node.flatMap_regions]
        exact List.mem_flatMap.mpr ⟨_, region, here⟩
      refine ih part below (scope.toList ++ scopes) (.part around region here) ?_
      rwa [List.flatMap_append]

/-- What the walk finds in a nested node with the names taken from the scopes around, it finds in
the module. -/
theorem mem_shadowedCallees_of_around {scopes : List Scope} (around : Around nodes scopes node)
    (h : start ∈ shadowedIn (scopes.flatMap Scope.taken) node) : start ∈ shadowedCallees nodes := by
  induction around with
  | top top => exact mem_shadowedInAll.mpr ⟨_, top, h⟩
  | part _ region here ih =>
    rw [List.flatMap_append] at h
    exact ih (mem_shadowedIn_step.mpr (.inr ⟨_, region, _, here, h⟩))

/-- The walk finds a callee exactly if it takes the name from a scope around the call. -/
theorem mem_shadowedCallees_iff_taken :
    start ∈ shadowedCallees nodes ↔
      ∃ id scopes, CallAt nodes start id scopes ∧ Scope.Taken id scopes := by
  constructor
  · intro found
    obtain ⟨node, top, h⟩ := mem_shadowedInAll.mp found
    exact exists_callAt_of_mem node [] (.top top) h
  · rintro ⟨id, scopes, ⟨offset, callee, arguments, around, name⟩, taken⟩
    refine mem_shadowedCallees_of_around around (mem_shadowedIn_step.mpr (.inl ?_))
    exact ⟨offset, callee, arguments, rfl, localCallee?_eq_some_iff.mpr ⟨id, name, taken⟩⟩

/-- Where a single callee starts at an offset, the walk is right about it exactly if it does not
misjudge it. -/
theorem judged_rightly_iff {scopes : List Scope} (call : CallAt nodes start id scopes)
    (alone : ∀ other around, CallAt nodes start other around → other = id ∧ around = scopes) :
    (start ∈ shadowedCallees nodes ↔ Scope.BoundLocally id scopes) ↔
      ¬ Scope.Misjudged id scopes := by
  have found : start ∈ shadowedCallees nodes ↔ Scope.Taken id scopes := by
    rw [mem_shadowedCallees_iff_taken]
    constructor
    · rintro ⟨other, around, otherCall, h⟩
      obtain ⟨rfl, rfl⟩ := alone other around otherCall
      exact h
    · exact fun h => ⟨id, scopes, call, h⟩
  rw [found]
  exact Scope.taken_iff_boundLocally_iff

/-- The walk finds the offsets of the callees that are bound locally, those apart that it misjudges,
and the offsets of the callees that it misjudges though they are not bound locally. -/
theorem mem_shadowedCallees_iff (nodes : List Node) (start : Nat) :
    start ∈ shadowedCallees nodes ↔
      ∃ id scopes, CallAt nodes start id scopes ∧
        (Scope.BoundLocally id scopes ↔ ¬ Scope.Misjudged id scopes) := by
  rw [mem_shadowedCallees_iff_taken]
  refine exists_congr fun id => exists_congr fun scopes => and_congr_right fun _ => ?_
  rw [← Scope.taken_iff_boundLocally_iff]
  tauto

/-- `switch (x) { case 1: const locText = f; locText(); }` -/
def callInClause : Node :=
  .switch (.name 8 "x")
    [.clause [.expression .plain []]
      [.variables "" false [.declarator (.binding "locText") [.name 37 "f"]],
        .call 40 (.name 40 "locText") []]]

/-- `function g(locText) { locText(); }` -/
def callInFunction : Node :=
  .functionDeclaration "" (some "g")
    (.function .ordinary [.binding "locText"] [.block [.call 22 (.name 22 "locText") []]] [])

/-- What a clause of a `switch` statement declares is bound locally, and the walk does not find it;
a parameter it finds. -/
theorem switch_name_missed :
    (∃ scopes, CallAt [callInClause] 40 "locText" scopes ∧
      Scope.BoundLocally "locText" scopes ∧ 40 ∉ shadowedCallees [callInClause]) ∧
    22 ∈ shadowedCallees [callInFunction] := by
  constructor
  · have switch : Around [callInClause] [] callInClause := .top List.mem_cons_self
    have clause := switch.part (.tail _ (.head _)) List.mem_cons_self
    have call := clause.part List.mem_cons_self (.tail _ (.tail _ (.head _)))
    refine ⟨_, ⟨40, _, [], call, rfl⟩, ⟨_, .here ?_, rfl⟩, by decide⟩
    exact ⟨_, _, List.mem_cons_self, _, List.mem_cons_self, by decide⟩
  · have declaration : Around [callInFunction] [] callInFunction := .top List.mem_cons_self
    have function := declaration.part List.mem_cons_self List.mem_cons_self
    have body := function.part (.tail _ (.head _)) List.mem_cons_self
    have call := body.part List.mem_cons_self List.mem_cons_self
    refine (mem_shadowedCallees_iff [callInFunction] 22).mpr
      ⟨"locText", _, ⟨22, _, [], call, rfl⟩, ?_⟩
    refine iff_of_true ?bound (Scope.taken_iff_boundLocally_iff.mp (iff_of_true ?_ ?bound))
    · refine ⟨_, .outward ?_ (.here (Or.inl List.mem_cons_self)), rfl⟩
      simp [Scope.Binds, Node.declaredNames]
    · exact ⟨_, .tail _ (.head _), List.mem_cons_self⟩

end Program

end Phrasebook
