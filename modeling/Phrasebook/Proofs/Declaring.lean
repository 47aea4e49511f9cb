import Phrasebook.Proofs.OrderedMap
import Phrasebook.Program.Load

/-!
# What items bind and export

A module is read item by item. Each item adds declarations behind those that are there already, and
changes only the names that it binds or exports itself.

- `boundNames`, `exportedNames`: the names that an item binds and exports;
- `Collection.Extends`: declarations are kept, with their markers;
- `locals_addItem_of_notMem`, `exports_addItem_of_notMem`: other names are left alone;
- `Collected`, `collected_load`: each unit of a loaded program has the names that were read off it.
-/

namespace Phrasebook.Program

open Source

namespace ModuleSymbols

/-! ## Names of items -/

/-- The names that a declaration binds. -/
def declaredNames : Node → List String
  | .functionDeclaration _ name _ => name.toList
  | .classDeclaration _ name _ => name.toList
  | .variables _ _ declarators =>
    declarators.filterMap fun
      | .declarator target _ => target.plainName?
      | _ => none
  | _ => []

/-- The top-level names that an item binds. -/
def boundNames : Item → List String
  | .statement node | .exporting _ node | .exportDefault _ node => declaredNames node
  | .importing _ bindings _ =>
    bindings.map fun
      | .named id _ => id
      | .everything id => id
  | .exportList _ _ _ | .exportAll _ _ | .exportValue _ => []

/-- The names that an item exports itself. -/
def exportedNames : Item → List String
  | .exporting _ node => declaredNames node
  | .exportDefault _ _ | .exportValue _ => ["default"]
  | .exportList bindings _ _ =>
    bindings.map fun
      | .named _ exported => exported
      | .everything exported => exported
  | .statement _ | .importing _ _ _ | .exportAll _ _ => []

namespace Collection

variable {collection : Collection} {file index : Nat} {name other : String} {item : Item}

/-! ## Declarations are kept -/

/-- What is declared is added behind what was declared before. -/
def Extends (collection later : Collection) : Prop :=
  collection.declarations.toList <+: later.declarations.toList

theorem Extends.refl (collection : Collection) : Extends collection collection :=
  List.prefix_refl _

theorem Extends.trans {collection middle later : Collection} (first : Extends collection middle)
    (second : Extends middle later) : Extends collection later := List.IsPrefix.trans first second

theorem Extends.foldl {α : Type} (step : Collection → α → Collection)
    (h : ∀ collection item, Extends collection (step collection item)) (items : List α)
    (collection : Collection) : Extends collection (items.foldl step collection) := by
  induction items generalizing collection with
  | nil => exact .refl _
  | cons item rest ih => exact (h collection item).trans (ih _)

theorem extends_declare (name : String) (kind : DeclarationKind) (comment : String)
    (owner : Option Nat) :
    Extends collection (collection.declare file name kind comment owner) := by
  simp [Extends, declare]

/-- The collection with a name bound to the declaration at an index, whatever it was bound to. -/
def rebind (collection : Collection) (name : String) (index : Nat) (exported : Bool) : Collection :=
  let symbols := collection.symbols
  { collection with
    symbols := { symbols with
      locals := symbols.locals.insert name (.declaration index)
      exports :=
        if exported then symbols.exports.insert name (.declaration index) else symbols.exports } }

/-- A name stays bound to a marked declaration if the new one is not marked, and is bound to the new
one otherwise. -/
theorem bind_cases (collection : Collection) (name : String) (index : Nat) (exported : Bool) :
    (collection.bind name index exported = collection ∧ collection.isMarked index = false ∧
        ∃ old, collection.symbols.locals.get? name = some (.declaration old) ∧
          collection.isMarked old = true) ∨
      (collection.bind name index exported = collection.rebind name index exported ∧
        ∀ old, collection.symbols.locals.get? name = some (.declaration old) →
          collection.isMarked old = true → collection.isMarked index = true) := by
  unfold bind
  dsimp only
  split
  · -- A declaration was bound before: it stays if it is marked and the new one is not.
    rename_i old bound
    by_cases keeps : (collection.isMarked old && !collection.isMarked index) = true
    · rw [if_pos keeps]
      rw [Bool.and_eq_true, Bool.not_eq_true'] at keeps
      exact .inl ⟨rfl, keeps.2, old, bound, keeps.1⟩
    · rw [if_neg keeps]
      refine .inr ⟨rfl, fun other same marked => ?_⟩
      obtain rfl : old = other := by
        rw [bound] at same
        cases same
        rfl
      simpa [marked] using keeps
  · rename_i unbound
    exact .inr ⟨rfl, fun old same => absurd same (unbound old)⟩

theorem declarations_bind (name : String) (index : Nat) (exported : Bool) :
    (collection.bind name index exported).declarations = collection.declarations := by
  rcases collection.bind_cases name index exported with ⟨same, -⟩ | ⟨same, -⟩
  · rw [same]
  · rw [same]
    rfl

theorem extends_bind (name : String) (index : Nat) (exported : Bool) :
    Extends collection (collection.bind name index exported) := by
  have same := collection.declarations_bind name index exported
  show collection.declarations.toList <+:
    (collection.bind name index exported).declarations.toList
  exact same ▸ List.prefix_refl _

theorem extends_addClass (name comment : String) (body : Node) :
    Extends collection (collection.addClass file name comment body) := by
  unfold addClass
  dsimp only
  split
  · refine (extends_declare ..).trans (.foldl _ (fun collection node => ?_) _ _)
    unfold addMember
    split
    · exact extends_declare ..
    · exact .refl _
  · exact extends_declare ..

theorem extends_addDeclaration (before : List String) (exported : Bool) (node : Node) :
    Extends collection (collection.addDeclaration file before exported node) := by
  unfold addDeclaration
  dsimp only
  split
  · exact (extends_declare ..).trans (extends_bind ..)
  · exact (extends_addClass ..).trans (extends_bind ..)
  · refine .foldl _ (fun collection node => ?_) _ _
    unfold addVariable
    split
    · split
      · exact (extends_declare ..).trans (extends_bind ..)
      · exact .refl _
    · exact .refl _
  · exact .refl _

theorem extends_addDefault (before : String) (node : Node) :
    Extends collection (collection.addDefault file before node) := by
  unfold addDefault
  dsimp only
  split
  · split
    · exact (extends_declare ..).trans (extends_bind ..)
    · exact extends_declare ..
  · split
    · exact (extends_addClass ..).trans (extends_bind ..)
    · exact extends_addClass ..
  · exact .refl _

theorem extends_addItem (item : Item) : Extends collection (collection.addItem file item) := by
  cases item with
  | statement node => exact extends_addDeclaration ..
  | exporting comment node => exact extends_addDeclaration ..
  | exportDefault comment node => exact extends_addDefault ..
  | exportValue value => cases value <;> exact .refl _
  | importing specifier bindings attributes =>
    unfold addItem
    dsimp only
    split
    · exact .foldl (addImport _) (fun _ _ => .refl _) bindings (collection.refer _)
    · exact .refl _
  | exportList bindings specifier attributes =>
    unfold addItem
    dsimp only
    split
    · exact .foldl (addExport _) (fun _ _ => .refl _) bindings (collection.refer _)
    · exact .foldl (addExport _) (fun _ _ => .refl _) bindings collection
  | exportAll specifier attributes =>
    unfold addItem
    dsimp only
    split <;> exact .refl _

/-- A declaration keeps its marker. -/
theorem Extends.isMarked {later : Collection} (h : Extends collection later)
    (known : index < collection.declarations.size) :
    later.isMarked index = collection.isMarked index := by
  obtain ⟨more, same⟩ := h
  have kept : later.declarations[index]? = collection.declarations[index]? := by
    rw [← Array.getElem?_toList, ← same, List.getElem?_append_left (by simpa using known),
      Array.getElem?_toList]
  rw [Collection.isMarked, Collection.isMarked, kept]

/-! ## Names are bound by what declares them -/

theorem foldl_unchanged {α β : Type} (step : Collection → α → Collection) (view : Collection → β)
    {items : List α}
    (h : ∀ collection, ∀ item ∈ items, view (step collection item) = view collection)
    (collection : Collection) : view (items.foldl step collection) = view collection := by
  induction items generalizing collection with
  | nil => rfl
  | cons item rest ih =>
    rw [List.foldl_cons,
      ih fun collection item among => h collection item (List.mem_cons_of_mem _ among)]
    exact h collection item List.mem_cons_self

theorem symbols_addClass (name comment : String) (body : Node) :
    (collection.addClass file name comment body).symbols = collection.symbols := by
  unfold addClass
  dsimp only
  split
  · refine foldl_unchanged _ symbols (fun collection node _ => ?_) _
    unfold addMember
    split <;> rfl
  · rfl

/-- Binding a name changes no other name. -/
theorem get?_bind_of_ne {exported : Bool} (h : name ≠ other) :
    (collection.bind name index exported).symbols.locals.get? other =
        collection.symbols.locals.get? other ∧
      (collection.bind name index exported).symbols.exports.get? other =
        collection.symbols.exports.get? other := by
  rcases collection.bind_cases name index exported with ⟨same, -⟩ | ⟨same, -⟩
  · rw [same]
    exact ⟨rfl, rfl⟩
  · rw [same]
    refine ⟨OrderedMap.get?_insert_of_ne h, ?_⟩
    cases exported with
    | false => rfl
    | true => exact OrderedMap.get?_insert_of_ne h

/-- Binding a name that is not exported exports nothing. -/
theorem exports_bind (collection : Collection) (name : String) (index : Nat) :
    (collection.bind name index false).symbols.exports = collection.symbols.exports := by
  rcases collection.bind_cases name index false with ⟨same, -⟩ | ⟨same, -⟩
  · rw [same]
  · rw [same]
    rfl

theorem exports_addDeclaration (before : List String) (node : Node) :
    (collection.addDeclaration file before false node).symbols.exports =
      collection.symbols.exports := by
  unfold addDeclaration
  dsimp only
  split
  · exact exports_bind ..
  · rw [exports_bind, symbols_addClass]
  · refine foldl_unchanged _ (fun collection => collection.symbols.exports)
      (fun collection node _ => ?_) _
    unfold addVariable
    split
    · split
      · exact exports_bind ..
      · rfl
    · rfl
  · rfl

theorem get?_addDeclaration_of_notMem {before : List String} {exported : Bool} {node : Node}
    (h : name ∉ declaredNames node) :
    (collection.addDeclaration file before exported node).symbols.locals.get? name =
        collection.symbols.locals.get? name ∧
      (collection.addDeclaration file before exported node).symbols.exports.get? name =
        collection.symbols.exports.get? name := by
  unfold addDeclaration
  dsimp only
  split
  · -- A function.
    exact get?_bind_of_ne fun same => h (by simp [declaredNames, same])
  · -- A class, whose members are bound to no name.
    rename_i comment id body
    have others :=
      @get?_bind_of_ne (collection.addClass file id (joinComments (before ++ [comment])) body)
        collection.declarations.size id name exported fun same => h (by simp [declaredNames, same])
    rwa [symbols_addClass] at others
  · -- Variables: no declarator binds the name, so the fold over them keeps it.
    rename_i comment hoisted declarators
    have each (collection : Collection) (node : Node) (among : node ∈ declarators) :
        (addVariable file (joinComments (before ++ [comment])) exported collection
            node).symbols.locals.get? name = collection.symbols.locals.get? name ∧
          (addVariable file (joinComments (before ++ [comment])) exported collection
            node).symbols.exports.get? name = collection.symbols.exports.get? name := by
      unfold addVariable
      split
      · split
        · rename_i target _ id plain
          refine get?_bind_of_ne fun same => h (List.mem_filterMap.mpr ⟨_, among, ?_⟩)
          exact plain.trans (congrArg some same)
        · exact ⟨rfl, rfl⟩
      · exact ⟨rfl, rfl⟩
    exact ⟨foldl_unchanged _ (fun collection => collection.symbols.locals.get? name)
        (fun collection node among => (each collection node among).1) _,
      foldl_unchanged _ (fun collection => collection.symbols.exports.get? name)
        (fun collection node among => (each collection node among).2) _⟩
  · -- Anything else binds nothing.
    exact ⟨rfl, rfl⟩

/-- Adding a default export binds no other top-level name than that of what is exported. -/
theorem locals_addDefault_of_notMem {before : String} {node : Node}
    (h : name ∉ declaredNames node) :
    (collection.addDefault file before node).symbols.locals.get? name =
      collection.symbols.locals.get? name := by
  unfold addDefault
  dsimp only
  split
  · split
    · exact (get?_bind_of_ne fun same => h (by simp [declaredNames, same])).1
    · rfl
  · rename_i comment id body
    split
    · rename_i id
      have others := (@get?_bind_of_ne (collection.addClass file id (joinComments [before, comment])
        body) collection.declarations.size id name false
        fun same => h (by simp [declaredNames, same])).1
      rwa [symbols_addClass] at others
    · exact congrArg (fun symbols => symbols.locals.get? name) (symbols_addClass ..)
  · rfl

/-- Adding a default export exports nothing else. -/
theorem exports_addDefault_of_ne {before : String} {node : Node} (h : name ≠ "default") :
    (collection.addDefault file before node).symbols.exports.get? name =
      collection.symbols.exports.get? name := by
  unfold addDefault
  dsimp only
  split
  · refine (OrderedMap.get?_insert_of_ne h.symm).trans ?_
    split
    · rw [exports_bind]
      rfl
    · rfl
  · refine (OrderedMap.get?_insert_of_ne h.symm).trans ?_
    split
    · rw [exports_bind, symbols_addClass]
    · rw [symbols_addClass]
  · rfl

/-- An item changes no top-level name that it does not bind. -/
theorem locals_addItem_of_notMem (h : name ∉ boundNames item) :
    (collection.addItem file item).symbols.locals.get? name =
      collection.symbols.locals.get? name := by
  cases item with
  | statement node => exact (get?_addDeclaration_of_notMem h).1
  | exporting comment node => exact (get?_addDeclaration_of_notMem h).1
  | exportDefault comment node => exact locals_addDefault_of_notMem h
  | exportValue value => cases value <;> rfl
  | importing specifier bindings attributes =>
    unfold addItem
    dsimp only
    split
    · rename_i text _
      refine foldl_unchanged (addImport text)
        (fun collection => collection.symbols.locals.get? name) (fun collection binding among => ?_)
        (collection.refer text)
      cases binding with
      | named id imported =>
        exact OrderedMap.get?_insert_of_ne fun same => h (List.mem_map.mpr ⟨_, among, same⟩)
      | everything id =>
        exact OrderedMap.get?_insert_of_ne fun same => h (List.mem_map.mpr ⟨_, among, same⟩)
    · rfl
  -- A list of exports binds no name of the module itself.
  | exportList bindings specifier attributes =>
    unfold addItem
    dsimp only
    refine (foldl_unchanged (addExport _)
      (fun collection => collection.symbols.locals.get? name) (fun _ _ _ => rfl) _).trans ?_
    split <;> rfl
  | exportAll specifier attributes =>
    unfold addItem
    dsimp only
    split <;> rfl

/-- An item changes no exported name that it does not export. -/
theorem exports_addItem_of_notMem (h : name ∉ exportedNames item) :
    (collection.addItem file item).symbols.exports.get? name =
      collection.symbols.exports.get? name := by
  cases item with
  | statement node =>
    exact congrArg (fun exports => exports.get? name) (exports_addDeclaration [] node)
  | exporting comment node => exact (get?_addDeclaration_of_notMem h).2
  | exportDefault comment node =>
    exact exports_addDefault_of_ne fun same => h (by simp [exportedNames, same])
  | exportValue value =>
    cases value with
    | name start id =>
      exact OrderedMap.get?_insert_of_ne fun same => h (by simp [exportedNames, same])
    | _ => rfl
  | importing specifier bindings attributes =>
    unfold addItem
    dsimp only
    split
    · rename_i text _
      exact foldl_unchanged (addImport text)
        (fun collection => collection.symbols.exports.get? name) (fun _ _ _ => rfl)
        (collection.refer text)
    · rfl
  -- Each entry exports by the name that it gives, whatever it refers to.
  | exportList bindings specifier attributes =>
    unfold addItem
    dsimp only
    refine (foldl_unchanged (addExport _)
      (fun collection => collection.symbols.exports.get? name)
      (fun collection binding among => ?_) _).trans (by split <;> rfl)
    unfold addExport
    dsimp only
    split
    · exact OrderedMap.get?_insert_of_ne fun same => h (List.mem_map.mpr ⟨_, among, same⟩)
    · exact OrderedMap.get?_insert_of_ne fun same => h (List.mem_map.mpr ⟨_, among, same⟩)
    · exact OrderedMap.get?_insert_of_ne fun same => h (List.mem_map.mpr ⟨_, among, same⟩)
    · rfl
  | exportAll specifier attributes =>
    unfold addItem
    dsimp only
    split <;> rfl

end Collection

theorem extends_collect (file : Nat) (items : List Item) (declarations : Array Declaration) :
    Collection.Extends ⟨declarations, empty⟩ (collect file items declarations) :=
  .foldl _ (fun _ item => Collection.extends_addItem item) items _

end ModuleSymbols

/-! ## Units of a program -/

open ModuleSymbols

/-- A unit has the names that were read off its items, behind some declarations. All of its own are
declarations of the program. -/
def CollectedAt (program : Program) (file : Nat) (unit : SourceUnit) : Prop :=
  ∃ declarations, unit.symbols = (collect file unit.script.items declarations).symbols ∧
    (collect file unit.script.items declarations).declarations.toList <+:
      program.declarations.toList

/-- All units have the names that were read off their items. -/
def Collected (program : Program) : Prop :=
  ∀ (file : Nat) (unit : SourceUnit), program.units[file]? = some unit →
    program.CollectedAt file unit

/-- A unit that is read adds its declarations behind all others. -/
theorem Collected.addFile {tree : FileTree} {root path : Path} {isRoot : Bool} {program : Program}
    (collected : program.Collected) : (addFile tree root isRoot program path).Collected := by
  unfold Program.addFile
  dsimp only
  split
  · exact collected
  · rename_i script read
    intro file unit here
    dsimp only at here
    by_cases last : file = program.units.size
    · -- The new unit.
      subst last
      rw [Array.getElem?_push_size] at here
      cases here
      exact ⟨program.declarations, rfl, List.prefix_refl _⟩
    · rw [Array.getElem?_push, if_neg last] at here
      obtain ⟨declarations, symbols, known⟩ := collected file unit here
      exact ⟨declarations, symbols, known.trans (extends_collect ..)⟩

theorem Collected.loadRounds {tree : FileTree} {root : Path} {rounds : Nat} {isRoot : Bool}
    {known waiting : List Path} {program : Program} (collected : program.Collected) :
    (loadRounds tree root rounds isRoot known waiting program).Collected := by
  have read (isRoot : Bool) (paths : List Path) {program : Program}
      (collected : program.Collected) :
      (paths.foldl (Program.addFile tree root isRoot) program).Collected := by
    induction paths generalizing program with
    | nil => exact collected
    | cons path rest ih => exact ih collected.addFile
  induction rounds generalizing isRoot known waiting program with
  | zero => exact collected
  | succ rounds ih =>
    unfold Program.loadRounds
    split
    · exact collected
    · exact ih (read isRoot waiting collected)

/-- The units of a loaded program have the names that were read off their items. -/
theorem collected_load (tree : FileTree) (root : Path) (roots : List Path) :
    (load tree root roots).Collected := by
  intro file unit here
  have start : Program.Collected ⟨#[], #[], []⟩ := fun file unit here => by simp at here
  -- Linking the units leaves their names as they are.
  unfold load loadWithin at here ⊢
  dsimp only at here ⊢
  rw [Array.getElem?_map] at here
  obtain ⟨read, found, rfl⟩ := Option.map_eq_some_iff.mp here
  exact start.loadRounds file read found

end Phrasebook.Program
