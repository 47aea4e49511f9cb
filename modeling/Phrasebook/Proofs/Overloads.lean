import Mathlib.Data.List.Induction
import Phrasebook.Proofs.Declaring
import Phrasebook.Proofs.Reexports

/-!
# Overloaded functions

A function may be declared several times, and a marker may stand in front of any of its
declarations. Its name is then bound to a marked declaration, whatever their order. So is the name
that it is exported by, except for a default export, which is what the last declaration says.

- `Overload`, `overloads`: the declarations of one function in a module;
- `OnlyOverloads`: nothing else binds its name or exports by the same name;
- `Settled`, `settled_collect`: what a function is bound to and exported as, declaration by
  declaration;
- `calleeMarker?_of_declaration`, `calleeMarker?_of_imported`: calls by a name and through an
  export;
- `marked_overloads_win`: which declarations names stand for in the end, and which calls are marked.
-/

namespace Phrasebook.Program

open Source

namespace ModuleSymbols

/-! ## Declarations of functions -/

/-- How a declaration exports what it declares. -/
inductive Way where
  | unexported
  | byName
  | byDefault
deriving Repr, DecidableEq

/-- One declaration of a function. -/
structure Overload where
  way : Way
  /-- Only a function that is exported by default may have none. -/
  name : Option String
  /-- The comments in front of it, those before `export` included. -/
  comment : String
deriving Repr, DecidableEq

/-- Whether the comments carry a marker. -/
def Overload.isMarked (overload : Overload) : Bool := (Marker.ofComment? overload.comment).isSome

/-- The declaration of a function that an item is. -/
def overload? : Item → Option Overload
  | .statement (.functionDeclaration comment (some name) _) =>
    some ⟨.unexported, some name, joinComments [comment]⟩
  | .exporting before (.functionDeclaration comment (some name) _) =>
    some ⟨.byName, some name, joinComments [before, comment]⟩
  | .exportDefault before (.functionDeclaration comment name _) =>
    some ⟨.byDefault, name, joinComments [before, comment]⟩
  | _ => none

/-- The declarations of one function, in their order. -/
def overloads (items : List Item) (way : Way) (name : Option String) : List Overload :=
  (items.filterMap overload?).filter fun overload => overload.way = way ∧ overload.name = name

/-- The name that a function is exported by. -/
def exportedName : Way → Option String → Option String
  | .unexported, _ => none
  | .byName, name => name
  | .byDefault, _ => some "default"

/-- Whatever binds the name of a function, or exports by the name that it is exported by, is one of
its declarations, and all of these export it in the same way. -/
structure OnlyOverloads (items : List Item) (way : Way) (name : Option String) : Prop where
  bound : ∀ item ∈ items, ∀ id, name = some id → id ∈ boundNames item →
    ∃ overload, overload? item = some overload ∧ overload.way = way ∧ overload.name = name
  exported : ∀ item ∈ items, ∀ id, exportedName way name = some id → id ∈ exportedNames item →
    ∃ overload, overload? item = some overload ∧ overload.way = way ∧ overload.name = name

namespace Collection

variable {collection : Collection} {file : Nat} {item : Item}

/-! ## One declaration of a function -/

/-- Add a declaration of a function. -/
def addOverload (collection : Collection) (file : Nat) (overload : Overload) : Collection :=
  let index := collection.declarations.size
  let declared :=
    collection.declare file (overload.name.getD "default") .function overload.comment none
  let bound :=
    match overload.name with
    | some name => declared.bind name index (overload.way = .byName)
    | none => declared
  if overload.way = .byDefault then bound.exportDefault (.declaration index) else bound

theorem addItem_of_overload? {overload : Overload} (h : overload? item = some overload) :
    collection.addItem file item = collection.addOverload file overload := by
  unfold overload? at h
  split at h
  · cases h
    rfl
  · cases h
    rfl
  · rename_i before comment name body
    cases h
    cases name <;> rfl
  · cases h

theorem declarations_addOverload (overload : Overload) :
    (collection.addOverload file overload).declarations =
      (collection.declare file (overload.name.getD "default") .function overload.comment
        none).declarations := by
  unfold addOverload
  dsimp only
  split
  · split
    · exact declarations_bind ..
    · rfl
  · split
    · exact declarations_bind ..
    · rfl

theorem extends_addOverload (overload : Overload) :
    Extends collection (collection.addOverload file overload) := by
  rw [Extends, declarations_addOverload]
  exact extends_declare ..

/-- A default export comes behind the name of its function and changes no top-level name. -/
theorem locals_addOverload {overload : Overload} {id : String} (same : overload.name = some id) :
    (collection.addOverload file overload).symbols.locals =
      ((collection.declare file id .function overload.comment none).bind id
        collection.declarations.size (overload.way = .byName)).symbols.locals := by
  unfold addOverload
  rw [same]
  dsimp only [Option.getD]
  split <;> rfl

theorem exports_addOverload {overload : Overload} {id : String} (same : overload.name = some id)
    (byName : overload.way = .byName) :
    (collection.addOverload file overload).symbols.exports =
      ((collection.declare file id .function overload.comment none).bind id
        collection.declarations.size true).symbols.exports := by
  unfold addOverload
  rw [same, byName]
  rfl

/-- The new declaration is marked if its comments are. -/
theorem isMarked_addOverload (overload : Overload) :
    (collection.addOverload file overload).isMarked collection.declarations.size =
      overload.isMarked := by
  rw [isMarked, declarations_addOverload]
  simp [declare, Overload.isMarked]

end Collection

/-! ## All declarations of a function -/

/-- What the name of a function stands for, and what it is exported as, behind some of its
declarations. -/
structure Settled (collection : Collection) (way : Way) (name : Option String)
    (found : List Overload) : Prop where
  unbound : found = [] → ∀ id, name = some id → collection.symbols.locals.get? id = none
  bound : found ≠ [] → ∀ id, name = some id →
    ∃ index, index < collection.declarations.size ∧
      collection.symbols.locals.get? id = some (.declaration index) ∧
      collection.isMarked index = found.any Overload.isMarked ∧
      (way = .byName → collection.symbols.exports.get? id = some (.declaration index))
  exported : found ≠ [] → way = .byDefault →
    ∃ index, index < collection.declarations.size ∧
      collection.symbols.exports.get? "default" = some (.declaration index) ∧
      collection.isMarked index = found.getLast?.any Overload.isMarked

namespace Settled

variable {collection later : Collection} {way : Way} {name : Option String} {found : List Overload}
  {file : Nat}

/-- What does not concern the function leaves it as it is. -/
theorem unchanged (settled : Settled collection way name found)
    (grown : Collection.Extends collection later)
    (locals : ∀ id, name = some id →
      later.symbols.locals.get? id = collection.symbols.locals.get? id)
    (exports : ∀ id, exportedName way name = some id →
      later.symbols.exports.get? id = collection.symbols.exports.get? id) :
    Settled later way name found := by
  -- Declarations are only added, so indices stay valid.
  have longer : collection.declarations.size ≤ later.declarations.size := by
    simpa using List.IsPrefix.length_le grown
  refine ⟨fun none id same => ?_, fun some id same => ?_, fun some byDefault => ?_⟩
  · rw [locals id same]
    exact settled.unbound none id same
  · obtain ⟨index, known, bound, marked, exported⟩ := settled.bound some id same
    refine ⟨index, by omega, by rw [locals id same, bound], by rw [grown.isMarked known, marked],
      fun byName => ?_⟩
    rw [exports id (by rw [byName]; exact same)]
    exact exported byName
  · obtain ⟨index, known, exported, marked⟩ := settled.exported some byDefault
    refine ⟨index, by omega, ?_, by rw [grown.isMarked known, marked]⟩
    rw [exports "default" (by rw [byDefault]; rfl), exported]

/-- One more declaration is what the function stands for, unless a marked one came before and this
one is not marked. A default export is always the last one. -/
theorem addOverload {overload : Overload}
    (settled : Settled collection overload.way overload.name found) :
    Settled (collection.addOverload file overload) overload.way overload.name
      (found ++ [overload]) := by
  have new := @Collection.isMarked_addOverload collection file overload
  have size : collection.declarations.size <
      (collection.addOverload file overload).declarations.size := by
    rw [Collection.declarations_addOverload]
    simp [Collection.declare]
  refine ⟨fun none => absurd none (by simp), fun _ id same => ?_, fun _ byDefault => ?_⟩
  · have grown := @Collection.extends_addOverload collection file overload
    have locals := @Collection.locals_addOverload collection file overload id same
    have exports := @Collection.exports_addOverload collection file overload id same
    have declared : Collection.Extends collection
        (collection.declare file id .function overload.comment none) :=
      Collection.extends_declare ..
    -- The new declaration is marked just if this overload is.
    have marker : (collection.declare file id .function overload.comment none).isMarked
        collection.declarations.size = overload.isMarked := by
      simp [Collection.isMarked, Collection.declare, Overload.isMarked]
    rw [List.any_append, List.any_cons, List.any_nil, Bool.or_false]
    -- Either the old declaration stays bound, or the new one takes its place.
    rcases Collection.bind_cases (collection.declare file id .function overload.comment none) id
      collection.declarations.size (overload.way = .byName) with
      ⟨kept, unmarked, old, bound, -⟩ | ⟨rebound, only⟩
    · have some : found ≠ [] := by
        intro none
        have unbound := settled.unbound none id same
        rw [Collection.declare, unbound] at bound
        cases bound
      obtain ⟨index, known, bound, marked, exported⟩ := settled.bound some id same
      refine ⟨index, by omega, by rw [locals, kept]; exact bound, ?_, fun byName => ?_⟩
      · rw [grown.isMarked known, marked, ← marker, unmarked, Bool.or_false]
      · rw [decide_eq_true byName] at kept
        rw [exports byName, kept]
        exact exported byName
    · refine ⟨collection.declarations.size, size, ?_, ?_, fun byName => ?_⟩
      · rw [locals, rebound]
        exact OrderedMap.get?_insert_self
      · rw [new]
        -- If a marked declaration came before, the new one has replaced it for being marked.
        cases before : found.any Overload.isMarked with
        | false => rfl
        | true =>
          have some : found ≠ [] := by
            rintro rfl
            cases before
          obtain ⟨index, known, bound, marked, -⟩ := settled.bound some id same
          have again := only index bound (by rw [declared.isMarked known, marked, before])
          rw [← marker, again]
          rfl
      · rw [decide_eq_true byName] at rebound
        rw [exports byName, rebound]
        exact OrderedMap.get?_insert_self
  · -- A default export is the new declaration, whatever came before.
    refine ⟨collection.declarations.size, size, ?_, ?_⟩
    · unfold Collection.addOverload
      dsimp only
      rw [if_pos byDefault]
      exact OrderedMap.get?_insert_self
    · rw [new, List.getLast?_concat]
      rfl

end Settled

variable {items : List Item} {way : Way} {name : Option String}

theorem OnlyOverloads.of_append {later : List Item}
    (only : OnlyOverloads (items ++ later) way name) :
    OnlyOverloads items way name :=
  ⟨fun item among => only.bound item (List.mem_append_left _ among),
    fun item among => only.exported item (List.mem_append_left _ among)⟩

/-- Behind the whole module, all declarations of the function are settled. -/
theorem settled_collect (only : OnlyOverloads items way name) (file : Nat)
    (declarations : Array Declaration) :
    Settled (collect file items declarations) way name (overloads items way name) := by
  induction items using List.reverseRecOn with
  | nil => exact ⟨fun _ _ _ => rfl, fun some => absurd rfl some, fun some => absurd rfl some⟩
  | append_singleton items item ih =>
    have settled := ih only.of_append
    have last : item ∈ items ++ [item] := by simp
    unfold collect at settled ⊢
    rw [List.foldl_append, List.foldl_cons, List.foldl_nil]
    by_cases more : ∃ overload, overload? item = some overload ∧ overload.way = way ∧
        overload.name = name
    · obtain ⟨overload, found, rfl, rfl⟩ := more
      have split : overloads (items ++ [item]) overload.way overload.name =
          overloads items overload.way overload.name ++ [overload] := by
        simp [overloads, found]
      rw [split, Collection.addItem_of_overload? found]
      exact settled.addOverload
    · -- The item declares something else, and neither binds nor exports the same name.
      have same : overloads (items ++ [item]) way name = overloads items way name := by
        rw [overloads, overloads, List.filterMap_append, List.filter_append]
        cases found : overload? item with
        | none => simp [found]
        | some overload =>
          have other : ¬ (overload.way = way ∧ overload.name = name) := fun h =>
            more ⟨overload, found, h⟩
          simp [found, other]
      rw [same]
      exact settled.unchanged (Collection.extends_addItem item)
        (fun id named => Collection.locals_addItem_of_notMem fun bound =>
          more (only.bound item last id named bound))
        (fun id named => Collection.exports_addItem_of_notMem fun exported =>
          more (only.exported item last id named exported))

/-- Whether the export of a function is marked. Of a default export only the last declaration
counts. -/
def exportIsMarked : Way → List Overload → Bool
  | .byDefault, found => found.getLast?.any Overload.isMarked
  | .unexported, found | .byName, found => found.any Overload.isMarked

theorem Settled.exportedAs {collection : Collection} {found : List Overload} {exported : String}
    (settled : Settled collection way name found) (declared : found ≠ [])
    (named : exportedName way name = some exported) :
    ∃ index, index < collection.declarations.size ∧
      collection.symbols.exports.get? exported = some (.declaration index) ∧
      collection.isMarked index = exportIsMarked way found := by
  cases way with
  | unexported => cases named
  | byName =>
    obtain ⟨index, known, -, marked, target⟩ := settled.bound declared exported named
    exact ⟨index, known, target rfl, marked⟩
  | byDefault =>
    cases named
    exact settled.exported declared rfl

end ModuleSymbols

/-! ## Calls -/

open ModuleSymbols

variable {program : Program} {file other index start : Nat} {id exported : String}
  {unit : SourceUnit} {items : List Item} {way : Way} {name : Option String}

/-- A unit imports an export of another one under a name. -/
def ImportsAs (program : Program) (other : Nat) (id : String) (file : Nat) (exported : String) :
    Prop :=
  ∃ unit specifier, program.units[other]? = some unit ∧
    unit.symbols.locals.get? id = some (.imported specifier exported) ∧
    program.importedUnit? other specifier = some file

/-- What a unit exports itself is found without a search. -/
theorem exportSymbol?_of_direct {symbol : Symbol}
    (direct : program.directSymbol? exported file = some symbol) :
    program.exportSymbol? file exported = some symbol := by
  unfold exportSymbol?
  rw [run_searchExport, direct]
  rfl

theorem calleeMarker?_of_declaration (free : program.isShadowed file start = false)
    (h : program.localSymbol? file id = some (.declaration index)) :
    program.calleeMarker? file (.name start id) = program.markerOf? index :=
  calleeMarker?_of_resolved free h (resolveAlias_eq_declaration_iff.mpr .refl)

theorem calleeMarker?_of_imported (imports : program.ImportsAs other id file exported)
    (part : exported ≠ everything) (free : program.isShadowed other start = false)
    (direct : program.directSymbol? exported file = some (.declaration index)) :
    program.calleeMarker? other (.name start id) = program.markerOf? index := by
  obtain ⟨unit, specifier, here, bound, link⟩ := imports
  have found : program.localSymbol? other id = some (.alias other specifier exported) := by
    simp [localSymbol?, here, bound]
  have step : program.Follows (.alias other specifier exported) (.declaration index) := by
    unfold Follows step?
    simp only [link, if_neg part]
    exact exportSymbol?_of_direct direct
  exact calleeMarker?_of_resolved free found (resolveAlias_eq_declaration_iff.mpr (.single step))

/-- A declaration has the same marker in the program as in its module. -/
theorem isSome_markerOf? {collection : Collection}
    (kept : collection.declarations.toList <+: program.declarations.toList)
    (known : index < collection.declarations.size) :
    (program.markerOf? index).isSome = collection.isMarked index := by
  obtain ⟨more, same⟩ := kept
  have found : program.declarations[index]? = collection.declarations[index]? := by
    rw [← Array.getElem?_toList, ← same, List.getElem?_append_left (by simpa using known),
      Array.getElem?_toList]
  unfold markerOf? Collection.isMarked
  rw [found]
  cases collection.declarations[index]? <;> rfl

/-- Calls of a function in its own module are marked if any of its declarations is. -/
theorem isSome_calleeMarker?_of_overloads (collected : program.Collected)
    (only : OnlyOverloads unit.script.items way (some id))
    (declared : overloads unit.script.items way (some id) ≠ [])
    (here : program.units[file]? = some unit) (free : program.isShadowed file start = false) :
    (program.calleeMarker? file (.name start id)).isSome =
      (overloads unit.script.items way (some id)).any Overload.isMarked := by
  obtain ⟨declarations, symbols, kept⟩ := collected file unit here
  obtain ⟨index, known, bound, marked, -⟩ :=
    (settled_collect only file declarations).bound declared id rfl
  have found : program.localSymbol? file id = some (.declaration index) := by
    simp [localSymbol?, here, symbols, bound]
  rw [calleeMarker?_of_declaration free found, isSome_markerOf? kept known, marked]

/-- Calls of a function through its export are marked as the export is. -/
theorem isSome_calleeMarker?_of_exported (collected : program.Collected)
    (only : OnlyOverloads unit.script.items way name)
    (declared : overloads unit.script.items way name ≠ [])
    (here : program.units[file]? = some unit) (named : exportedName way name = some exported)
    (part : exported ≠ everything) (imports : program.ImportsAs other id file exported)
    (free : program.isShadowed other start = false) :
    (program.calleeMarker? other (.name start id)).isSome =
      exportIsMarked way (overloads unit.script.items way name) := by
  obtain ⟨declarations, symbols, kept⟩ := collected file unit here
  obtain ⟨index, known, target, marked⟩ :=
    (settled_collect only file declarations).exportedAs declared named
  have direct : program.directSymbol? exported file = some (.declaration index) :=
    directSymbol?_of_exports here (symbols ▸ target)
  rw [calleeMarker?_of_imported imports part free direct, isSome_markerOf? kept known, marked]

/-- Calls of a function through an export that stands for its name are marked if any of its
declarations is. -/
theorem isSome_calleeMarker?_of_listed {callee : String} (collected : program.Collected)
    (only : OnlyOverloads unit.script.items way (some id))
    (declared : overloads unit.script.items way (some id) ≠ [])
    (here : program.units[file]? = some unit)
    (listed : unit.symbols.exports.get? exported = some (.name id))
    (part : exported ≠ everything) (imports : program.ImportsAs other callee file exported)
    (free : program.isShadowed other start = false) :
    (program.calleeMarker? other (.name start callee)).isSome =
      (overloads unit.script.items way (some id)).any Overload.isMarked := by
  obtain ⟨declarations, symbols, kept⟩ := collected file unit here
  obtain ⟨index, known, bound, marked, -⟩ :=
    (settled_collect only file declarations).bound declared id rfl
  have direct : program.directSymbol? exported file = some (.declaration index) := by
    rw [directSymbol?_of_exports here listed]
    simp [targetSymbol?, localSymbol?, here, symbols, bound]
  rw [calleeMarker?_of_imported imports part free direct, isSome_markerOf? kept known, marked]

/-- If any declaration of a function carries a marker, its name stands for a declaration that does,
and so does the name that it is exported by. A default export is the last declaration instead, with
its marker or none. Calls that find the function by its name, or by an export, are marked in the
same way. -/
theorem marked_overloads_win (items : List Item) (way : Way) (name : Option String)
    (only : OnlyOverloads items way name) (declared : overloads items way name ≠ []) :
    (∀ file declarations,
      let collected := collect file items declarations
      (∀ id, name = some id → ∃ index,
        collected.symbols.locals.get? id = some (.declaration index) ∧
          collected.isMarked index = (overloads items way name).any Overload.isMarked) ∧
      ∀ exported, exportedName way name = some exported → ∃ index,
        collected.symbols.exports.get? exported = some (.declaration index) ∧
          collected.isMarked index = exportIsMarked way (overloads items way name)) ∧
    ∀ program : Program, program.Collected → ∀ (file : Nat) unit,
      program.units[file]? = some unit → unit.script.items = items →
      (∀ id start, name = some id → program.isShadowed file start = false →
        (program.calleeMarker? file (.name start id)).isSome =
          (overloads items way name).any Overload.isMarked) ∧
      ∀ other callee exported start, program.ImportsAs other callee file exported →
        exported ≠ everything → program.isShadowed other start = false →
        (exportedName way name = some exported →
          (program.calleeMarker? other (.name start callee)).isSome =
            exportIsMarked way (overloads items way name)) ∧
        ∀ id, name = some id → unit.symbols.exports.get? exported = some (.name id) →
          (program.calleeMarker? other (.name start callee)).isSome =
            (overloads items way name).any Overload.isMarked := by
  refine ⟨fun file declarations => ⟨fun id named => ?_, fun exported named => ?_⟩, ?_⟩
  · -- What the name is bound to and exported as follows from the items alone.
    obtain ⟨index, -, bound, marked, -⟩ :=
      (settled_collect only file declarations).bound declared id named
    exact ⟨index, bound, marked⟩
  · obtain ⟨index, -, target, marked⟩ :=
      (settled_collect only file declarations).exportedAs declared named
    exact ⟨index, target, marked⟩
  · -- Calls look the name up in the symbols of a unit with these items.
    rintro program collected file unit here rfl
    refine ⟨?_, fun other callee exported start imports part free => ⟨fun named => ?_, ?_⟩⟩
    · rintro id start rfl free
      exact isSome_calleeMarker?_of_overloads collected only declared here free
    · exact isSome_calleeMarker?_of_exported collected only declared here named part imports free
    · rintro id rfl listed
      exact isSome_calleeMarker?_of_listed collected only declared here listed part imports free

/-- A function with two declarations is exported by default, and only the first one is marked. -/
def markedFirst : List Item :=
  [.exportDefault "* I18NLOCTEXTSYMBOL " (.functionDeclaration "" (some "locText") default),
    .exportDefault "" (.functionDeclaration "" (some "locText") default)]

/-- An app imports the function. -/
def importingApp : List Item :=
  [.importing (.ofString "./i18n") [.named "locText" "default"] []]

/-- The program of both modules. -/
def halfMarked : Program :=
  let library := collect 0 markedFirst #[]
  let app := collect 1 importingApp library.declarations
  { units := #[
      { unitOf library.symbols [] with script := ⟨"", false, markedFirst⟩ },
      { unitOf app.symbols [("./i18n", 0)] with script := ⟨"", false, importingApp⟩ }]
    declarations := app.declarations
    faults := [] }

theorem collected_halfMarked : halfMarked.Collected := by
  intro file unit here
  match file with
  | 0 =>
    cases here
    exact ⟨#[], rfl, List.prefix_refl _⟩
  | 1 =>
    cases here
    exact ⟨(collect 0 markedFirst #[]).declarations, rfl, List.prefix_refl _⟩
  | _ + 2 => cases here

theorem onlyOverloads_markedFirst : OnlyOverloads markedFirst .byDefault (some "locText") := by
  have all (item : Item) (h : item ∈ markedFirst) : ∃ overload, overload? item = some overload ∧
      overload.way = .byDefault ∧ overload.name = some "locText" := by
    rcases List.mem_cons.mp h with rfl | h
    · exact ⟨_, rfl, rfl, rfl⟩
    · obtain rfl := List.mem_singleton.mp h
      exact ⟨_, rfl, rfl, rfl⟩
  exact ⟨fun item among _ _ _ => all item among, fun item among _ _ _ => all item among⟩

/-- The call of a marked function is recognized in its own module, but not in the app. -/
theorem locText_lost_by_default :
    (overloads markedFirst .byDefault (some "locText")).any Overload.isMarked = true ∧
      (halfMarked.calleeMarker? 0 (.name 0 "locText")).isSome = true ∧
      (halfMarked.calleeMarker? 1 (.name 0 "locText")).isSome = false := by
  have marked :
      (overloads markedFirst .byDefault (some "locText")).any Overload.isMarked = true := by
    decide +kernel
  obtain ⟨-, calls⟩ := marked_overloads_win markedFirst .byDefault (some "locText")
    onlyOverloads_markedFirst (by simp [overloads, overload?, markedFirst])
  obtain ⟨near, far⟩ := calls halfMarked collected_halfMarked 0 _ rfl rfl
  refine ⟨marked, (near "locText" 0 rfl rfl).trans marked, ?_⟩
  exact ((far 1 "locText" "default" 0 ⟨_, "./i18n", rfl, rfl, rfl⟩ (by decide) rfl).1 rfl).trans
    (by decide +kernel)

end Phrasebook.Program
