import Phrasebook.Marker
import Phrasebook.OrderedMap
import Phrasebook.Source.Script

/-!
# Symbols of a module

The declarations of a module that can carry a marker, and what its top-level and exported names
stand for.

- `Declaration`: a function, class, variable or class member with its comments;
- `LocalBinding`, `ExportTarget`: what names stand for;
- `ModuleSymbols.collect`: reading both off the items of a module.
-/

namespace Phrasebook.Program

open Source

/-- What is declared. -/
inductive DeclarationKind where
  | function
  | classType
  | variable
  /-- A method or property of a class. -/
  | member
deriving Repr, DecidableEq, Inhabited

/-- A named declaration of a program. -/
structure Declaration where
  name : String
  kind : DeclarationKind
  /-- The index of the file. -/
  file : Nat
  /-- The comments in front of it, those before `export` included. -/
  comment : String
  marker : Option Marker
  /-- The index of the class that a member belongs to. -/
  owner : Option Nat
deriving Repr, DecidableEq, Inhabited

/-- What a top-level name of a module stands for. -/
inductive LocalBinding where
  /-- A declaration, by its index. -/
  | declaration (index : Nat)
  /-- An export of another module. -/
  | imported (specifier exported : String)
  /-- Another module as an object. -/
  | everything (specifier : String)
deriving Repr, DecidableEq, Inhabited

/-- What an exported name of a module stands for. -/
inductive ExportTarget where
  /-- A declaration, by its index. -/
  | declaration (index : Nat)
  /-- A top-level name of the module. -/
  | name (id : String)
  /-- An export of another module. -/
  | reexport (specifier exported : String)
  /-- Another module as an object. -/
  | everything (specifier : String)
deriving Repr, DecidableEq, Inhabited

/-- The names of a module. -/
structure ModuleSymbols where
  /-- What the top-level names stand for. -/
  locals : OrderedMap String LocalBinding
  /-- What the exported names stand for. -/
  exports : OrderedMap String ExportTarget
  /-- The modules whose exports are all exported again, in source order. -/
  starExports : List String
  /-- The modules that this one refers to, in source order. -/
  specifiers : List String
deriving Inhabited

namespace ModuleSymbols

/-- The symbols of an empty module. -/
def empty : ModuleSymbols := ⟨.empty, .empty, [], []⟩

/-- The state of the collection: all declarations so far, and the names of the module. -/
structure Collection where
  declarations : Array Declaration
  symbols : ModuleSymbols
deriving Inhabited

/-- Comments of several places, joined by line feeds; empty ones are left out. -/
def joinComments (comments : List String) : String :=
  "\n".intercalate (comments.filter fun comment => !comment.isEmpty)

namespace Collection

/-- Add a declaration. -/
def declare (collection : Collection) (file : Nat) (name : String) (kind : DeclarationKind)
    (comment : String) (owner : Option Nat) : Collection :=
  let marker := Marker.ofComment? comment
  { collection with
    declarations := collection.declarations.push { name, kind, file, comment, marker, owner } }

/-- Whether the declaration at `index` carries a marker. -/
def isMarked (collection : Collection) (index : Nat) : Bool :=
  match collection.declarations[index]? with
  | some declaration => declaration.marker.isSome
  | none => false

/-- Bind a top-level name to the declaration at `index`. Signatures of one function share a name,
and a marked one is not given up for one without a marker. -/
def bind (collection : Collection) (name : String) (index : Nat) (exported : Bool) : Collection :=
  let keepsOld :=
    match collection.symbols.locals.get? name with
    | some (.declaration old) => collection.isMarked old && !collection.isMarked index
    | _ => false
  if keepsOld then collection
  else
    let symbols := collection.symbols
    { collection with
      symbols := { symbols with
        locals := symbols.locals.insert name (.declaration index)
        exports :=
          if exported then symbols.exports.insert name (.declaration index) else symbols.exports } }

/-- Add a member of the class at `owner`, if `node` is one with a name. -/
def addMember (file owner : Nat) (collection : Collection) (node : Node) : Collection :=
  match node with
  | .classMember comments (some name) _ =>
    collection.declare file name .member (joinComments comments) (some owner)
  | _ => collection

/-- Add a class with its members. -/
def addClass (collection : Collection) (file : Nat) (name comment : String) (body : Node) :
    Collection :=
  let owner := collection.declarations.size
  let declared := collection.declare file name .classType comment none
  match body with
  | .classBody members _ => members.foldl (addMember file owner) declared
  | _ => declared

/-- Add a variable, if the declarator binds a plain name. -/
def addVariable (file : Nat) (comment : String) (exported : Bool) (collection : Collection)
    (node : Node) : Collection :=
  match node with
  | .declarator target _ =>
    match target.plainName? with
    | some name =>
      let index := collection.declarations.size
      (collection.declare file name .variable comment none).bind name index exported
    | none => collection
  | _ => collection

/-- Add a declaration behind the comments `before`. -/
def addDeclaration (collection : Collection) (file : Nat) (before : List String)
    (exported : Bool) (node : Node) : Collection :=
  let index := collection.declarations.size
  match node with
  | .functionDeclaration comment (some name) _ =>
    let comment := joinComments (before ++ [comment])
    (collection.declare file name .function comment none).bind name index exported
  | .classDeclaration comment (some name) body =>
    let comment := joinComments (before ++ [comment])
    (collection.addClass file name comment body).bind name index exported
  | .variables comment _ declarators =>
    declarators.foldl (addVariable file (joinComments (before ++ [comment])) exported) collection
  | _ => collection

/-- Set what the default export stands for. -/
def exportDefault (collection : Collection) (target : ExportTarget) : Collection :=
  let symbols := collection.symbols
  { collection with
    symbols := { symbols with exports := symbols.exports.insert "default" target } }

/-- Add the function or class that a module exports by default. -/
def addDefault (collection : Collection) (file : Nat) (before : String) (node : Node) :
    Collection :=
  let index := collection.declarations.size
  match node with
  | .functionDeclaration comment name _ =>
    let comment := joinComments [before, comment]
    let declared := collection.declare file (name.getD "default") .function comment none
    let bound :=
      match name with
      | some name => declared.bind name index false
      | none => declared
    bound.exportDefault (.declaration index)
  | .classDeclaration comment name body =>
    let comment := joinComments [before, comment]
    let declared := collection.addClass file (name.getD "default") comment body
    let bound :=
      match name with
      | some name => declared.bind name index false
      | none => declared
    bound.exportDefault (.declaration index)
  | _ => collection

/-- Add a module that this one refers to. -/
def refer (collection : Collection) (specifier : String) : Collection :=
  let symbols := collection.symbols
  { collection with
    symbols := { symbols with specifiers := symbols.specifiers ++ [specifier] } }

/-- Bind an imported name. -/
def addImport (specifier : String) (collection : Collection) (binding : ImportBinding) :
    Collection :=
  let symbols := collection.symbols
  let locals :=
    match binding with
    | .named id exported => symbols.locals.insert id (.imported specifier exported)
    | .everything id => symbols.locals.insert id (.everything specifier)
  { collection with symbols := { symbols with locals } }

/-- Bind a name of an export list. -/
def addExport (source : Option String) (collection : Collection) (binding : ExportBinding) :
    Collection :=
  let symbols := collection.symbols
  let exports :=
    match binding, source with
    | .named id exported, some specifier =>
      symbols.exports.insert exported (.reexport specifier id)
    | .named id exported, none => symbols.exports.insert exported (.name id)
    | .everything exported, some specifier =>
      symbols.exports.insert exported (.everything specifier)
    | .everything _, none => symbols.exports
  { collection with symbols := { symbols with exports } }

/-- Add everything that an item declares, imports or exports. -/
def addItem (file : Nat) (collection : Collection) (item : Item) : Collection :=
  match item with
  | .statement node => collection.addDeclaration file [] false node
  | .importing specifier bindings _ =>
    match specifier.text? with
    | some specifier => bindings.foldl (addImport specifier) (collection.refer specifier)
    | none => collection
  | .exporting comment node => collection.addDeclaration file [comment] true node
  | .exportList bindings specifier _ =>
    let source := specifier.bind Literal.text?
    let referred :=
      match source with
      | some specifier => collection.refer specifier
      | none => collection
    bindings.foldl (addExport source) referred
  | .exportAll specifier _ =>
    match specifier.text? with
    | some specifier =>
      let referred := collection.refer specifier
      let symbols := referred.symbols
      { referred with
        symbols := { symbols with starExports := symbols.starExports ++ [specifier] } }
    | none => collection
  | .exportDefault comment node => collection.addDefault file comment node
  | .exportValue (.name _ id) => collection.exportDefault (.name id)
  | .exportValue _ => collection

end Collection

/-- The symbols of a module, and `declarations` with its own declarations at the end. -/
def collect (file : Nat) (items : List Item) (declarations : Array Declaration) : Collection :=
  items.foldl (Collection.addItem file) ⟨declarations, empty⟩

end ModuleSymbols

end Phrasebook.Program
