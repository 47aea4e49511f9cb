import Phrasebook.Issue
import Phrasebook.Program.Imports
import Phrasebook.Program.Scope
import Phrasebook.Program.Symbols
import Phrasebook.Text.Position

/-!
# Programs

A program is made of some root files and of everything that they import.

- `Program.SourceUnit`: a file with its names and what it imports;
- `Program`: all units and their declarations;
- `Program.load`: reads the roots, then what these import, and so on;
- `Program.contextAt`: a place in a unit, as it is shown.
-/

namespace Phrasebook.Program

/-- A file of a program. -/
structure SourceUnit where
  path : Path
  /-- The path as it is shown. -/
  display : String
  script : Source.Script
  symbols : ModuleSymbols
  /-- The units that specifiers stand for. -/
  imports : OrderedMap String Nat
  /-- Whether the file is one of the roots. -/
  isRoot : Bool
  /-- The offsets of callees that are bound locally. -/
  shadowed : List Nat
deriving Inhabited

/-- Why a file is not part of a program. -/
inductive LoadFault where
  | unreadable (path : Path) (error : FileError)
  /-- The script is not understood. -/
  | notUnderstood (path : Path)
deriving Repr, DecidableEq

/-- The words for a fault; what exactly is not understood is left open. -/
def LoadFault.message : LoadFault → String
  | .unreadable path error => "Failed to read " ++ path.text ++ ": " ++ error.message
  | .notUnderstood path => "Failed to parse " ++ path.text ++ ": \"...\""

end Phrasebook.Program

namespace Phrasebook

/-- The units of a program, in the order in which they were found, and all their declarations. -/
structure Program where
  units : Array Program.SourceUnit
  declarations : Array Program.Declaration
  /-- The files that could not be read, as they are shown, and why. -/
  faults : List (String × Program.LoadFault)
deriving Inhabited

namespace Program

/-! ### Views -/

/-- The root units with their indices. -/
def roots (program : Program) : List (Nat × SourceUnit) :=
  (program.units.toList.zipIdx.map fun (unit, index) => (index, unit)).filter fun (_, unit) =>
    unit.isRoot

/-- The unit that a specifier stands for in a unit. -/
def importedUnit? (program : Program) (file : Nat) (specifier : String) : Option Nat := do
  (← program.units[file]?).imports.get? specifier

/-- The class members with the given name. -/
def membersNamed (program : Program) (name : String) : List Nat :=
  (program.declarations.toList.zipIdx.filter fun (declaration, _) =>
    declaration.kind == .member && declaration.name == name).map Prod.snd

/-- The marker of a declaration. -/
def markerOf? (program : Program) (declaration : Nat) : Option Marker :=
  program.declarations[declaration]?.bind Declaration.marker

/-- Whether any declaration looks keys up. -/
def hasLookups (program : Program) : Bool :=
  program.declarations.any fun declaration => declaration.marker.any Marker.isLookup

/-- The files that could not be read, as issues. -/
def parseErrors (program : Program) : List Issue :=
  program.faults.map fun (file, fault) => .parseError file fault.message

/-- A place in a unit with its line. -/
def contextAt (program : Program) (file offset : Nat) : SourceContext :=
  match program.units[file]? with
  | none => default
  | some unit =>
    let position := Text.Position.find unit.script.body offset
    ⟨unit.display, position.line, position.indent + 1, position.lineText⟩

/-! ### Loading -/

/-- Read a file as a script. -/
def readScript (tree : FileTree) (path : Path) : Except LoadFault Source.Script :=
  match Imports.read tree path with
  | .error error => .error (.unreadable path error)
  | .ok text =>
    match Source.Script.read? path.text text with
    | none => .error (.notUnderstood path)
    | some script => .ok script

/-- Add a file to a program. -/
def addFile (tree : FileTree) (root : Path) (isRoot : Bool) (program : Program) (path : Path) :
    Program :=
  let display := path.display root
  match readScript tree path with
  | .error fault => { program with faults := program.faults ++ [(display, fault)] }
  | .ok script =>
    let file := program.units.size
    let collection := ModuleSymbols.collect file script.items program.declarations
    let unit := {
      path, display, script, isRoot
      symbols := collection.symbols
      imports := .empty
      shadowed := shadowedCallees script.nodes }
    { program with units := program.units.push unit, declarations := collection.declarations }

/-- The files that the specifiers of a unit stand for. -/
def targets (tree : FileTree) (unit : SourceUnit) : List (String × Path) :=
  unit.symbols.specifiers.filterMap fun specifier =>
    (Imports.resolve? tree unit.path specifier).map fun target => (specifier, target)

/-- Put those of some paths that are new at the end of the known paths and of the waiting ones. -/
def enqueue (known waiting : List Path) : List Path → List Path × List Path
  | [] => (known, waiting)
  | path :: rest =>
    if known.any path.same then enqueue known waiting rest
    else enqueue (known ++ [path]) (waiting ++ [path]) rest

/-- Add the waiting files to a program, then the files that these import, and so on. The number
bounds the rounds. -/
def loadRounds (tree : FileTree) (root : Path) :
    Nat → Bool → List Path → List Path → Program → Program
  | 0, _, _, _, program => program
  | rounds + 1, isRoot, known, waiting, program =>
    if waiting.isEmpty then program
    else
      let first := program.units.size
      let program := waiting.foldl (addFile tree root isRoot) program
      let fresh := (program.units.toList.drop first).flatMap fun unit =>
        (targets tree unit).map Prod.snd
      let (known, next) := enqueue known [] fresh
      loadRounds tree root rounds false known next program

/-- Say which units the specifiers of a unit stand for. -/
def linkUnit (tree : FileTree) (units : Array SourceUnit) (unit : SourceUnit) : SourceUnit :=
  let linked := (targets tree unit).filterMap fun (specifier, target) =>
    (units.findIdx? fun other => other.path.same target).map fun index => (specifier, index)
  { unit with imports := OrderedMap.ofList linked }

/-- The program of some root files after so many rounds at most, shown as seen from `root`. -/
def loadWithin (rounds : Nat) (tree : FileTree) (root : Path) (roots : List Path) : Program :=
  let (known, waiting) := enqueue [] [] (roots.map Path.normalize)
  let program := loadRounds tree root.normalize rounds true known waiting ⟨#[], #[], []⟩
  { program with units := program.units.map (linkUnit tree program.units) }

/-- More rounds than find anything new. A file has one path in normal form from the root and one
from the current folder, each behind so many steps up as a path can hold. -/
def roundLimit (tree : FileTree) : Nat := 2 * (Imports.pathLimit + 1) * tree.entries.size + 1

/-- The program of some root files, shown as seen from `root`. Every file is read once, roots first
and then round by round what the files of the round before import. -/
def load (tree : FileTree) (root : Path) (roots : List Path) : Program :=
  loadWithin (roundLimit tree) tree root roots

end Program

end Phrasebook
