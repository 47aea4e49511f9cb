import Phrasebook.Program.Load

/-!
# What names stand for

Names of a module stand for declarations, for other modules, or for exports of other modules, which
are names again.

- `Symbol`: what a name stands for;
- `Program.localSymbol?`, `Program.exportSymbol?`: one step;
- `Program.resolveAlias`: all steps.
-/

namespace Phrasebook

/-- What a name stands for. -/
inductive Symbol where
  /-- A declaration, by its index. -/
  | declaration (index : Nat)
  /-- The export `imported` of the module that `specifier` stands for in a unit. -/
  | alias (file : Nat) (specifier imported : String)
  /-- A module as an object, by the index of its unit. -/
  | module (file : Nat)
deriving Repr, DecidableEq, Inhabited

namespace Program

/-- The name that stands for all exports of a module together. -/
def everything : String := "*"

/-- What a top-level name of a unit stands for. -/
def localSymbol? (program : Program) (file : Nat) (name : String) : Option Symbol := do
  match ← (← program.units[file]?).symbols.locals.get? name with
  | .declaration index => some (.declaration index)
  | .imported specifier exported => some (.alias file specifier exported)
  | .everything specifier =>
    match program.importedUnit? file specifier with
    | some target => some (.module target)
    | none => some (.alias file specifier everything)

/-- What a name that a unit exports itself stands for. -/
def targetSymbol? (program : Program) (file : Nat) : ExportTarget → Option Symbol
  | .declaration index => some (.declaration index)
  | .name id => program.localSymbol? file id
  | .reexport specifier exported => some (.alias file specifier exported)
  | .everything specifier => (program.importedUnit? file specifier).map .module

/-- Search for an exported name in a unit that was not visited yet, and then in the modules that it
exports again. The state holds the visited units; the number bounds the depth. -/
def searchExport (program : Program) (name : String) :
    Nat → Nat → StateM (List Nat) (Option Symbol)
  | 0, _ => return none
  | depth + 1, file => do
    if (← get).contains file then return none
    modify (file :: ·)
    match program.units[file]? with
    | none => return none
    | some unit =>
      match unit.symbols.exports.get? name with
      | some target => return program.targetSymbol? file target
      | none =>
        if name = "default" then return none
        let targets := unit.symbols.starExports.filterMap (program.importedUnit? file)
        firstFound (searchExport program name depth) targets
where
  /-- The first result that a search has for one of some units. -/
  firstFound (search : Nat → StateM (List Nat) (Option Symbol)) :
      List Nat → StateM (List Nat) (Option Symbol)
    | [] => return none
    | file :: rest => do
      match ← search file with
      | some found => return some found
      | none => firstFound search rest

/-- What an exported name of a unit stands for. What a unit exports itself comes before what it
exports again from other modules; `default` is never exported again that way. -/
def exportSymbol? (program : Program) (file : Nat) (name : String) : Option Symbol :=
  ((program.searchExport name (program.units.size + 1) file).run []).1

/-- What a symbol that stands for an export of another module stands for there. -/
def step? (program : Program) : Symbol → Option Symbol
  | .alias file specifier imported =>
    match program.importedUnit? file specifier with
    | none => none
    | some target =>
      if imported = everything then some (.module target)
      else program.exportSymbol? target imported
  | .declaration _ | .module _ => none

/-- Follow a symbol until it leads nowhere or to a symbol in `seen`; the number bounds the steps. -/
def follow (program : Program) : Nat → List Symbol → Symbol → Symbol
  | 0, _, symbol => symbol
  | steps + 1, seen, symbol =>
    if seen.contains symbol then symbol
    else
      match program.step? symbol with
      | none => symbol
      | some next => follow program steps (symbol :: seen) next

/-- The number of names that all units bind and export, of which each can stand for one alias. -/
def nameCount (program : Program) : Nat :=
  program.units.toList.foldl
    (fun total unit => total + unit.symbols.locals.size + unit.symbols.exports.size) 0

/-- What a symbol stands for in the end: a declaration, a module, or an alias that leads nowhere or
around in a circle. -/
def resolveAlias (program : Program) (symbol : Symbol) : Symbol :=
  program.follow (program.nameCount + 2) [] symbol

end Program

end Phrasebook
