import Phrasebook.Program.Alias

/-!
# Callees

- `Program.calleeDeclarations`: the declarations that a callee can refer to;
- `Program.calleeMarker?`: the role that they give to a call.
-/

namespace Phrasebook.Program

open Source

/-- The declaration that a symbol stands for in the end. -/
def declarationOf? (program : Program) (symbol : Symbol) : Option Nat :=
  match program.resolveAlias symbol with
  | .declaration index => some index
  | _ => none

/-- Whether the name at an offset of a unit is bound locally. -/
def isShadowed (program : Program) (file start : Nat) : Bool :=
  match program.units[file]? with
  | some unit => unit.shadowed.contains start
  | none => false

/-- The module that an object stands for. -/
def moduleOf? (program : Program) (file : Nat) (owner : Node) : Option Nat :=
  match owner with
  | .name start id =>
    if program.isShadowed file start then none
    else
      match (program.localSymbol? file id).map program.resolveAlias with
      | some (.module target) => some target
      | _ => none
  | _ => none

/-- The declarations that a property of an object can refer to: the export of the module that the
object stands for, and otherwise all class members with that name. -/
def propertyDeclarations (program : Program) (file : Nat) (owner : Node) (name : String) :
    List Nat :=
  match program.moduleOf? file owner with
  | some target => ((program.exportSymbol? target name).bind program.declarationOf?).toList
  | none => program.membersNamed name

/-- The declarations that a callee can refer to. A name that is bound locally refers to none. -/
def calleeDeclarations (program : Program) (file : Nat) : Node → List Nat
  | .paren inner | .nonNull inner => program.calleeDeclarations file inner
  | .name start id =>
    if program.isShadowed file start then []
    else ((program.localSymbol? file id).bind program.declarationOf?).toList
  | .member owner (some name) => program.propertyDeclarations file owner name
  | .element owner (.text _ _ literal) =>
    match literal.text? with
    | some name => program.propertyDeclarations file owner name
    | none => []
  | _ => []

/-- The role of the first marked declaration that a callee can refer to. -/
def calleeMarker? (program : Program) (file : Nat) (callee : Node) : Option Marker :=
  (program.calleeDeclarations file callee).findSome? program.markerOf?

end Phrasebook.Program
