import Phrasebook.Numbering
import Phrasebook.Text.Edit

/-!
# Using numbers

Sources and tables with numbers in place of the keys of all texts that every language has.

- `Numbering.CallOutcome`: what is done about a call;
- `Numbering.numberProgram`: the root files of a program;
- `Numbering.numberTable`: a table file.
-/

namespace Phrasebook

open Source

/-- A root file with numbers in place of keys. -/
structure NumberedFile where
  /-- The path as it is shown. -/
  display : String
  content : String
  /-- The number of calls that use a number now. -/
  replaced : Nat

/-- The root files with numbers in place of keys. -/
structure NumberedProgram where
  files : List NumberedFile
  /-- The number of calls that use a number now. -/
  replaced : Nat
  /-- The number of calls that use their key still, since some language does not have the text. -/
  kept : Nat
  issues : List Issue

namespace Numbering

/-- What is done about a call. -/
inductive CallOutcome where
  | edited (edit : Text.Edit)
  | kept
  | notFound (issue : Issue)

/-- What is done about a node of a unit; nothing about what looks nothing up, nor about lookups
without an identity. -/
def nodeOutcome? (program : Program) (numbering : Numbering) (file : Nat) (node : Node) :
    Option CallOutcome :=
  match node with
  | .call start callee arguments =>
    match LookupCall.classify program file callee arguments with
    | some (.ok lookup) =>
      match numbering.find lookup.identity with
      | .mature ordinal => some (.edited ⟨lookup.keyStart, lookup.keyStop, toString ordinal⟩)
      | .immature _ => some .kept
      | .missing =>
        some (.notFound (.keyNotFound (program.contextAt file start) lookup.identity))
    | _ => none
  | _ => none

/-- What is done about the nodes of a unit. -/
def callOutcomes (program : Program) (numbering : Numbering) (file : Nat)
    (unit : Program.SourceUnit) : List CallOutcome :=
  (Node.preorderAll unit.script.nodes).filterMap (nodeOutcome? program numbering file)

/-- The edits among outcomes. -/
def editsOf (outcomes : List CallOutcome) : List Text.Edit :=
  outcomes.filterMap fun outcome =>
    match outcome with
    | .edited edit => some edit
    | _ => none

/-- The issues among outcomes. -/
def issuesOf (outcomes : List CallOutcome) : List Issue :=
  outcomes.filterMap fun outcome =>
    match outcome with
    | .notFound issue => some issue
    | _ => none

/-- The number of calls among outcomes that keep their key. -/
def keptCount (outcomes : List CallOutcome) : Nat :=
  outcomes.countP fun outcome =>
    match outcome with
    | .kept => true
    | _ => false

/-- A unit with edits made. -/
def numberUnit (unit : Program.SourceUnit) (edits : List Text.Edit) : NumberedFile :=
  let mark := if unit.script.hasMark then "\ufeff" else ""
  ⟨unit.display, mark ++ Text.applyEdits unit.script.text edits, edits.length⟩

/-- The root files of a program with numbers in place of the keys of texts that every language has.
Calls of texts that no table holds are issues. -/
def numberProgram (numbering : Numbering) (program : Program) : NumberedProgram :=
  let results := program.roots.map fun (file, unit) =>
    (unit, callOutcomes program numbering file unit)
  let outcomes := results.flatMap Prod.snd
  { files := results.map fun (unit, outcomes) => numberUnit unit (editsOf outcomes)
    replaced := (editsOf outcomes).length
    kept := keptCount outcomes
    issues := issuesOf outcomes }

/-- A table with numbers in place of the keys of texts that every language has. -/
def numberEntries (numbering : Numbering) (space : String) (table : Table) : Table :=
  OrderedMap.ofList (table.entries.map fun (key, value) => (numbering.keyOf ⟨space, key⟩, value))

/-- The text of a table file with numbers in place of the keys of texts that every language has. -/
def numberTable (numbering : Numbering) (space : String) (file : TableFile) : String :=
  file.renderWith (numbering.numberEntries space file.table)

end Numbering

end Phrasebook
