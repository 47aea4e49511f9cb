import Phrasebook.Catalogue
import Phrasebook.Catalogue.Change
import Phrasebook.Issue

/-!
# Updates of a catalogue

A run over the tables that a program needs, one by one: each is looked at, and its file is written
if anything about it is new.

- `Catalogue.Need`, `Catalogue.needs`: the tables that are needed, and the keys in each;
- `Catalogue.Update`: what is found and done about one of them;
- `Catalogue.addMissing`: keys without a text get a placeholder;
- `Catalogue.run`: all updates in turn.
-/

namespace Phrasebook.Catalogue

/-! ### Needs -/

/-- A table that is needed, and the keys that it has to hold. -/
structure Need where
  space : String
  language : String
  keys : List String
deriving Repr, DecidableEq, Inhabited

/-- The keys of each namespace, namespaces and keys in the order of the identities. -/
def groups (identities : List Identity) : OrderedMap String (List String) :=
  identities.foldl
    (fun groups identity =>
      let known := (groups.get? identity.space).getD []
      groups.insert identity.space (known ++ [identity.key]))
    .empty

/-- The tables that are needed: each namespace in each language. -/
def needs (identities : List Identity) (languages : List String) : List Need :=
  (groups identities).entries.flatMap fun (space, keys) =>
    languages.map fun language => ⟨space, language, keys⟩

/-! ### Tables -/

/-- A table that cannot be read, as an issue. -/
def malformed (catalogue : Catalogue) (path : Path) (fault : TableReadFault) : Issue :=
  .malformedTable (catalogue.display path) fault.message

/-- The table in a file, or a new one if there is no such file. -/
def openTable (catalogue : Catalogue) (tree : FileTree) (path : Path) :
    Except TableReadFault (TableFile × ChangeKind) := do
  match ← catalogue.read tree path with
  | some file => return (file, .updated)
  | none => return (.scaffold, .created)

/-- Whether a key has a text that is not empty. -/
def hasText (table : Table) (key : String) : Bool :=
  (table.get? key).any fun value => !value.isEmpty

/-- Give a placeholder to each key that has no text, and count them. -/
def addMissing (table : Table) (keys : List String) : Table × Nat :=
  keys.foldl
    (fun (table, added) key =>
      if hasText table key then (table, added) else (table.insert key key, added + 1))
    (table, 0)

/-! ### Updates -/

/-- What is found about a table, and its file as it should be if anything about it is new. -/
structure Update where
  issues : List Issue
  change : Option (FileChange × Path × String)

/-- What a run has changed and found. -/
structure Outcome where
  changes : List FileChange
  issues : List Issue
deriving Inhabited

/-- The update of a table that has `added` new keys and `translated` new texts. -/
def updateOf (catalogue : Catalogue) (path : Path) (issues : List Issue) (file : TableFile)
    (kind : ChangeKind) (added translated : Nat) : Update :=
  if added = 0 && translated = 0 then ⟨issues, none⟩
  else ⟨issues, some (⟨catalogue.display path, kind, added, translated⟩, path, file.render)⟩

/-- Add an update to an outcome, and write its file if `apply` is set. -/
def record (catalogue : Catalogue) (apply : Bool) (outcome : Outcome) (update : Update) :
    FileAction WriteFault Outcome := do
  let issues := outcome.issues ++ update.issues
  match update.change with
  | none => return { outcome with issues }
  | some (change, path, text) =>
    if apply then catalogue.write path text
    return ⟨outcome.changes ++ [change], issues⟩

/-- Look at each table that is needed, in the tree as the tables before it have left it. -/
def run (catalogue : Catalogue) (apply : Bool) (update : FileTree → Need → Update)
    (needs : List Need) : FileAction WriteFault Outcome :=
  needs.foldlM
    (fun outcome need => do catalogue.record apply outcome (update (← get) need)) ⟨[], []⟩

end Phrasebook.Catalogue
