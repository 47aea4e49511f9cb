import Phrasebook.Catalogue.Update

/-!
# Reconciling tables with a program

Every table that a program needs holds every key that it looks up; keys that it does not look up are
reported and kept.

- `Catalogue.unusedKeys`: the keys of a table that are not looked up;
- `Catalogue.orphans`: the same for tables of which no key is looked up;
- `Catalogue.reconcile`: all tables.
-/

namespace Phrasebook.Catalogue

/-- The keys of a table that are not looked up, as issues. -/
def unusedKeys (catalogue : Catalogue) (path : Path) (file : TableFile) (required : List String) :
    List Issue :=
  let unused := file.table.entries.filter fun (key, _) => !required.contains key
  unused.map fun (key, value) =>
    .unusedKey ⟨catalogue.display path, (file.keyLine? key).getD 1, 1, key, value⟩

/-- Bring a table up to date. -/
def reconcileTable (catalogue : Catalogue) (tree : FileTree) (need : Need) : Update :=
  let path := catalogue.filePath need.space need.language
  match catalogue.openTable tree path with
  | .error fault => ⟨[catalogue.malformed path fault], none⟩
  | .ok (file, kind) =>
    let issues := if kind = .updated then catalogue.unusedKeys path file need.keys else []
    let (table, added) := addMissing file.table need.keys
    catalogue.updateOf path issues { file with table } kind added 0

/-- What is wrong with the tables of other namespaces in the given languages: none of their keys is
looked up. -/
def orphans (catalogue : Catalogue) (tree : FileTree) (spaces languages : List String) :
    List Issue :=
  let orphaned := (catalogue.list tree).filter fun table =>
    !spaces.contains table.space && languages.contains table.language
  orphaned.flatMap fun table =>
    match catalogue.read tree table.path with
    | .ok (some file) =>
      catalogue.unusedKeys (catalogue.filePath table.space table.language) file []
    | .ok none => []
    | .error fault => [catalogue.malformed table.path fault]

/-- Bring all tables up to date. Files are only written if `apply` is set; what would change is told
in any case. -/
def reconcile (catalogue : Catalogue) (identities : List Identity) (languages : List String)
    (apply : Bool) : FileAction WriteFault Outcome := do
  let outcome ← catalogue.run apply catalogue.reconcileTable (needs identities languages)
  let orphans := catalogue.orphans (← get) (groups identities).keys languages
  return { outcome with issues := outcome.issues ++ orphans }

end Phrasebook.Catalogue
