import Phrasebook.Proofs.MarkedTexts
import Phrasebook.Proofs.Reconciling

/-!
# Tables that are read back

Where no text of a table holds a mark, a table that was written is read back as it was written, with
the same text around it.

- `Plain`: the table at a path holds no mark;
- `read_of_stored`: what is read where a table was written;
- `read_of_unwritten`, `read_of_lacks`: what a run of `reconcile` leaves to be read.
-/

namespace Phrasebook.Catalogue

variable {catalogue : Catalogue} {tree after : FileTree} {need : Need}

/-- The table at a path holds no mark in a key or a value, if it can be read. -/
def Plain (catalogue : Catalogue) (tree : FileTree) (path : Path) : Prop :=
  ∀ file, catalogue.read tree path = .ok (some file) →
    ∀ entry ∈ file.table.entries, TableFile.Unmarked entry.1 ∧ TableFile.Unmarked entry.2

instance (catalogue : Catalogue) (tree : FileTree) (path : Path) :
    Decidable (Plain catalogue tree path) :=
  match h : catalogue.read tree path with
  | .ok (some file) =>
    decidable_of_iff (∀ entry ∈ file.table.entries,
      TableFile.Unmarked entry.1 ∧ TableFile.Unmarked entry.2)
      ⟨fun all other found => by cases h.symm.trans found; exact all, fun plain => plain file h⟩
  | .ok none => isTrue fun file found => by cases h.symm.trans found
  | .error _ => isTrue fun file found => by cases h.symm.trans found

theorem plain_of_mem_needs {identities : List Identity} {languages : List String}
    (plain : ∀ identity ∈ identities, ∀ language ∈ languages,
      Plain catalogue tree (catalogue.filePath identity.space language))
    (here : need ∈ needs identities languages) : Plain catalogue tree (need.path catalogue) :=
  (@forall_needs_iff catalogue identities languages fun path _ => Plain catalogue tree path).mpr
    plain need here

/-- A table that is opened at such a path holds no mark. -/
theorem Plain.unmarked {path : Path} (plain : Plain catalogue tree path) {file : TableFile}
    {kind : ChangeKind} (opened : catalogue.openTable tree path = .ok (file, kind)) :
    ∀ entry ∈ file.table.entries, TableFile.Unmarked entry.1 ∧ TableFile.Unmarked entry.2 := by
  rcases read_of_openTable opened with found | ⟨-, rfl⟩
  · exact plain file found
  · exact List.forall_mem_nil _

/-- A table without marks stays so when keys without marks stand for themselves in it. -/
theorem clear_completed (plain : Plain catalogue tree (need.path catalogue))
    (keys : ∀ key ∈ need.keys, TableFile.Unmarked key) {file : TableFile} {kind : ChangeKind}
    (opened : catalogue.openTable tree (need.path catalogue) = .ok (file, kind)) :
    file.Clear (addMissing file.table need.keys).1 :=
  TableFile.clear_of_unmarked
    ((completed_addMissing file.table need.keys).1.all_known (plain.unmarked opened) keys) file

/-- A table is read back where it was written, unless a mark is in the way. -/
theorem read_of_stored {file : TableFile} {table : Table}
    (framed : ∃ lead gap trail tail, file.Framed lead gap trail tail) (clear : file.Clear table)
    (stored : Stored catalogue need (file.renderWith table) tree after) :
    catalogue.read after (need.path catalogue) =
      .ok (some ⟨file.before, table.toJson, file.after, table⟩) := by
  obtain ⟨lead, gap, trail, tail, framed⟩ := framed
  rw [read_eq, stored.find]
  dsimp only
  rw [TableFile.parse_renderWith framed clear]

section Reconciled

variable {needs : List Need}

/-- A table that has a text for every key is read as before. -/
theorem read_of_unwritten (regular : catalogue.Regular) (wf : tree.WellFormed)
    (valid : ∀ need ∈ needs, need.Valid) (distinct : needs.Pairwise Need.Apart)
    (changed : Changed catalogue
      (needs.filter fun need => (catalogue.reconcileTable tree need).change.isSome) tree after)
    (here : need ∈ needs) (none : (catalogue.reconcileTable tree need).change = none) :
    catalogue.read after (need.path catalogue) = catalogue.read tree (need.path catalogue) :=
  read_congr (find_of_unwritten regular wf valid distinct changed here none)

/-- A table that lacks a text is read with its keys standing for the missing texts. -/
theorem read_of_lacks
    (stored : ∀ change path text, (catalogue.reconcileTable tree need).change =
      some (change, path, text) → Stored catalogue need text tree after)
    (plain : Plain catalogue tree (need.path catalogue))
    (keys : ∀ key ∈ need.keys, TableFile.Unmarked key) {file : TableFile} {kind : ChangeKind}
    (opened : catalogue.openTable tree (need.path catalogue) = .ok (file, kind))
    (lacks : ∃ key ∈ need.keys, hasText file.table key = false) :
    catalogue.read after (need.path catalogue) =
      .ok (some ⟨file.before, (addMissing file.table need.keys).1.toJson, file.after,
        (addMissing file.table need.keys).1⟩) :=
  read_of_stored (framed_of_openTable opened) (clear_completed plain keys opened)
    (stored_of_lacks stored opened lacks)

end Reconciled

end Phrasebook.Catalogue
