import Phrasebook.Proofs.Listing
import Phrasebook.Proofs.Reconciling

/-!
# Checking before reconciling

A run that only checks tells what a run that writes is going to do. The run that writes changes the
folder that it lists in the end, but the files that are new there are tables of needed namespaces,
and no others are told of.

- `orphans_of_changed`: tables of other namespaces are told of as before;
- `due`: the files that are to be written;
- `check_predicts_reconcile`: a check tells what a run does.
-/

namespace Phrasebook.Catalogue

variable {catalogue : Catalogue} {tree after : FileTree}

/-! ## Tables of other namespaces -/

section Unneeded

variable {needs : List Need} {spaces : List String} {name space language : String}

/-- The file of a table of another namespace is none of those that were written. -/
theorem entryAt?_of_unneeded (regular : catalogue.Regular)
    (valid : ∀ need ∈ needs, need.Valid)
    (known : ∀ need ∈ needs, need.space ∈ spaces ∧ '.' ∉ need.language.toList)
    (changed : Changed catalogue needs tree after)
    (told : catalogue.nameParts? name = some (space, language)) (other : space ∉ spaces) :
    after.entryAt? (catalogue.folder.destination tree.here ++ [name]) =
      tree.entryAt? (catalogue.folder.destination tree.here ++ [name]) := by
  have elsewhere (need : Need) (h : need ∈ needs) :
      catalogue.folder.destination tree.here ++ [name] ≠ need.place catalogue tree.here := by
    intro same
    unfold Need.place at same
    rw [place_eq regular (valid need h)] at same
    obtain ⟨used, clean⟩ := known need h
    rw [List.singleton_inj.mp (List.append_cancel_left same), nameParts?_fileName clean] at told
    split at told
    · cases told
    · cases told
      exact other used
  -- The place is no folder above a table either, since it is too deep for that.
  rcases changed.kept _ elsewhere with same | ⟨onWay, -, -⟩
  · exact same
  · have long := onWay.length_le
    rw [List.length_append, List.length_singleton] at long
    omega

/-- The folder of the tables has the same names of tables of other namespaces. -/
theorem mem_namesIn_of_unneeded (regular : catalogue.Regular) (wf : tree.WellFormed)
    (changed : Changed catalogue needs tree after)
    (same : after.entryAt? (catalogue.folder.destination tree.here ++ [name]) =
      tree.entryAt? (catalogue.folder.destination tree.here ++ [name])) :
    name ∈ after.namesIn catalogue.folder ↔ name ∈ tree.namesIn catalogue.folder := by
  rw [FileTree.mem_namesIn_iff changed.wellFormed, FileTree.mem_namesIn_iff wf]
  constructor
  · -- What was there already has its folder, so the folder was not made by the run.
    rintro ⟨folder, entry, located, found⟩
    have arrived := FileTree.locate_eq_ok located
    rw [changed.here] at arrived
    rw [arrived, same] at found
    have above := wf.above _ _ found
    rw [List.dropLast_concat, ← arrived] at above
    exact ⟨folder, entry, FileTree.locate_congr wf regular.direct changed.here above
      (fun _ => above) located, arrived ▸ found⟩
  · rintro ⟨folder, entry, located, found⟩
    have arrived := FileTree.locate_eq_ok located
    rw [arrived, ← same] at found
    exact ⟨folder, entry, FileTree.locate_of_folders changed.here changed.folders located,
      arrived ▸ found⟩

/-- What is said about the tables of other namespaces does not depend on whether needed tables were
written before. -/
theorem orphans_of_changed (regular : catalogue.Regular) (wf : tree.WellFormed)
    (spelled : tree.Spelled) (valid : ∀ need ∈ needs, need.Valid)
    (known : ∀ need ∈ needs, need.space ∈ spaces ∧ '.' ∉ need.language.toList)
    (changed : Changed catalogue needs tree after) (languages : List String) :
    catalogue.orphans after spaces languages = catalogue.orphans tree spaces languages := by
  have same {name space language : String}
      (told : catalogue.nameParts? name = some (space, language)) (other : space ∉ spaces)
      (here : name ∈ tree.namesIn catalogue.folder) :
      catalogue.orphansAt after spaces languages name =
        catalogue.orphansAt tree spaces languages name := by
    have forward := forward_of_nameParts? told
    have clean := spelled.notMem wf here
    refine orphansAt_congr fun entry => ?_
    refine FileTree.find_congr changed.wellFormed wf
      (regular.direct.join clean forward.2) changed.here.symm ?_
    rw [Path.destination_join clean forward.1 forward.2, changed.here]
    exact entryAt?_of_unneeded regular valid known changed told other
  rw [orphans_eq_flatMap, orphans_eq_flatMap]
  -- Names that the run has added are those of needed tables, of which nothing is told.
  refine flatMap_mergeSort_congr (FileTree.nodup_namesIn _ _) (FileTree.nodup_namesIn _ _)
    (fun name here some => ?_) fun name here some => ?_
  · obtain ⟨space, language, told, other, -⟩ := nameParts?_of_orphansAt some
    have kept := (mem_namesIn_of_unneeded regular wf changed
      (entryAt?_of_unneeded regular valid known changed told other)).mp here
    exact ⟨kept, same told other kept⟩
  · obtain ⟨space, language, told, other, -⟩ := nameParts?_of_orphansAt some
    refine ⟨(mem_namesIn_of_unneeded regular wf changed ?_).mpr here, same told other here⟩
    exact entryAt?_of_unneeded regular valid known changed told other

end Unneeded

/-! ## What is due -/

/-- The files that are to be written, with what is told about them. -/
def due (catalogue : Catalogue) (tree : FileTree) (identities : List Identity)
    (languages : List String) : List (FileChange × Path × String) :=
  (needs identities languages).filterMap fun need => (catalogue.reconcileTable tree need).change

/-- A check tells what a run that writes tells, if that run succeeds. The run writes the files that
it tells of, one after the other, and no others. -/
theorem check_predicts_reconcile (regular : catalogue.Regular) (wf : tree.WellFormed)
    (spelled : tree.Spelled) {identities : List Identity} {languages : List String}
    (spaces : ∀ identity ∈ identities, LookupCall.isValidSpace identity.space = true)
    (tags : ∀ language ∈ languages, '.' ∉ language.toList ∧ '/' ∉ language.toList)
    (distinct : languages.Nodup) {outcome : Outcome}
    (h : (catalogue.reconcile identities languages true).run tree = (.ok outcome, after)) :
    (catalogue.reconcile identities languages false).run tree = (.ok outcome, tree) ∧
      outcome.changes = (catalogue.due tree identities languages).map Prod.fst ∧
      (catalogue.writeAll (catalogue.due tree identities languages)).run tree = (.ok (), after) ∧
      ∀ file ∈ catalogue.due tree identities languages,
        file.1.path = catalogue.display file.2.1 ∧
          after.contentOf? file.2.1 = some (.text file.2.2) := by
  have valid := valid_needs spaces fun language known => (tags language known).2
  have apart := @pairwise_needs identities languages distinct
  obtain ⟨found, ran, rfl⟩ := of_run_reconcile h
  obtain ⟨told, changed, stored⟩ := run_apply_spec regular local_reconcileTable valid apart wf ran
  refine ⟨?_, ?_, writeAll_of_run regular local_reconcileTable valid apart wf ran,
    fun file h => ?_⟩
  · -- Tables of other namespaces are the only thing that is looked at after the writing.
    rw [run_reconcile, run_idle (.inl rfl), ← told]
    dsimp only
    rw [orphans_of_changed regular wf spelled (fun need h => valid need (List.mem_filter.mp h).1)
      (fun need h => ?_) changed]
    obtain ⟨⟨⟨identity, used, same⟩, language⟩, -⟩ := mem_needs_iff.mp (List.mem_filter.mp h).1
    exact ⟨mem_keys_groups_iff.mpr ⟨identity, used, same⟩, (tags _ language).1⟩
  · rw [told, foldl_add, List.filterMap_map]
    rfl
  · obtain ⟨need, here, change⟩ := List.mem_filterMap.mp h
    obtain ⟨change', path, text⟩ := file
    obtain ⟨file, kind, opened, rfl, -⟩ := change_reconcileTable_eq_some change
    refine ⟨?_, FileTree.contentOf?_eq_some_iff.mpr (stored need here _ _ _ change).find⟩
    rw [change_reconcileTable, opened] at change
    dsimp only at change
    split at change
    · cases change
    · cases change
      rfl

/-- A menu that lacks a text, beside a table of a namespace that is not used. -/
def crowdedFiles : FileTree where
  entries := .ofList [
    (["lang"], .folder),
    (["lang", "menu.en.ts"], .file (.text "default \x7b\"Open\":\"\"\x7d I18NTABLEEND")),
    (["lang", "old.en.ts"], .file (.text "default \x7b\"Undo\":\"Undo it\"\x7d I18NTABLEEND"))]
  here := []

theorem check_predicts_menus :
    ∃ outcome after,
      (menus.reconcile [⟨"menu", "Open"⟩] ["en", "de"] true).run crowdedFiles =
        (.ok outcome, after) ∧
      (menus.reconcile [⟨"menu", "Open"⟩] ["en", "de"] false).run crowdedFiles =
        (.ok outcome, crowdedFiles) ∧
      outcome.changes.map FileChange.path = ["lang/menu.en.ts", "lang/menu.de.ts"] := by
  have runs : (fun done : Except WriteFault Outcome × FileTree =>
      done.1.toOption.map fun outcome => outcome.changes.map FileChange.path)
        ((menus.reconcile [⟨"menu", "Open"⟩] ["en", "de"] true).run crowdedFiles) =
      some ["lang/menu.en.ts", "lang/menu.de.ts"] := by
    decide +kernel
  cases done : (menus.reconcile [⟨"menu", "Open"⟩] ["en", "de"] true).run crowdedFiles with
  | mk result after =>
    rw [done] at runs
    cases result with
    | error fault => cases runs
    | ok outcome =>
      have regular : menus.Regular := ⟨by decide, by decide⟩
      have wf : crowdedFiles.WellFormed := by decide +kernel
      have spelled : crowdedFiles.Spelled := by decide +kernel
      have same := (check_predicts_reconcile regular wf spelled (by decide) (by decide) (by decide)
        done).1
      exact ⟨outcome, after, rfl, same, Option.some.inj runs⟩

end Phrasebook.Catalogue
