import Phrasebook.Numbering.Apply
import Phrasebook.Proofs.Coverage
import Phrasebook.Proofs.Listing
import Phrasebook.Proofs.LookupCalls
import Phrasebook.Proofs.Rereading

/-!
# Catalogues that are ready to be numbered

A run of `reconcile` that finds no malformed table leaves a text for every key in every language.
The files that it has written by path are found by their names when the texts are numbered, so every
lookup has a number or keeps its key.

- `Ready`: a table that can be read and has a text for every key;
- `ready_of_run`: a run leaves all needed tables ready;
- `find_ne_missing_of_ready`: a text of a ready table is known to the numbering;
- `issues_of_known`: a program all of whose texts are known is numbered without an issue.
-/

namespace Phrasebook

namespace Catalogue

variable {catalogue : Catalogue} {tree after : FileTree} {need : Need}

/-! ## Tables with all texts -/

/-- The table at a path can be read and has a text for every key. -/
def Ready (catalogue : Catalogue) (tree : FileTree) (path : Path) (required : List String) : Prop :=
  ∃ file, catalogue.read tree path = .ok (some file) ∧
    ∀ key ∈ required, hasText file.table key = true

/-- A table that cannot be opened is an issue. -/
theorem issues_reconcileTable {fault : TableReadFault}
    (faulty : catalogue.openTable tree (need.path catalogue) = .error fault) :
    (catalogue.reconcileTable tree need).issues =
      [.malformedTable (catalogue.display (need.path catalogue)) fault.message] := by
  unfold Need.path at faulty ⊢
  unfold reconcileTable
  dsimp only
  rw [faulty]
  rfl

/-- A table without a text for the empty key is ready once it was completed. -/
theorem ready_of_opened (regular : catalogue.Regular) (wf : tree.WellFormed) {needs : List Need}
    (valid : ∀ need ∈ needs, need.Valid) (distinct : needs.Pairwise Need.Apart) {outcome : Outcome}
    (h : (catalogue.run true catalogue.reconcileTable needs).run tree = (.ok outcome, after))
    (here : need ∈ needs) (filled : need.keys ≠ [])
    (plain : Plain catalogue tree (need.path catalogue))
    (keys : ∀ key ∈ need.keys, key ≠ "" ∧ TableFile.Unmarked key) {file : TableFile}
    {kind : ChangeKind}
    (opened : catalogue.openTable tree (need.path catalogue) = .ok (file, kind)) :
    Ready catalogue after (need.path catalogue) need.keys := by
  obtain ⟨-, changed, stored⟩ := run_apply_spec regular local_reconcileTable valid distinct wf h
  by_cases complete : ∀ key ∈ need.keys, hasText file.table key = true
  · have none : (catalogue.reconcileTable tree need).change = none := by
      refine change_reconcileTable_eq_none_iff.mpr fun file' kind' opened' => ?_
      cases opened.symm.trans opened'
      exact complete
    have same := read_of_unwritten regular wf valid distinct changed here none
    rcases read_of_openTable opened with found | ⟨-, rfl⟩
    · exact ⟨file, same.trans found, complete⟩
    · -- A new table has no text yet, and some key needs one.
      obtain ⟨key, needed⟩ := List.exists_mem_of_ne_nil _ filled
      cases complete key needed
  · have lacks : ∃ key ∈ need.keys, hasText file.table key = false := by
      simpa using complete
    refine ⟨_, read_of_lacks (stored need here) plain (fun key needed => (keys key needed).2) opened
      lacks, fun key needed => ?_⟩
    by_contra empty
    have relapse := (completed_addMissing file.table need.keys).1.lacks_iff.mp
      ⟨key, needed, by simpa using empty⟩
    exact (keys "" relapse.1).1 rfl

/-- A run that finds no malformed table leaves all needed tables ready. -/
theorem ready_of_run (regular : catalogue.Regular) (wf : tree.WellFormed)
    {identities : List Identity} {languages : List String}
    (spaces : ∀ identity ∈ identities, LookupCall.isValidSpace identity.space = true)
    (tags : ∀ language ∈ languages, '/' ∉ language.toList) (distinct : languages.Nodup)
    (plain : ∀ identity ∈ identities, ∀ language ∈ languages,
      Plain catalogue tree (catalogue.filePath identity.space language))
    (keys : ∀ identity ∈ identities, identity.key ≠ "" ∧ TableFile.Unmarked identity.key)
    {outcome : Outcome}
    (h : (catalogue.reconcile identities languages true).run tree = (.ok outcome, after))
    (sound : ∀ shown message, .malformedTable shown message ∉ outcome.issues) :
    ∀ identity ∈ identities, ∀ language ∈ languages,
      Ready catalogue after (catalogue.filePath identity.space language)
        (keysIn identities identity.space) := by
  have valid := valid_needs spaces tags
  have apart := @pairwise_needs identities languages distinct
  obtain ⟨found, ran, rfl⟩ := of_run_reconcile h
  have told := (run_apply_spec regular local_reconcileTable valid apart wf ran).1
  refine (@forall_needs_iff catalogue identities languages (Ready catalogue after)).mp
    fun need here => ?_
  cases opened : catalogue.openTable tree (need.path catalogue) with
  -- A table that cannot be read would be among the issues.
  | error fault =>
    refine absurd (List.mem_append_left _ ?_) (sound (catalogue.display (need.path catalogue))
      fault.message)
    rw [told, foldl_add]
    refine List.mem_append_right _ (List.mem_flatMap.mpr ⟨_, List.mem_map_of_mem here, ?_⟩)
    rw [issues_reconcileTable opened]
    exact List.mem_singleton_self _
  | ok pair =>
    exact ready_of_opened regular wf valid apart ran here (keys_ne_nil_of_mem_needs here)
      (plain_of_mem_needs plain here) (known_of_mem_needs keys here) opened

end Catalogue

/-! ## Numbering -/

namespace Numbering

variable {catalogue : Catalogue} {tree : FileTree} {numbering : Numbering} {program : Program}

/-- A key of a ready table is known to the numbering. -/
theorem find_ne_missing_of_ready (regular : catalogue.Regular) (wf : tree.WellFormed)
    (placed : catalogue.folder.text ≠ "") {identity : Identity} {languages required : List String}
    {language : String} (known : language ∈ languages)
    (valid : Catalogue.Nameable identity.space language) (filled : language ≠ "")
    (clean : '.' ∉ language.toList)
    (ready : Catalogue.Ready catalogue tree (catalogue.filePath identity.space language) required)
    (needed : identity.key ∈ required) (defaultLanguage : Option String) :
    (ofTables catalogue tree languages defaultLanguage).1.find identity ≠ .missing := by
  obtain ⟨file, readable, all⟩ := ready
  refine find_ofTables_ne_missing_iff.mpr
    ⟨⟨identity.space, language, catalogue.filePath identity.space language⟩, file, ?_, rfl, ?_⟩
  · exact ⟨Catalogue.mem_list_of_read regular wf placed valid filled clean readable, known,
      readable⟩
  · exact Catalogue.mem_keys_of_hasText (all _ needed)

/-- A lookup whose text is known is no issue. -/
theorem issuesOf_outcomes {lookups : List PlacedLookup}
    (known : ∀ placed ∈ lookups, numbering.find placed.lookup.identity ≠ .missing) :
    issuesOf (lookups.map (PlacedLookup.outcome program numbering)) = [] := by
  unfold issuesOf
  refine List.filterMap_eq_nil_iff.mpr fun outcome h => ?_
  obtain ⟨placed, here, rfl⟩ := List.mem_map.mp h
  have found := known placed here
  unfold PlacedLookup.outcome
  cases replacement : numbering.find placed.lookup.identity with
  | missing => exact absurd replacement found
  | immature text => rfl
  | mature ordinal => rfl

theorem identity_of_lookup {extraction : Extraction}
    (h : Extraction.ofProgram program = .ok extraction) {placed : PlacedLookup}
    (here : placed ∈ program.lookups) : placed.lookup.identity ∈ extraction.identities := by
  unfold Extraction.identities
  rw [(Extraction.recorded_of_ofProgram h).1, OrderedMap.mem_keys_foldl_push, List.map_map]
  exact .inr (List.mem_map.mpr ⟨placed, here, rfl⟩)

/-- A program all of whose texts are known is numbered without an issue. -/
theorem issues_of_known {extraction : Extraction}
    (h : Extraction.ofProgram program = .ok extraction)
    (known : ∀ identity ∈ extraction.identities, numbering.find identity ≠ .missing) :
    (numbering.numberProgram program).issues = [] := by
  unfold numberProgram
  dsimp only
  rw [flatMap_outcomes]
  exact issuesOf_outcomes fun placed here => known _ (identity_of_lookup h here)

end Numbering

/-- A run of `reconcile` that succeeds and finds no malformed table leaves a text for every key in
every language. The numbering of the tables that it leaves knows every text, and any program that
looks up no others is numbered without an issue. -/
theorem Catalogue.reconcile_supplies_numbering {catalogue : Catalogue} (regular : catalogue.Regular)
    (placed : catalogue.folder.text ≠ "") {tree after : FileTree} (wf : tree.WellFormed)
    {identities : List Identity} {languages : List String}
    (spaces : ∀ identity ∈ identities, LookupCall.isValidSpace identity.space = true)
    (keys : ∀ identity ∈ identities, identity.key ≠ "" ∧ TableFile.Unmarked identity.key)
    (plain : ∀ identity ∈ identities, ∀ language ∈ languages,
      Plain catalogue tree (catalogue.filePath identity.space language))
    (some : languages ≠ []) (distinct : languages.Nodup)
    (tags : ∀ language ∈ languages,
      language ≠ "" ∧ '.' ∉ language.toList ∧ '/' ∉ language.toList)
    {outcome : Outcome}
    (h : (catalogue.reconcile identities languages true).run tree = (.ok outcome, after))
    (sound : ∀ shown message, .malformedTable shown message ∉ outcome.issues) :
    (∀ identity ∈ identities, ∀ language ∈ languages,
        Ready catalogue after (catalogue.filePath identity.space language)
          (keysIn identities identity.space)) ∧
      ∀ defaultLanguage,
        (∀ identity ∈ identities,
          (Numbering.ofTables catalogue after languages defaultLanguage).1.find identity ≠
            .missing) ∧
        ∀ program extraction, Extraction.ofProgram program = .ok extraction →
          (∀ identity ∈ extraction.identities, identity ∈ identities) →
            ((Numbering.ofTables catalogue after languages defaultLanguage).1.numberProgram
              program).issues = [] := by
  have slashless (language : String) (known : language ∈ languages) := (tags language known).2.2
  have ready := ready_of_run regular wf spaces slashless distinct plain keys h sound
  obtain ⟨found, ran, -⟩ := of_run_reconcile h
  have wf' := (run_apply_spec regular local_reconcileTable (valid_needs spaces slashless)
    (pairwise_needs distinct) wf ran).2.1.wellFormed
  -- A text that one table has is known, and there is a language with such a table.
  have known (defaultLanguage : Option String) (identity : Identity)
      (used : identity ∈ identities) :
      (Numbering.ofTables catalogue after languages defaultLanguage).1.find identity ≠
        .missing := by
    obtain ⟨language, known⟩ := List.exists_mem_of_ne_nil _ some
    obtain ⟨filled, clean, -⟩ := tags language known
    refine Numbering.find_ne_missing_of_ready regular wf' placed known
      ⟨spaces identity used, slashless language known⟩ filled clean
      (ready identity used language known) ?_ defaultLanguage
    exact List.mem_map_of_mem (List.mem_filter.mpr ⟨used, decide_eq_true rfl⟩)
  refine ⟨ready, fun defaultLanguage => ⟨known defaultLanguage, ?_⟩⟩
  exact fun program extraction done among => Numbering.issues_of_known done fun identity here =>
    known defaultLanguage identity (among identity here)

/-- English greetings, of which one has a text. -/
def greetingFiles : FileTree where
  entries := .ofList [
    (["lang"], .folder),
    (["lang", "default.en.ts"],
      .file (.text "default \x7b\"Hello\":\"Good day\",\"1\":\"\"\x7d I18NTABLEEND"))]
  here := []

theorem reconcile_supplies_greetings :
    ∃ extraction outcome after, Extraction.ofProgram Numbering.greetingCalls = .ok extraction ∧
      (Catalogue.menus.reconcile extraction.identities ["en"] true).run greetingFiles =
        (.ok outcome, after) ∧ outcome.changes.length = 1 ∧
        ((Numbering.ofTables Catalogue.menus after ["en"] none).1.numberProgram
          Numbering.greetingCalls).issues = [] := by
  have asked : (Extraction.ofProgram Numbering.greetingCalls).toOption.map Extraction.identities =
      some [⟨"default", "Hello"⟩, ⟨"default", "1"⟩, ⟨"default", "0"⟩] := by decide +kernel
  rcases extracted : Extraction.ofProgram Numbering.greetingCalls with _ | extraction
  · rw [extracted] at asked
    cases asked
  rw [extracted] at asked
  have identities : extraction.identities =
      [⟨"default", "Hello"⟩, ⟨"default", "1"⟩, ⟨"default", "0"⟩] := Option.some.inj asked
  have runs : (fun done : Except WriteFault Catalogue.Outcome × FileTree =>
      done.1.toOption.map fun outcome => (outcome.changes.length, outcome.issues.isEmpty))
        ((Catalogue.menus.reconcile [⟨"default", "Hello"⟩, ⟨"default", "1"⟩, ⟨"default", "0"⟩]
          ["en"] true).run greetingFiles) = some (1, true) := by decide +kernel
  rw [← identities] at runs
  cases done : (Catalogue.menus.reconcile extraction.identities ["en"] true).run greetingFiles with
  | mk result after =>
    rw [done] at runs
    cases result with
    | error fault => cases runs
    | ok outcome =>
      obtain ⟨count, quiet⟩ := Prod.mk.inj (Option.some.inj runs)
      -- The run has raised no issue, so all tables could be read.
      have sound (shown message : String) : .malformedTable shown message ∉ outcome.issues := by
        rw [List.isEmpty_iff.mp quiet]
        exact List.not_mem_nil
      have plain : ∀ identity ∈ extraction.identities, ∀ language ∈ ["en"],
          Catalogue.Plain Catalogue.menus greetingFiles
            (Catalogue.menus.filePath identity.space language) := by
        rw [identities]
        decide +kernel
      have regular : Catalogue.menus.Regular := ⟨by decide, by decide⟩
      have supplied := Catalogue.reconcile_supplies_numbering regular
        (by decide) (by decide +kernel) (by rw [identities]; decide)
        (by rw [identities]; decide +kernel) plain (by decide) (by decide) (by decide) done sound
      exact ⟨extraction, outcome, after, rfl, done, count,
        (supplied.2 none).2 _ _ extracted fun _ => id⟩

end Phrasebook
