import Phrasebook.Catalogue.Reconcile
import Phrasebook.Proofs.Needs
import Phrasebook.Proofs.TableText

/-!
# What reconciling writes and keeps

Reconciling writes a table if it can be read and lacks a text, and then adds placeholders and
nothing else; all other files stay as they are.

- `local_reconcileTable`: the update of a table looks at its own file;
- `Reconciled`: what becomes of the file of a needed table;
- `reconcile_keeps_texts`: a run that succeeds does this to every needed table, and nothing to any
  other file.
-/

namespace Phrasebook.Catalogue

variable {catalogue : Catalogue} {tree after : FileTree} {need : Need}

/-! ## One table -/

theorem openTable_eq (tree : FileTree) (path : Path) :
    catalogue.openTable tree path =
      match catalogue.read tree path with
      | .error fault => .error fault
      | .ok (some file) => .ok (file, .updated)
      | .ok none => .ok (.scaffold, .created) := by
  unfold openTable
  rcases catalogue.read tree path with fault | _ | file <;> rfl

theorem read_of_openTable {path : Path} {file : TableFile} {kind : ChangeKind}
    (h : catalogue.openTable tree path = .ok (file, kind)) :
    catalogue.read tree path = .ok (some file) ∨
      catalogue.read tree path = .ok none ∧ file = .scaffold := by
  rw [openTable_eq] at h
  rcases found : catalogue.read tree path with fault | _ | file'
  · rw [found] at h
    cases h
  · rw [found] at h
    cases h
    exact .inr ⟨rfl, rfl⟩
  · rw [found] at h
    cases h
    exact .inl rfl

theorem framed_of_openTable {path : Path} {file : TableFile} {kind : ChangeKind}
    (h : catalogue.openTable tree path = .ok (file, kind)) :
    ∃ lead gap trail tail, file.Framed lead gap trail tail := by
  rcases read_of_openTable h with found | ⟨-, rfl⟩
  · obtain ⟨text, -, parsed⟩ := parse_of_read found
    exact (TableFile.framed_of_parse parsed).2.2
  · exact TableFile.framed_scaffold

theorem change_reconcileTable :
    (catalogue.reconcileTable tree need).change =
      match catalogue.openTable tree (need.path catalogue) with
      | .error _ => none
      | .ok (file, kind) =>
        let result := addMissing file.table need.keys
        if result.2 = 0 then none
        else some (⟨catalogue.display (need.path catalogue), kind, result.2, 0⟩,
          need.path catalogue, file.renderWith result.1) := by
  unfold reconcileTable Need.path
  dsimp only
  rcases catalogue.openTable tree (catalogue.filePath need.space need.language) with
    fault | ⟨file, kind⟩
  · rfl
  · dsimp only
    unfold updateOf
    by_cases none : (addMissing file.table need.keys).2 = 0
    · rw [if_pos none, if_pos (by simpa using none)]
    · rw [if_neg none, if_neg (by simpa using none)]
      rfl

/-- Only a table that lacks a text is written. -/
theorem change_reconcileTable_eq_none_iff :
    (catalogue.reconcileTable tree need).change = none ↔
      ∀ file kind, catalogue.openTable tree (need.path catalogue) = .ok (file, kind) →
        ∀ key ∈ need.keys, hasText file.table key = true := by
  rw [change_reconcileTable]
  rcases catalogue.openTable tree (need.path catalogue) with fault | ⟨file, kind⟩
  · exact iff_of_true rfl nofun
  · have count := (completed_addMissing file.table need.keys).2
    dsimp only
    constructor
    · intro none file' kind' same
      cases same
      by_contra incomplete
      rw [if_neg (mt count.mp incomplete)] at none
      cases none
    · intro complete
      rw [if_pos (count.mpr (complete file kind rfl))]

/-- It is written with placeholders for the keys without a text. -/
theorem change_reconcileTable_eq_some {change : FileChange} {path : Path} {text : String}
    (h : (catalogue.reconcileTable tree need).change = some (change, path, text)) :
    ∃ file kind, catalogue.openTable tree (need.path catalogue) = .ok (file, kind) ∧
      path = need.path catalogue ∧
        text = file.renderWith (addMissing file.table need.keys).1 := by
  rw [change_reconcileTable] at h
  rcases opened : catalogue.openTable tree (need.path catalogue) with fault | ⟨file, kind⟩
  · rw [opened] at h
    cases h
  · rw [opened] at h
    dsimp only at h
    split at h
    · cases h
    · cases h
      exact ⟨file, kind, rfl, rfl, rfl⟩

theorem local_reconcileTable : Local catalogue catalogue.reconcileTable := by
  refine ⟨fun tree other need same => ?_, fun tree need change path text h => ?_⟩
  · have opened : catalogue.openTable tree (need.path catalogue) =
        catalogue.openTable other (need.path catalogue) := by
      rw [openTable_eq, openTable_eq, same]
    unfold Need.path at opened
    unfold reconcileTable
    dsimp only
    rw [opened]
  · obtain ⟨file, kind, -, same, -⟩ := change_reconcileTable_eq_some h
    exact same

/-! ## All tables -/

/-- A run of `reconcile` adds issues to a run over the needed tables. -/
theorem run_reconcile {identities : List Identity} {languages : List String} {apply : Bool} :
    (catalogue.reconcile identities languages apply).run tree =
      match
        (catalogue.run apply catalogue.reconcileTable (needs identities languages)).run tree with
      | (.ok outcome, after) =>
        (.ok { outcome with
          issues := outcome.issues ++
            catalogue.orphans after (groups identities).keys languages }, after)
      | (.error error, after) => (.error error, after) := by
  unfold reconcile
  rw [Action.run_bind]
  rcases (catalogue.run apply catalogue.reconcileTable (needs identities languages)).run tree with
    ⟨_ | _, after⟩ <;> rfl

/-- A run of `reconcile` ends on the tree that the run over the needed tables has left. -/
theorem exists_run_of_reconcile {identities : List Identity} {languages : List String}
    {apply : Bool} {result : Except WriteFault Outcome}
    (h : (catalogue.reconcile identities languages apply).run tree = (result, after)) :
    ∃ result',
      (catalogue.run apply catalogue.reconcileTable (needs identities languages)).run tree =
        (result', after) := by
  rw [run_reconcile] at h
  rcases ran : (catalogue.run apply catalogue.reconcileTable (needs identities languages)).run tree
    with ⟨fault | found, middle⟩
  · rw [ran] at h
    cases h
    exact ⟨_, rfl⟩
  · rw [ran] at h
    cases h
    exact ⟨_, rfl⟩

theorem of_run_reconcile {identities : List Identity} {languages : List String} {apply : Bool}
    {outcome : Outcome}
    (h : (catalogue.reconcile identities languages apply).run tree = (.ok outcome, after)) :
    ∃ found, (catalogue.run apply catalogue.reconcileTable (needs identities languages)).run tree =
        (.ok found, after) ∧
      outcome = { found with
        issues := found.issues ++
          catalogue.orphans after (groups identities).keys languages } := by
  rw [run_reconcile] at h
  rcases ran : (catalogue.run apply catalogue.reconcileTable (needs identities languages)).run tree
    with ⟨fault | found, middle⟩
  · rw [ran] at h
    cases h
  · rw [ran] at h
    cases h
    exact ⟨found, rfl, rfl⟩

/-- The tables that a program needs can have files, if its namespaces are valid and no language
holds a slash. -/
theorem valid_needs {identities : List Identity} {languages : List String}
    (spaces : ∀ identity ∈ identities, LookupCall.isValidSpace identity.space = true)
    (tags : ∀ language ∈ languages, '/' ∉ language.toList) :
    ∀ need ∈ needs identities languages, need.Valid := by
  intro need h
  obtain ⟨⟨⟨identity, used, same⟩, known⟩, -⟩ := mem_needs_iff.mp h
  exact ⟨same ▸ spaces identity used, tags _ known⟩

/-- What becomes of the file of a table that has to hold some keys. -/
structure Reconciled (catalogue : Catalogue) (path : Path) (required : List String) (apply : Bool)
    (tree after : FileTree) : Prop where
  /-- A table that cannot be read stays as it is. -/
  faulty : ∀ fault, catalogue.read tree path = .error fault →
    after.contentOf? path = tree.contentOf? path
  /-- So does a table that has a text for every key. -/
  complete : ∀ file kind, catalogue.openTable tree path = .ok (file, kind) →
    (∀ key ∈ required, hasText file.table key = true) →
      after.contentOf? path = tree.contentOf? path
  /-- A file is the text around its table and the region that its table is read from. -/
  around : ∀ file, catalogue.read tree path = .ok (some file) →
    tree.contentOf? path = some (.text (String.ofList (file.before ++ file.region ++ file.after))) ∧
      Table.parse file.region = .ok file.table
  /-- A new file is put where nothing stands. -/
  new : catalogue.read tree path = .ok none → ∀ location, after.locate path = .ok location →
    apply = true → tree.entryAt? location = none
  /-- Any other table is completed, and the text around it is kept. -/
  completed : apply = true → ∀ file kind, catalogue.openTable tree path = .ok (file, kind) →
    (∃ key ∈ required, hasText file.table key = false) →
      ∃ table, Completed file.table required table ∧
        after.contentOf? path =
          some (.text (String.ofList (file.before ++ table.toJson ++ file.after)))

theorem around_of_read {path : Path} {file : TableFile}
    (h : catalogue.read tree path = .ok (some file)) :
    tree.contentOf? path = some (.text (String.ofList (file.before ++ file.region ++ file.after))) ∧
      Table.parse file.region = .ok file.table := by
  obtain ⟨text, found, parsed⟩ := parse_of_read h
  obtain ⟨whole, read, -⟩ := TableFile.framed_of_parse parsed
  refine ⟨FileTree.contentOf?_eq_some_iff.mpr ?_, read⟩
  rw [← whole, String.ofList_toList]
  exact found

/-- A table that lacks a text is there, completed. -/
theorem stored_of_lacks {file : TableFile} {kind : ChangeKind}
    (stored : ∀ change path text, (catalogue.reconcileTable tree need).change =
      some (change, path, text) → Stored catalogue need text tree after)
    (opened : catalogue.openTable tree (need.path catalogue) = .ok (file, kind))
    (lacks : ∃ key ∈ need.keys, hasText file.table key = false) :
    Stored catalogue need (file.renderWith (addMissing file.table need.keys).1) tree after := by
  obtain ⟨key, needed, empty⟩ := lacks
  cases change : (catalogue.reconcileTable tree need).change with
  | none =>
    have has := change_reconcileTable_eq_none_iff.mp change file kind opened key needed
    rw [has] at empty
    cases empty
  | some new =>
    obtain ⟨change', path, text⟩ := new
    obtain ⟨file', kind', opened', -, rfl⟩ := change_reconcileTable_eq_some change
    cases opened.symm.trans opened'
    exact stored _ _ _ change

/-- The file of a needed table after a run that writes. -/
theorem reconciled_of_run (regular : catalogue.Regular) (wf : tree.WellFormed)
    {needs : List Need} (valid : ∀ need ∈ needs, need.Valid)
    (distinct : needs.Pairwise Need.Apart) {outcome : Outcome}
    (h : (catalogue.run true catalogue.reconcileTable needs).run tree = (.ok outcome, after))
    (here : need ∈ needs) (filled : need.keys ≠ []) :
    Reconciled catalogue (need.path catalogue) need.keys true tree after := by
  obtain ⟨-, changed, stored⟩ := run_apply_spec regular local_reconcileTable valid distinct wf h
  have unwritten (none : (catalogue.reconcileTable tree need).change = none) :
      after.contentOf? (need.path catalogue) = tree.contentOf? (need.path catalogue) :=
    FileTree.contentOf?_congr (find_of_unwritten regular wf valid distinct changed here none)
  have written {file : TableFile} {kind : ChangeKind} :=
    @stored_of_lacks _ _ _ _ file kind (stored need here)
  refine ⟨fun fault faulty => unwritten ?_, fun file kind opened complete => unwritten ?_,
    fun file => around_of_read, fun absent location located _ => ?_,
    fun _ file kind opened lacks => ?_⟩
  · refine change_reconcileTable_eq_none_iff.mpr fun file kind opened => ?_
    rw [openTable_eq, faulty] at opened
    cases opened
  · refine change_reconcileTable_eq_none_iff.mpr fun file' kind' opened' => ?_
    cases opened.symm.trans opened'
    exact complete
  · have opened : catalogue.openTable tree (need.path catalogue) = .ok (.scaffold, .created) := by
      rw [openTable_eq, absent]
    obtain ⟨key, needed⟩ := List.exists_mem_of_ne_nil _ filled
    have put := written opened ⟨key, needed, rfl⟩
    have arrived := Except.ok.inj (put.located.symm.trans located)
    subst arrived
    -- What stood here would have been found.
    cases present : tree.entryAt? (need.place catalogue tree.here) with
    | none => rfl
    | some entry =>
      have leads := FileTree.locate_congr wf (direct_filePath regular (valid need here))
        changed.here present (fun folder => by rw [put.text] at folder; cases folder) put.located
      exact absurd (FileTree.find_eq_ok_iff.mpr ⟨_, leads, present⟩) (find_ne_of_read absent entry)
  · exact ⟨_, (completed_addMissing file.table need.keys).1,
      FileTree.contentOf?_eq_some_iff.mpr (written opened lacks).find⟩

/-- A run of `reconcile` that succeeds changes nothing unless it is to write. A location keeps what
it holds if no path of a needed table leads there, and the files of the needed tables are completed
or kept. -/
theorem reconcile_keeps_texts (regular : catalogue.Regular) (wf : tree.WellFormed)
    {identities : List Identity} {languages : List String}
    (spaces : ∀ identity ∈ identities, LookupCall.isValidSpace identity.space = true)
    (tags : ∀ language ∈ languages, '/' ∉ language.toList) (distinct : languages.Nodup)
    {apply : Bool} {outcome : Outcome}
    (h : (catalogue.reconcile identities languages apply).run tree = (.ok outcome, after)) :
    (apply = false → after = tree) ∧
      (∀ location, (∀ identity ∈ identities, ∀ language ∈ languages,
          after.locate (catalogue.filePath identity.space language) ≠ .ok location) →
        after.contentAt? location = tree.contentAt? location) ∧
      ∀ identity ∈ identities, ∀ language ∈ languages,
        Reconciled catalogue (catalogue.filePath identity.space language)
          (keysIn identities identity.space) apply tree after := by
  have valid := valid_needs spaces tags
  have apart := @pairwise_needs identities languages distinct
  obtain ⟨found, ran, -⟩ := of_run_reconcile h
  cases apply with
  | false =>
    rw [run_idle (.inl rfl)] at ran
    cases ran
    refine ⟨fun _ => rfl, fun _ _ => rfl, fun identity used language known => ?_⟩
    exact ⟨fun _ _ => rfl, fun _ _ _ _ => rfl, fun _ => around_of_read,
      fun _ _ _ write => absurd write Bool.false_ne_true, nofun⟩
  | true =>
    refine ⟨nofun, fun location unneeded => ?_, ?_⟩
    · -- A location that is the file of no needed table.
      refine contentAt?_of_run regular local_reconcileTable valid apart wf ran fun need here => ?_
      obtain ⟨⟨⟨identity, used, same⟩, known⟩, -⟩ := mem_needs_iff.mp here
      unfold Need.path
      exact same ▸ unneeded identity used need.language known
    · refine (@forall_needs_iff catalogue identities languages fun path required =>
        Reconciled catalogue path required true tree after).mp fun need here => ?_
      exact reconciled_of_run regular wf valid apart ran here (keys_ne_nil_of_mem_needs here)

/-- The tables of a menu, of which one is there. -/
def menus : Catalogue := ⟨⟨"/lang"⟩, "ts", ⟨"/"⟩⟩

/-- The English menu lacks a text. -/
def menuFiles : FileTree where
  entries := .ofList [
    (["lang"], .folder),
    (["lang", "menu.en.ts"],
      .file (.text "default \x7b\"Open\":\"Open it\",\"Quit\":\"\"\x7d I18NTABLEEND"))]
  here := []

theorem reconcile_keeps_menus :
    ∃ outcome after,
      (menus.reconcile [⟨"menu", "Open"⟩, ⟨"menu", "Quit"⟩] ["en", "de"] true).run menuFiles =
        (.ok outcome, after) ∧
      Reconciled menus (menus.filePath "menu" "en") ["Open", "Quit"] true menuFiles after ∧
      after.contentOf? ⟨"/lang/menu.en.ts"⟩ = some (.text
        "default \x7b\n    \"Open\": \"Open it\",\n    \"Quit\": \"Quit\"\n\x7d I18NTABLEEND") := by
  have runs : (fun done : Except WriteFault Outcome × FileTree =>
      (done.1.toOption.isSome, done.2.contentOf? ⟨"/lang/menu.en.ts"⟩))
        ((menus.reconcile [⟨"menu", "Open"⟩, ⟨"menu", "Quit"⟩] ["en", "de"] true).run menuFiles) =
      (true, some (.text
        "default \x7b\n    \"Open\": \"Open it\",\n    \"Quit\": \"Quit\"\n\x7d I18NTABLEEND")) :=
    by decide +kernel
  cases done : (menus.reconcile [⟨"menu", "Open"⟩, ⟨"menu", "Quit"⟩] ["en", "de"] true).run
      menuFiles with
  | mk result after =>
    rw [done] at runs
    obtain ⟨runs, text⟩ := Prod.mk.inj runs
    cases result with
    | error fault => cases runs
    | ok outcome =>
      have regular : menus.Regular := ⟨by decide, by decide⟩
      have wf : menuFiles.WellFormed := by decide +kernel
      have kept := (reconcile_keeps_texts regular wf (by decide) (by decide) (by decide) done).2.2
        ⟨"menu", "Open"⟩ (by decide) "en" (by decide)
      exact ⟨outcome, after, rfl, kept, text⟩

end Phrasebook.Catalogue
