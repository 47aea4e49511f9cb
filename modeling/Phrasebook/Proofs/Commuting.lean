import Phrasebook.Proofs.Committing
import Phrasebook.Proofs.Lockstep
import Phrasebook.Proofs.Rereading

/-!
# Reconciling before translating

To reconcile the tables first makes no difference to a translation. A placeholder is as open as a
text that is missing, so the same texts are planned; and filling puts in the placeholders itself, so
it ends with the same files. This is so even if a file cannot be written: all runs stop at the same
table.

- `jobsFor_completed`: a completed table asks for the same translations;
- `content_eq_of_reached`: filled tables are the same whether or not they were completed before;
- `StopAlike`, `stopAlike_of_run`: three runs come as far as the same table;
- `reconcile_before_fill`: plans and files are the same.
-/

namespace Phrasebook

namespace TranslationPlan

variable {extraction : Extraction} {targets : List Identity} {need : Catalogue.Need}

/-- A completed table asks for the same translations: a key that has no text is as open as one that
stands for itself. -/
theorem jobsFor_completed {table completed : Table}
    (h : Catalogue.Completed table need.keys completed) :
    jobsFor extraction targets need completed = jobsFor extraction targets need table := by
  unfold jobsFor
  refine List.filterMap_congr fun key needed => ?_
  dsimp only
  cases has : Catalogue.hasText table key with
  | true => rw [h.kept key (.inr has)]
  | false =>
    have waits : Catalogue.isOpen targets ⟨need.space, key⟩ key = true :=
      @Catalogue.isOpen_self targets ⟨need.space, key⟩
    have missing : Catalogue.isOpen targets ⟨need.space, key⟩ "" = true := rfl
    rw [h.filled key needed has, Catalogue.text_eq_empty_of_hasText has, Option.getD_some,
      if_pos waits, if_pos missing]

theorem planTable_eq (catalogue : Catalogue) (tree : FileTree) :
    planTable catalogue tree extraction targets need =
      match catalogue.read tree (need.path catalogue) with
      | .error fault => ⟨[], [catalogue.malformed (need.path catalogue) fault]⟩
      | .ok file =>
        ⟨jobsFor extraction targets need ((file.map TableFile.table).getD .empty), []⟩ := by
  unfold planTable Catalogue.Need.path
  show (match catalogue.read tree (catalogue.filePath need.space need.language) with
    | .error _ => _
    | .ok _ => _) = _
  rcases catalogue.read tree (catalogue.filePath need.space need.language) with fault | file <;> rfl

theorem make_congr {catalogue : Catalogue} {tree other : FileTree} {defaultLanguage : Option String}
    (same : ∀ need ∈ Catalogue.needs extraction.identities extraction.languages,
      planTable catalogue tree extraction targets need =
        planTable catalogue other extraction targets need) :
    make catalogue tree extraction defaultLanguage targets =
      make catalogue other extraction defaultLanguage targets := by
  have plans : (plannedNeeds extraction defaultLanguage).map
      (planTable catalogue tree extraction targets) =
        (plannedNeeds extraction defaultLanguage).map
          (planTable catalogue other extraction targets) :=
    List.map_congr_left fun need h => same need (mem_plannedNeeds_iff.mp h).1
  unfold plannedNeeds at plans
  unfold make
  dsimp only
  rw [plans]

end TranslationPlan

namespace Catalogue

variable {catalogue : Catalogue} {tree middle after after' : FileTree} {need : Need}
  {needs done : List Need} {options : FillOptions}

/-! ## One table -/

/-- A table that has a text for every key is read from a file. -/
theorem read_of_complete (filled : need.keys ≠ []) {file : TableFile} {kind : ChangeKind}
    (opened : catalogue.openTable tree (need.path catalogue) = .ok (file, kind))
    (complete : ∀ key ∈ need.keys, hasText file.table key = true) :
    catalogue.read tree (need.path catalogue) = .ok (some file) := by
  rcases read_of_openTable opened with found | ⟨-, rfl⟩
  · exact found
  · obtain ⟨key, needed⟩ := List.exists_mem_of_ne_nil _ filled
    cases complete key needed

/-- A table that is written when it is completed is written when it is filled. -/
theorem change_fillTable_ne_none (h : (catalogue.reconcileTable tree need).change ≠ none) :
    (catalogue.fillTable options tree need).change ≠ none := by
  rw [change_reconcileTable] at h
  rw [change_fillTable]
  cases opened : catalogue.openTable tree (need.path catalogue) with
  | error fault =>
    rw [opened] at h
    exact absurd rfl h
  | ok pair =>
    rw [opened] at h
    dsimp only at h ⊢
    by_cases count : (addMissing pair.1.table need.keys).2 = 0
    · exact absurd (if_pos count) h
    · rw [if_neg fun both => count both.1]
      exact nofun

/-- A table that is only written when it is filled is read from a file. -/
theorem read_of_fillTable (filled : need.keys ≠ [])
    (none : (catalogue.reconcileTable tree need).change = .none)
    (some : (catalogue.fillTable options tree need).change ≠ .none) :
    ∃ file, catalogue.read tree (need.path catalogue) = .ok (.some file) := by
  obtain ⟨⟨change, path, text⟩, same⟩ := Option.ne_none_iff_exists'.mp some
  obtain ⟨file, kind, opened, -, -⟩ := change_fillTable_eq_some same
  exact ⟨file, read_of_complete filled opened
    (change_reconcileTable_eq_none_iff.mp none file kind opened)⟩

theorem exists_file_of_read {path : Path} {file : TableFile}
    (h : catalogue.read tree path = .ok (some file)) :
    ∃ content, tree.find path = .ok (.file content) := by
  obtain ⟨text, found, -⟩ := parse_of_read h
  exact ⟨.text text, found⟩

/-! ## Tables that were completed -/

section Reached

variable (regular : catalogue.Regular) (wf : tree.WellFormed) (valid : ∀ need ∈ done, need.Valid)
  (distinct : done.Pairwise Need.Apart)
  (reconciled : Reached catalogue catalogue.reconcileTable done tree middle) (here : need ∈ done)

include regular wf valid distinct reconciled here

theorem fillTable_of_unwritten (none : (catalogue.reconcileTable tree need).change = .none) :
    catalogue.fillTable options middle need = catalogue.fillTable options tree need :=
  local_fillTable.reads _ _ _
    (read_of_unwritten regular wf valid distinct reconciled.changed here none)

/-- A table that is to be filled after it was completed is there. -/
theorem exists_file_of_fillTable (filled : need.keys ≠ [])
    (some : (catalogue.fillTable options middle need).change ≠ none) :
    ∃ content, middle.find (need.path catalogue) = .ok (.file content) := by
  cases written : (catalogue.reconcileTable tree need).change with
  | none =>
    rw [fillTable_of_unwritten regular wf valid distinct reconciled here written] at some
    obtain ⟨file, found⟩ := read_of_fillTable filled written some
    refine @exists_file_of_read catalogue _ _ file ?_
    rw [read_of_unwritten regular wf valid distinct reconciled.changed here written, found]
  | some new =>
    obtain ⟨change, path, text⟩ := new
    exact ⟨.text text, (reconciled.stored need here change path text written).find⟩

/-- The plan for a table is the same once it was completed. -/
theorem planTable_eq_of_reached (plain : Plain catalogue tree (need.path catalogue))
    (keys : ∀ key ∈ need.keys, TableFile.Unmarked key) (extraction : Extraction)
    (targets : List Identity) :
    TranslationPlan.planTable catalogue middle extraction targets need =
      TranslationPlan.planTable catalogue tree extraction targets need := by
  rw [TranslationPlan.planTable_eq, TranslationPlan.planTable_eq]
  cases written : (catalogue.reconcileTable tree need).change with
  | none => rw [read_of_unwritten regular wf valid distinct reconciled.changed here written]
  | some new =>
    obtain ⟨change, path, text⟩ := new
    obtain ⟨file, kind, opened, -, rfl⟩ := change_reconcileTable_eq_some written
    have table : (match catalogue.read tree (need.path catalogue) with
        | .error fault => ⟨[], [catalogue.malformed (need.path catalogue) fault]⟩
        | .ok file => ⟨TranslationPlan.jobsFor extraction targets need
            ((file.map TableFile.table).getD .empty), []⟩ : TranslationPlan) =
          ⟨TranslationPlan.jobsFor extraction targets need file.table, []⟩ := by
      rcases read_of_openTable opened with found | ⟨found, rfl⟩ <;> rw [found] <;> rfl
    rw [table, read_of_stored (framed_of_openTable opened) (clear_completed plain keys opened)
      (reconciled.stored need here _ _ _ written)]
    dsimp only [Option.map_some, Option.getD_some]
    -- Placeholders are open, as the empty texts were that they stand for.
    rw [TranslationPlan.jobsFor_completed (completed_addMissing file.table need.keys).1]

section Filled

variable (first : Reached catalogue (catalogue.fillTable options) done tree after)
  (second : Reached catalogue (catalogue.fillTable options) done middle after')

include first second

/-- A table that was complete is filled as if nothing had been done before. -/
theorem content_eq_of_unwritten (none : (catalogue.reconcileTable tree need).change = .none) :
    after'.contentAt? (need.place catalogue tree.here) =
      after.contentAt? (need.place catalogue tree.here) := by
  have wf' := reconciled.changed.wellFormed
  have place : need.place catalogue tree.here = need.place catalogue middle.here := by
    rw [reconciled.changed.here]
  have same := @fillTable_of_unwritten _ _ _ _ _ options regular wf valid distinct reconciled here
    none
  cases change : (catalogue.fillTable options tree need).change with
  | none =>
    rw [first.contentAt?_of_none regular wf valid distinct here change]
    rw [← same] at change
    rw [place, second.contentAt?_of_none regular wf' valid distinct here change, ← place,
      reconciled.contentAt?_of_none regular wf valid distinct here none]
  | some new =>
    obtain ⟨change', path, text⟩ := new
    rw [first.contentAt?_of_some here change]
    rw [← same] at change
    rw [place, second.contentAt?_of_some here change]

omit wf in
/-- A table that was not complete is filled with placeholders and texts, in either order. -/
theorem content_eq_of_written (plain : Plain catalogue tree (need.path catalogue))
    (keys : ∀ key ∈ need.keys, TableFile.Unmarked key) {change : FileChange} {path : Path}
    {text : String}
    (written : (catalogue.reconcileTable tree need).change = some (change, path, text)) :
    after'.contentAt? (need.place catalogue tree.here) =
      after.contentAt? (need.place catalogue tree.here) := by
  have wf' := reconciled.changed.wellFormed
  have place : need.place catalogue tree.here = need.place catalogue middle.here := by
    rw [reconciled.changed.here]
  obtain ⟨file, kind, opened, -, rfl⟩ := change_reconcileTable_eq_some written
  -- The table lacks a text, so filling it directly writes it, too.
  obtain ⟨⟨change', path', text'⟩, filled⟩ := Option.ne_none_iff_exists'.mp
    (@change_fillTable_ne_none catalogue tree need options (by rw [written]; exact nofun))
  obtain ⟨file', kind', opened', -, rfl⟩ := change_fillTable_eq_some filled
  cases opened.symm.trans opened'
  rw [first.contentAt?_of_some here filled]
  have read := read_of_stored (framed_of_openTable opened) (clear_completed plain keys opened)
    (reconciled.stored need here _ _ _ written)
  -- Behind `reconcile`, the table that is filled is the completed one.
  have reopened : catalogue.openTable middle (need.path catalogue) =
      .ok (⟨file.before, (addMissing file.table need.keys).1.toJson, file.after,
        (addMissing file.table need.keys).1⟩, .updated) := by
    rw [openTable_eq, read]
  cases refilled : (catalogue.fillTable options middle need).change with
  | none =>
    -- All texts are placeholders already: `fill` writes nothing, and what stands is the same.
    have idle := filledTable_of_unwritten reopened refilled
    dsimp only at idle
    rw [filledTable_addMissing] at idle
    rw [place, second.contentAt?_of_none regular wf' valid distinct here refilled, ← place,
      reconciled.contentAt?_of_some here written, idle]
  | some new =>
    obtain ⟨change'', path'', text''⟩ := new
    obtain ⟨file'', kind'', opened'', -, rfl⟩ := change_fillTable_eq_some refilled
    cases reopened.symm.trans opened''
    rw [place, second.contentAt?_of_some here refilled, filledTable_addMissing]
    rfl

/-- The file of a table that was filled is the same if the table was completed before. -/
theorem content_eq_of_reached (plain : Plain catalogue tree (need.path catalogue))
    (keys : ∀ key ∈ need.keys, TableFile.Unmarked key) :
    after'.contentAt? (need.place catalogue tree.here) =
      after.contentAt? (need.place catalogue tree.here) := by
  cases written : (catalogue.reconcileTable tree need).change with
  | none =>
    exact content_eq_of_unwritten regular wf valid distinct reconciled here first second written
  | some new =>
    exact content_eq_of_written regular valid distinct reconciled here first second plain keys
      written

end Filled

end Reached

/-! ## All tables -/

theorem local_idle : Local catalogue fun _ _ => ⟨[], none⟩ := ⟨fun _ _ _ _ => rfl, nofun⟩

/-- Tables that were completed are there, so they can be filled. -/
theorem run_fill_of_reached (regular : catalogue.Regular) (wf : tree.WellFormed)
    (valid : ∀ need ∈ done, need.Valid) (distinct : done.Pairwise Need.Apart)
    (filled : ∀ need ∈ done, need.keys ≠ [])
    (reconciled : Reached catalogue catalogue.reconcileTable done tree middle) :
    ∃ outcome after, (catalogue.run true (catalogue.fillTable options) done).run middle =
        (.ok outcome, after) ∧ FileTree.Alike middle after :=
  run_lockstep regular local_idle local_fillTable valid distinct reconciled.changed.wellFormed
    (fun _ _ some => absurd rfl some)
    (fun need here _ some => exists_file_of_fillTable regular wf valid distinct reconciled here
      (filled need here) some)
    (run_idle (.inr fun _ _ => rfl))

/-- Tables can be filled if they can be completed. -/
theorem run_fill_of_run (regular : catalogue.Regular) (wf : tree.WellFormed)
    (valid : ∀ need ∈ done, need.Valid) (distinct : done.Pairwise Need.Apart)
    (filled : ∀ need ∈ done, need.keys ≠ []) {outcome : Outcome}
    (h : (catalogue.run true catalogue.reconcileTable done).run tree = (.ok outcome, middle)) :
    ∃ outcome' after, (catalogue.run true (catalogue.fillTable options) done).run tree =
        (.ok outcome', after) ∧ FileTree.Alike middle after :=
  run_lockstep regular local_reconcileTable local_fillTable valid distinct wf
    (fun _ _ some => change_fillTable_ne_none some)
    (fun need here none some =>
      have ⟨_, found⟩ := read_of_fillTable (filled need here) none some
      exists_file_of_read found) h

/-- A run of `reconcile` has led from `tree` to `middle`, and runs of `fill` on both of these come
as far as the same table. -/
def StopAlike (catalogue : Catalogue) (options : FillOptions) (needs : List Need)
    (tree middle : FileTree) : Prop :=
  ∃ done rest, needs = done ++ rest ∧
    Reached catalogue catalogue.reconcileTable done tree middle ∧
    Reached catalogue (catalogue.fillTable options) done tree
      ((catalogue.run true (catalogue.fillTable options) needs).run tree).2 ∧
    Reached catalogue (catalogue.fillTable options) done middle
      ((catalogue.run true (catalogue.fillTable options) needs).run middle).2

/-- Runs of `fill`, on the tree and behind a run of `reconcile` that has failed, stop at the table
where that run has stopped. -/
theorem stopAlike_of_error (regular : catalogue.Regular) (wf : tree.WellFormed)
    (valid : ∀ need ∈ needs, need.Valid) (distinct : needs.Pairwise Need.Apart)
    (filled : ∀ need ∈ needs, need.keys ≠ []) {fault : WriteFault}
    (h : (catalogue.run true catalogue.reconcileTable needs).run tree = (.error fault, middle))
    (options : FillOptions) :
    StopAlike catalogue options needs tree middle := by
  rw [run_eq] at h
  obtain ⟨done, failed, rest, value, before, rfl, succeeded, refused⟩ :=
    Action.of_run_foldlM_error h
  rw [← run_eq] at succeeded
  have validDone (need : Need) (here : need ∈ done) := valid need (List.mem_append_left _ here)
  have filledDone (need : Need) (here : need ∈ done) := filled need (List.mem_append_left _ here)
  have validFailed := valid failed (List.mem_append_right _ List.mem_cons_self)
  obtain ⟨distinctDone, -, apart⟩ := List.pairwise_append.mp distinct
  have apartFailed (first : Need) (here : first ∈ done) : failed.Apart first :=
    symm (apart first here failed List.mem_cons_self)
  have atFailed := reached_of_run regular local_reconcileTable validDone distinctDone wf succeeded
  have reconciled := atFailed.failed regular local_reconcileTable validDone validFailed refused
  -- The table that could not be completed is to be filled, at the same path.
  obtain ⟨change, path, text, written, unwritten⟩ := look_eq_error_iff.mp refused
  rw [atFailed.update_eq regular wf validDone local_reconcileTable validFailed apartFailed]
    at written
  obtain ⟨⟨change', path', text'⟩, filling⟩ := Option.ne_none_iff_exists'.mp
    (@change_fillTable_ne_none catalogue tree failed options (by rw [written]; exact nofun))
  have same := local_reconcileTable.writes _ _ _ _ _ written
  have same' := local_fillTable.writes _ _ _ _ _ filling
  subst same same'
  obtain ⟨outcome, after, ran, alike⟩ :=
    @run_fill_of_run _ _ _ _ options regular wf validDone distinctDone filledDone _ succeeded
  obtain ⟨outcome', after', ran', alike'⟩ :=
    @run_fill_of_reached _ _ _ _ options regular wf validDone distinctDone filledDone reconciled
  refine ⟨done, failed :: rest, rfl, reconciled, ?_, ?_⟩
  · -- Directly, `fill` comes to the same table and fails to write it.
    exact reached_of_fails regular local_fillTable valid distinct wf ran filling
      (fails_of_fails ⟨fault, middle, unwritten⟩ alike text')
  · -- So it does behind the run that has failed there before.
    have refilling := reconciled.update_eq regular wf validDone (@local_fillTable _ options)
      validFailed apartFailed
    exact reached_of_fails regular local_fillTable valid distinct reconciled.changed.wellFormed ran'
      (by rw [refilling, filling])
      (fails_of_fails (FileTree.fails_again atFailed.changed.wellFormed unwritten) alike' text')

/-- A run of `reconcile`, one of `fill`, and one of `fill` after that of `reconcile` come as far as
the same table. -/
theorem stopAlike_of_run (regular : catalogue.Regular) (wf : tree.WellFormed)
    (valid : ∀ need ∈ needs, need.Valid) (distinct : needs.Pairwise Need.Apart)
    (filled : ∀ need ∈ needs, need.keys ≠ []) {result : Except WriteFault Outcome}
    (h : (catalogue.run true catalogue.reconcileTable needs).run tree = (result, middle))
    (options : FillOptions) :
    StopAlike catalogue options needs tree middle := by
  cases result with
  | ok outcome =>
    have reconciled := reached_of_run regular local_reconcileTable valid distinct wf h
    obtain ⟨_, after, ran, -⟩ :=
      @run_fill_of_run _ _ _ _ options regular wf valid distinct filled _ h
    obtain ⟨_, after', ran', -⟩ :=
      @run_fill_of_reached _ _ _ _ options regular wf valid distinct filled reconciled
    refine ⟨needs, [], (List.append_nil _).symm, reconciled, ?_, ?_⟩
    · rw [ran]
      exact reached_of_run regular local_fillTable valid distinct wf ran
    · rw [ran']
      exact reached_of_run regular local_fillTable valid distinct reconciled.changed.wellFormed ran'
  | error fault => exact stopAlike_of_error regular wf valid distinct filled h options

/-- What is planned and what is filled does not depend on whether `reconcile` was run before,
however that run ends. -/
theorem reconcile_before_fill (regular : catalogue.Regular) (wf : tree.WellFormed)
    {extraction : Extraction}
    (spaces : ∀ identity ∈ extraction.identities,
      LookupCall.isValidSpace identity.space = true)
    (tags : ∀ language ∈ extraction.languages, '/' ∉ language.toList)
    (distinct : extraction.languages.Nodup)
    (keys : ∀ identity ∈ extraction.identities, TableFile.Unmarked identity.key)
    (plain : ∀ identity ∈ extraction.identities, ∀ language ∈ extraction.languages,
      Plain catalogue tree (catalogue.filePath identity.space language))
    {result : Except WriteFault Outcome}
    (h : (catalogue.reconcile extraction.identities extraction.languages true).run tree =
      (result, middle)) :
    (∀ defaultLanguage targets,
        TranslationPlan.make catalogue middle extraction defaultLanguage targets =
          TranslationPlan.make catalogue tree extraction defaultLanguage targets) ∧
      ∀ options location,
        ((catalogue.fill extraction.identities extraction.languages options true).run
            middle).2.contentAt? location =
          ((catalogue.fill extraction.identities extraction.languages options true).run
            tree).2.contentAt? location := by
  have valid := valid_needs spaces tags
  have apart := @pairwise_needs extraction.identities extraction.languages distinct
  have filled (need : Need) (here : need ∈ needs extraction.identities extraction.languages) :=
    keys_ne_nil_of_mem_needs here
  obtain ⟨result', ran⟩ := exists_run_of_reconcile h
  refine ⟨fun defaultLanguage targets => ?_, fun options location => ?_⟩
  · -- The plan asks each table by itself, so it is compared table by table.
    obtain ⟨done, rest, whole, reconciled, -, -⟩ :=
      stopAlike_of_run regular wf valid apart filled ran ⟨.empty, [], none⟩
    refine TranslationPlan.make_congr fun need here => ?_
    have plainHere := plain_of_mem_needs plain here
    have keysHere := known_of_mem_needs keys here
    rw [whole] at valid apart here
    obtain ⟨apartDone, -, later⟩ := List.pairwise_append.mp apart
    have validDone (need : Need) (h : need ∈ done) := valid need (List.mem_append_left _ h)
    rcases List.mem_append.mp here with early | late
    · -- The table was completed, which changes nothing about its open keys.
      exact planTable_eq_of_reached regular wf validDone apartDone reconciled early plainHere
        keysHere extraction targets
    · -- The run has not come to this table.
      rw [TranslationPlan.planTable_eq, TranslationPlan.planTable_eq, reconciled.read_eq regular wf
        validDone (valid need here) fun first h => symm (later first h need late)]
  · -- Both runs of `fill` stop at the same table, if at all.
    obtain ⟨done, rest, whole, reconciled, first, second⟩ :=
      stopAlike_of_run regular wf valid apart filled ran options
    have among (need : Need) (h : need ∈ done) :
        need ∈ needs extraction.identities extraction.languages :=
      whole ▸ List.mem_append_left _ h
    have apartDone : done.Pairwise Need.Apart := by
      rw [whole] at apart
      exact (List.pairwise_append.mp apart).1
    unfold fill
    by_cases there : ∃ need ∈ done, location = need.place catalogue tree.here
    · obtain ⟨need, here, rfl⟩ := there
      exact content_eq_of_reached regular wf (fun need h => valid need (among need h)) apartDone
        reconciled here first second (plain_of_mem_needs plain (among need here))
        (known_of_mem_needs keys (among need here))
    · have elsewhere (need : Need) (h : need ∈ done) : location ≠ need.place catalogue tree.here :=
        fun same => there ⟨need, h, same⟩
      rw [first.contentAt?_elsewhere wf elsewhere,
        second.contentAt?_elsewhere reconciled.changed.wellFormed
          (reconciled.changed.here ▸ elsewhere),
        reconciled.contentAt?_elsewhere wf elsewhere]

/-- The menus are translated alike whether or not they are reconciled before. -/
theorem reconcile_before_fill_menus :
    let options : FillOptions := ⟨.ofList [((⟨"menu", "Open"⟩, "de"), "Auf")], [], some "en"⟩
    ∃ result middle,
      (menus.reconcile menuExtraction.identities menuExtraction.languages true).run menuFiles =
        (result, middle) ∧
      (TranslationPlan.make menus middle menuExtraction (some "en") []).jobs.length = 2 ∧
      ((menus.fill menuExtraction.identities menuExtraction.languages options true).run
          middle).2.contentAt? ["lang", "menu.de.ts"] =
        some (.text (TableFile.scaffold.renderWith
          (.ofList [("Open", "Auf"), ("Quit", "Quit")]))) := by
  intro options
  have regular : menus.Regular := ⟨by decide, by decide⟩
  have same := reconcile_before_fill regular (by decide +kernel : menuFiles.WellFormed)
    (Extraction.valid_of_ofProgram ofProgram_menuCalls) (by decide +kernel)
    (by decide +kernel) (by decide +kernel) (by decide +kernel)
    (rfl : (menus.reconcile menuExtraction.identities menuExtraction.languages true).run menuFiles =
      (_, _))
  have jobs :
      (TranslationPlan.make menus menuFiles menuExtraction (some "en") []).jobs.length = 2 := by
    decide +kernel
  exact ⟨_, _, rfl, (congrArg (fun plan => plan.jobs.length) (same.1 _ _)).trans jobs,
    (same.2 options _).trans (by decide +kernel)⟩

end Catalogue

end Phrasebook
