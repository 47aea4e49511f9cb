import Phrasebook.Proofs.Filling
import Phrasebook.Proofs.LookupCalls
import Phrasebook.Translation.Plan

/-!
# Translations that are committed

A translation takes three phases: a plan of the open texts, requests for them, and a run that fills
the tables. The plan looks at the tables as they are, the run at tables that it has completed with
placeholders; still both find the same texts open, so a run puts in the translations of the planned
texts and changes no other text.

- `TranslationPlan.mem_jobs_iff`, `TranslationPlan.pairwise_jobs`: what is planned, each text once;
- `TranslationBatch.get?_translations_iff`: the translations that a batch hands to the run;
- `Committed`: a table before and after the run;
- `FilledFile`: what a run leaves of the file of a table, even if it fails;
- `commit_changes_planned_texts`: what a run leaves of each table.
-/

namespace Phrasebook

open Catalogue (Need needs keysIn isOpen hasText)
open Source (Node)

/-! ## Identities -/

theorem Extraction.nodup_identities (extraction : Extraction) : extraction.identities.Nodup :=
  extraction.callSites.distinct

/-- Extraction finds only identities whose namespaces can name table files. -/
theorem Extraction.valid_of_ofProgram {program : Program} {extraction : Extraction}
    (h : ofProgram program = .ok extraction) :
    ∀ identity ∈ extraction.identities, LookupCall.isValidSpace identity.space = true := by
  intro identity here
  rw [identities, (recorded_of_ofProgram h).1, OrderedMap.mem_keys_foldl_push] at here
  rcases here with none | seen
  · cases none
  · rw [List.map_map] at seen
    obtain ⟨placed, among, rfl⟩ := List.mem_map.mp seen
    obtain ⟨root, -, inside⟩ := List.mem_flatMap.mp among
    obtain ⟨-, callee, arguments, -, classified⟩ := Program.mem_lookupsIn_iff.mp inside
    exact (LookupCall.ok_of_classify classified).2

theorem Catalogue.nodup_keysIn {identities : List Identity} (distinct : identities.Nodup)
    (space : String) : (keysIn identities space).Nodup := by
  refine (distinct.filter _).map_on ?_
  rintro ⟨space', key⟩ here ⟨other, key'⟩ there same
  have first := of_decide_eq_true (List.mem_filter.mp here).2
  have second := of_decide_eq_true (List.mem_filter.mp there).2
  dsimp only at first second same
  rw [first, second, same]

/-! ## Plans -/

/-- Two jobs ask for different texts, or for different languages. -/
def TranslationJob.Apart (job other : TranslationJob) : Prop :=
  ¬ (job.identity = other.identity ∧ job.language = other.language)

namespace TranslationPlan

variable {catalogue : Catalogue} {tree : FileTree} {extraction : Extraction}
  {defaultLanguage : Option String} {targets : List Identity} {need : Need} {table : Table}

/-- The keys of a table that are open. -/
theorem mem_jobsFor_iff {job : TranslationJob} :
    job ∈ jobsFor extraction targets need table ↔
      job.identity.key ∈ need.keys ∧
        isOpen targets job.identity ((table.get? job.identity.key).getD "") = true ∧
          job.identity.space = need.space ∧ job.language = need.language ∧
            job.occurrences = (extraction.sitesOf job.identity).length := by
  unfold jobsFor
  rw [List.mem_filterMap]
  constructor
  · rintro ⟨key, needed, made⟩
    dsimp only at made
    split at made
    · cases made
      exact ⟨needed, by assumption, rfl, rfl, rfl⟩
    · cases made
  · obtain ⟨⟨space, key⟩, language, occurrences⟩ := job
    rintro ⟨needed, reopened, rfl, rfl, counted⟩
    dsimp only at counted
    subst counted
    exact ⟨key, needed, if_pos reopened⟩

theorem pairwise_jobsFor (distinct : need.keys.Nodup) :
    (jobsFor extraction targets need table).Pairwise TranslationJob.Apart := by
  unfold jobsFor
  rw [List.pairwise_filterMap]
  refine distinct.imp fun {key other} differ job made job' made' same => ?_
  dsimp only at made made'
  split at made
  · split at made'
    · cases made
      cases made'
      exact differ (congrArg Identity.key same.1)
    · cases made'
  · cases made

/-- A table that can be read gets jobs for its open keys. -/
theorem jobs_planTable :
    (planTable catalogue tree extraction targets need).jobs =
      match catalogue.openTable tree (need.path catalogue) with
      | .error _ => []
      | .ok (file, _) => jobsFor extraction targets need file.table := by
  unfold planTable Need.path
  dsimp only
  rw [Catalogue.openTable_eq]
  rcases catalogue.read tree (catalogue.filePath need.space need.language) with _ | _ | file <;> rfl

/-- The tables that a plan looks at. -/
def plannedNeeds (extraction : Extraction) (defaultLanguage : Option String) : List Need :=
  (extraction.languages.filter fun language => some language != defaultLanguage).flatMap
    fun language => needs extraction.identities [language]

theorem jobs_make :
    (make catalogue tree extraction defaultLanguage targets).jobs =
      (plannedNeeds extraction defaultLanguage).flatMap fun need =>
        (planTable catalogue tree extraction targets need).jobs := by
  unfold make plannedNeeds
  dsimp only
  rw [List.flatMap_map]

theorem mem_plannedNeeds_iff :
    need ∈ plannedNeeds extraction defaultLanguage ↔
      need ∈ needs extraction.identities extraction.languages ∧
        some need.language ≠ defaultLanguage := by
  unfold plannedNeeds
  simp only [List.mem_flatMap, List.mem_filter, bne_iff_ne, Catalogue.mem_needs_iff,
    List.mem_singleton]
  constructor
  · rintro ⟨language, ⟨known, other⟩, ⟨used, rfl⟩, keys⟩
    exact ⟨⟨⟨used, known⟩, keys⟩, other⟩
  · rintro ⟨⟨⟨used, known⟩, keys⟩, other⟩
    exact ⟨need.language, ⟨known, other⟩, ⟨used, rfl⟩, keys⟩

theorem pairwise_plannedNeeds (distinct : extraction.languages.Nodup) :
    (plannedNeeds extraction defaultLanguage).Pairwise Need.Apart := by
  unfold plannedNeeds
  rw [List.pairwise_flatMap]
  refine ⟨fun language _ => Catalogue.pairwise_needs (List.nodup_singleton language), ?_⟩
  refine (distinct.filter _).imp fun {language other} differ need here need' there same => ?_
  have first := (Catalogue.mem_needs_iff.mp here).1.2
  have second := (Catalogue.mem_needs_iff.mp there).1.2
  rw [List.mem_singleton] at first second
  exact differ (first ▸ second ▸ same.2)

/-- No text is planned twice for a language. -/
theorem pairwise_jobs (distinct : extraction.languages.Nodup) :
    (make catalogue tree extraction defaultLanguage targets).jobs.Pairwise
      TranslationJob.Apart := by
  rw [jobs_make, List.pairwise_flatMap]
  constructor
  · -- Jobs for one table differ in their keys.
    intro need here
    have keys := (Catalogue.mem_needs_iff.mp (mem_plannedNeeds_iff.mp here).1).2
    rw [jobs_planTable]
    split
    · exact .nil
    · exact pairwise_jobsFor (keys ▸ Catalogue.nodup_keysIn extraction.nodup_identities _)
  · -- Jobs for two tables differ in the namespace or the language.
    refine (pairwise_plannedNeeds distinct).imp
      fun {need other} differ job here job' there same => ?_
    rw [jobs_planTable] at here there
    split at here
    · cases here
    · split at there
      · cases there
      · obtain ⟨-, -, space, language, -⟩ := mem_jobsFor_iff.mp here
        obtain ⟨-, -, space', language', -⟩ := mem_jobsFor_iff.mp there
        refine differ ⟨?_, ?_⟩
        · rw [← space, ← space', same.1]
        · rw [← language, ← language', same.2]

/-- What is planned for a table that is needed and can be read: its open keys, unless its language
is the default. -/
theorem mem_jobs_iff (here : need ∈ needs extraction.identities extraction.languages)
    {file : TableFile} {kind : ChangeKind}
    (opened : catalogue.openTable tree (need.path catalogue) = .ok (file, kind))
    {job : TranslationJob} (space : job.identity.space = need.space)
    (language : job.language = need.language) :
    job ∈ (make catalogue tree extraction defaultLanguage targets).jobs ↔
      some need.language ≠ defaultLanguage ∧ job ∈ jobsFor extraction targets need file.table := by
  rw [jobs_make, List.mem_flatMap]
  constructor
  · rintro ⟨other, planned, made⟩
    obtain ⟨there, foreign⟩ := mem_plannedNeeds_iff.mp planned
    -- The table of the job is the one that is needed.
    have same : other = need := by
      have placed : job.identity.space = other.space ∧ job.language = other.language := by
        rw [jobs_planTable] at made
        split at made
        · cases made
        · obtain ⟨-, -, space, language, -⟩ := mem_jobsFor_iff.mp made
          exact ⟨space, language⟩
      have keys := (Catalogue.mem_needs_iff.mp here).2
      have keys' := (Catalogue.mem_needs_iff.mp there).2
      rw [← placed.1, space, ← keys] at keys'
      obtain ⟨space', language', keys''⟩ := other
      dsimp only at placed keys'
      rw [keys', ← placed.1, ← placed.2, space, language]
    subst same
    rw [jobs_planTable, opened] at made
    exact ⟨foreign, made⟩
  · rintro ⟨foreign, made⟩
    refine ⟨need, mem_plannedNeeds_iff.mpr ⟨here, foreign⟩, ?_⟩
    rwa [jobs_planTable, opened]

/-- A text of such a table is planned if it is required and open, but never in the default
language. -/
theorem exists_job_iff (here : need ∈ needs extraction.identities extraction.languages)
    {file : TableFile} {kind : ChangeKind}
    (opened : catalogue.openTable tree (need.path catalogue) = .ok (file, kind)) {key : String} :
    (∃ job ∈ (make catalogue tree extraction defaultLanguage targets).jobs,
      job.identity = ⟨need.space, key⟩ ∧ job.language = need.language) ↔
      key ∈ need.keys ∧ some need.language ≠ defaultLanguage ∧
        isOpen targets ⟨need.space, key⟩ ((file.table.get? key).getD "") = true := by
  constructor
  · rintro ⟨job, made, identity, language⟩
    obtain ⟨foreign, made⟩ := (mem_jobs_iff here opened (by rw [identity]) language).mp made
    obtain ⟨needed, reopened, -⟩ := mem_jobsFor_iff.mp made
    rw [identity] at needed reopened
    exact ⟨needed, foreign, reopened⟩
  · rintro ⟨needed, foreign, reopened⟩
    refine ⟨⟨⟨need.space, key⟩, need.language, (extraction.sitesOf ⟨need.space, key⟩).length⟩, ?_,
      rfl, rfl⟩
    exact (mem_jobs_iff here opened rfl rfl).mpr
      ⟨foreign, mem_jobsFor_iff.mpr ⟨needed, reopened, rfl, rfl, rfl⟩⟩

end TranslationPlan

/-! ## Batches -/

namespace TranslationBatch

variable {batch : TranslationBatch} {translator : Translator} {program : Program}
  {extraction : Extraction} {radius : Nat} {jobs : List TranslationJob}

/-- The text has come as the translation of an identity into a language. -/
def Holds (batch : TranslationBatch) (identity : Identity) (language text : String) : Prop :=
  ∃ done ∈ batch.completed,
    done.job.identity = identity ∧ done.job.language = language ∧ done.text = text

theorem completed_ofJobs :
    (ofJobs translator program extraction radius jobs).completed = jobs.filterMap fun job =>
      (perform translator program extraction radius job).toOption := by
  unfold ofJobs
  dsimp only
  rw [List.filterMap_map]
  rfl

/-- A translation comes of a job whose request is answered. -/
theorem toOption_perform_eq_some_iff {job : TranslationJob} {done : CompletedTranslation} :
    (perform translator program extraction radius job).toOption = some done ↔
      done.job = job ∧
        translator (requestFor program extraction radius job) = .ok done.text := by
  unfold perform
  cases translator (requestFor program extraction radius job) with
  | error words => exact iff_of_false nofun (fun same => by cases same.2)
  | ok text =>
    obtain ⟨job', text'⟩ := done
    simp [Except.toOption, eq_comm]

theorem mem_completed_iff {done : CompletedTranslation} :
    done ∈ (ofJobs translator program extraction radius jobs).completed ↔
      done.job ∈ jobs ∧
        translator (requestFor program extraction radius done.job) = .ok done.text := by
  rw [completed_ofJobs, List.mem_filterMap]
  simp only [toOption_perform_eq_some_iff]
  constructor
  · rintro ⟨job, planned, rfl, answered⟩
    exact ⟨planned, answered⟩
  · rintro ⟨planned, answered⟩
    exact ⟨done.job, planned, rfl, answered⟩

/-- Each job is completed once at most. -/
theorem sublist_completed :
    ((ofJobs translator program extraction radius jobs).completed.map
      CompletedTranslation.job).Sublist jobs := by
  rw [completed_ofJobs]
  induction jobs with
  | nil => exact .slnil
  | cons job rest ih =>
    rw [List.filterMap_cons]
    cases done : (perform translator program extraction radius job).toOption with
    | none => exact ih.cons job
    | some completed =>
      rw [List.map_cons, (toOption_perform_eq_some_iff.mp done).1]
      exact ih.cons_cons job

/-- If no text was asked for twice, the texts of a batch are those that have come. -/
theorem get?_translations_iff
    (apart : (batch.completed.map CompletedTranslation.job).Pairwise TranslationJob.Apart)
    {identity : Identity} {language text : String} :
    batch.translations.get? (identity, language) = some text ↔
      batch.Holds identity language text := by
  have distinct : ((batch.completed.map fun done =>
      ((done.job.identity, done.job.language), done.text)).map Prod.fst).Nodup := by
    rw [List.map_map]
    unfold List.Nodup
    rw [List.pairwise_map] at apart ⊢
    exact apart.imp fun differ same => differ (Prod.mk.inj same)
  unfold translations
  rw [← OrderedMap.mem_entries_iff, OrderedMap.entries_ofList distinct, List.mem_map]
  unfold Holds
  simp [and_assoc]

end TranslationBatch

/-! ## Committed tables -/

/-- A table before and after the translations of a plan are committed. -/
structure Committed (jobs : List TranslationJob) (batch : TranslationBatch)
    (targets : List Identity) (defaultLanguage : Option String) (need : Need)
    (table final : Table) : Prop where
  /-- A text is planned if it is required and open, but never in the default language. -/
  planned : ∀ key,
    (∃ job ∈ jobs, job.identity = ⟨need.space, key⟩ ∧ job.language = need.language) ↔
      key ∈ need.keys ∧ some need.language ≠ defaultLanguage ∧
        isOpen targets ⟨need.space, key⟩ ((table.get? key).getD "") = true
  /-- A text that is there gives way only to its translation, if it was planned since it was a
  placeholder or is a target. -/
  replaced : ∀ key old, table.get? key = some old → old ≠ "" → final.get? key ≠ some old →
    (∃ job ∈ jobs, job.identity = ⟨need.space, key⟩ ∧ job.language = need.language) ∧
      (∃ text, batch.Holds ⟨need.space, key⟩ need.language text ∧ final.get? key = some text) ∧
        (old = key ∨ ⟨need.space, key⟩ ∈ targets)
  /-- Every translation arrives. -/
  translated : ∀ key text, batch.Holds ⟨need.space, key⟩ need.language text →
    final.get? key = some text
  /-- A required key without a text stands for itself as long as it has no translation. -/
  placeholder : ∀ key ∈ need.keys, hasText table key = false →
    (∀ text, ¬ batch.Holds ⟨need.space, key⟩ need.language text) → final.get? key = some key
  /-- Without a translation all other entries stay as they are. -/
  others : ∀ key, (key ∈ need.keys → hasText table key = true) →
    (∀ text, ¬ batch.Holds ⟨need.space, key⟩ need.language text) →
      final.get? key = table.get? key
  /-- No text of the default language gives way. -/
  default : some need.language = defaultLanguage → ∀ key old, table.get? key = some old →
    old ≠ "" → final.get? key = some old

namespace Catalogue

variable {catalogue : Catalogue} {tree after : FileTree} {extraction : Extraction}
  {defaultLanguage : Option String} {targets : List Identity} {need : Need}
  {batch : TranslationBatch} {file : TableFile} {kind : ChangeKind}

/-- A text that is not empty is open if it is a placeholder or a target. -/
theorem isOpen_iff {identity : Identity} {current : String} (filled : current ≠ "") :
    isOpen targets identity current = true ↔ current = identity.key ∨ identity ∈ targets := by
  have kept : current.isEmpty = false := by simpa using filled
  unfold isOpen isPlaceholder
  rw [kept, Bool.false_or, Bool.or_eq_true, beq_iff_eq, List.contains_iff_mem, eq_comm]

/-- A key that stands for itself is open. -/
theorem isOpen_self {identity : Identity} : isOpen targets identity identity.key = true := by
  simp [isOpen, isPlaceholder]

/-- A filled table is committed: the texts that the plan has found open are open still once the
placeholders are in. -/
theorem committed_filledTable
    (here : need ∈ needs extraction.identities extraction.languages)
    (distinct : extraction.languages.Nodup)
    (opened : catalogue.openTable tree (need.path catalogue) = .ok (file, kind))
    (asked : (batch.completed.map CompletedTranslation.job).Sublist
      (TranslationPlan.make catalogue tree extraction defaultLanguage targets).jobs) :
    Committed (TranslationPlan.make catalogue tree extraction defaultLanguage targets).jobs batch
      targets defaultLanguage need file.table
      (filledTable ⟨batch.translations, targets, defaultLanguage⟩ need file.table) := by
  have filled := filled_filledTable ⟨batch.translations, targets, defaultLanguage⟩ need file.table
  -- What the batch holds is what its map of translations finds, as its jobs are distinct.
  have found {key text : String} := @TranslationBatch.get?_translations_iff batch
    ((TranslationPlan.pairwise_jobs distinct).sublist asked) ⟨need.space, key⟩ need.language text
  have planned {key : String} := @TranslationPlan.exists_job_iff catalogue tree extraction
    defaultLanguage targets need here file kind opened key
  have asked {key text : String} (holds : batch.Holds ⟨need.space, key⟩ need.language text) :
      ∃ job ∈ (TranslationPlan.make catalogue tree extraction defaultLanguage targets).jobs,
        job.identity = ⟨need.space, key⟩ ∧ job.language = need.language := by
    obtain ⟨done, completed, identity, language, -⟩ := holds
    exact ⟨done.job, asked.subset (List.mem_map.mpr ⟨done, completed, rfl⟩), identity, language⟩
  -- A text of the batch is set: its key was planned, so what it had was open.
  have translated (key text : String) (holds : batch.Holds ⟨need.space, key⟩ need.language text) :
      (filledTable ⟨batch.translations, targets, defaultLanguage⟩ need file.table).get? key =
        some text := by
    obtain ⟨needed, -, reopened⟩ := planned.mp (asked holds)
    cases has : hasText file.table key with
    | false =>
      rw [filled.empty key needed has, FillOptions.textOf_of_some (found.mpr holds)]
      exact congrArg some (if_pos isOpen_self)
    | true =>
      obtain ⟨old, present, some⟩ := hasText_iff.mp has
      rw [present, Option.getD_some] at reopened
      rw [filled.text key needed old present some,
        FillOptions.textOf_of_some (found.mpr holds)]
      exact congrArg _ (if_pos reopened)
  have unanswered {key : String}
      (none : ∀ text, ¬ batch.Holds ⟨need.space, key⟩ need.language text) :
      batch.translations.get? (⟨need.space, key⟩, need.language) = .none :=
    Option.eq_none_iff_forall_ne_some.mpr fun text present => none text (found.mp present)
  -- Where the batch holds nothing, a text stays, and so does a key that is not needed.
  have others (key : String) (has : key ∈ need.keys → hasText file.table key = true)
      (none : ∀ text, ¬ batch.Holds ⟨need.space, key⟩ need.language text) :
      (filledTable ⟨batch.translations, targets, defaultLanguage⟩ need file.table).get? key =
        file.table.get? key := by
    by_cases needed : key ∈ need.keys
    · obtain ⟨old, present, some⟩ := hasText_iff.mp (has needed)
      rw [filled.text key needed old present some, FillOptions.textOf_of_none (unanswered none),
        present]
    · exact filled.others key needed
  -- So a text that has gone was replaced by one of the batch.
  have replaced (key old : String) (present : file.table.get? key = some old) (some : old ≠ "")
      (gone : (filledTable ⟨batch.translations, targets, defaultLanguage⟩ need file.table).get?
        key ≠ .some old) : ∃ text, batch.Holds ⟨need.space, key⟩ need.language text := by
    by_contra none
    refine gone ((others key (fun _ => hasText_iff.mpr ⟨old, present, some⟩) ?_).trans present)
    exact fun text holds => none ⟨text, holds⟩
  -- One goal for each field of `Committed` that is not one of these facts.
  refine ⟨fun key => planned, fun key old present some gone => ?_, translated,
    fun key needed empty none => ?_, others, fun default key old present some => ?_⟩
  · obtain ⟨text, holds⟩ := replaced key old present some gone
    obtain ⟨-, -, reopened⟩ := planned.mp (asked holds)
    rw [present, Option.getD_some] at reopened
    exact ⟨asked holds, ⟨text, holds, translated key text holds⟩, (isOpen_iff some).mp reopened⟩
  · rw [filled.empty key needed empty, FillOptions.textOf_of_none (unanswered none)]
  · by_contra gone
    obtain ⟨text, holds⟩ := replaced key old present some gone
    exact (planned.mp (asked holds)).2.1 default

/-! ## Committing -/

/-- What a run that fills the tables leaves of the file of one: it holds the filled table, or what
it held if this is the filled table already or the run fails before it can write it. -/
structure FilledFile (catalogue : Catalogue) (options : FillOptions) (need : Need)
    (result : Except WriteFault Outcome) (tree after : FileTree) : Prop where
  faulty : ∀ fault, catalogue.read tree (need.path catalogue) = .error fault →
    after.contentOf? (need.path catalogue) = tree.contentOf? (need.path catalogue)
  filled : ∀ file kind, catalogue.openTable tree (need.path catalogue) = .ok (file, kind) →
    after.contentOf? (need.path catalogue) =
        some (.text (file.renderWith (filledTable options need file.table))) ∨
      after.contentOf? (need.path catalogue) = tree.contentOf? (need.path catalogue) ∧
        (filledTable options need file.table = file.table ∨
          ∃ fault change, result = .error fault ∧
            (catalogue.fillTable options tree need).change = some (change, need.path catalogue,
              file.renderWith (filledTable options need file.table)))

theorem filledFile_of_run {options : FillOptions} (regular : catalogue.Regular)
    (wf : tree.WellFormed) {needs : List Need} (valid : ∀ need ∈ needs, need.Valid)
    (distinct : needs.Pairwise Need.Apart) {result : Except WriteFault Outcome}
    (h : (catalogue.run true (catalogue.fillTable options) needs).run tree = (result, after))
    (here : need ∈ needs) : FilledFile catalogue options need result tree after := by
  -- The run has come to the tables `done`, to all of them unless it has failed.
  obtain ⟨done, rest, rfl, whole, changed, stored⟩ :=
    run_spec regular local_fillTable valid distinct wf h
  have validFirst (need : Need) (here : need ∈ done) := valid need (List.mem_append_left _ here)
  obtain ⟨distinctFirst, -, between⟩ := List.pairwise_append.mp distinct
  -- What a table holds stays where it is not written: not reached, or nothing due to it.
  have unwritten (kept : need ∈ rest ∨ (catalogue.fillTable options tree need).change = none) :
      after.contentOf? (need.path catalogue) = tree.contentOf? (need.path catalogue) := by
    refine FileTree.contentOf?_congr fun entry => ?_
    by_cases first : need ∈ done ∧ (catalogue.fillTable options tree need).change = none
    · exact find_of_unwritten regular wf validFirst distinctFirst changed first.1 first.2 entry
    · -- A table that the run has not come to is apart from those that it has written.
      have later : need ∈ rest := by
        rcases List.mem_append.mp here with early | late
        · exact kept.resolve_right fun none => first ⟨early, none⟩
        · exact late
      refine (changed.find regular wf (fun other h => ?_) (valid need here) fun other h => ?_).symm
      · exact validFirst other (List.mem_filter.mp h).1
      · exact Std.Symm.symm _ _ (between other (List.mem_filter.mp h).1 need later)
  refine ⟨fun fault faulty => unwritten (.inr ?_), fun file kind opened => ?_⟩
  · -- A table that cannot be read is due nothing.
    rw [change_fillTable, openTable_eq, faulty]
  · cases change : (catalogue.fillTable options tree need).change with
    | none => exact .inr ⟨unwritten (.inr change), .inl (filledTable_of_unwritten opened change)⟩
    | some new =>
      obtain ⟨change', path, text⟩ := new
      obtain ⟨file', kind', opened', rfl, rfl⟩ := change_fillTable_eq_some change
      cases opened.symm.trans opened'
      -- Something is due: it was written if the run has come so far, and else the run has failed.
      rcases List.mem_append.mp here with early | late
      · exact .inl (FileTree.contentOf?_eq_some_iff.mpr (stored need early _ _ _ change).find)
      · obtain ⟨fault, failed⟩ := whole.resolve_left (List.ne_nil_of_mem late)
        exact .inr ⟨unwritten (.inl late), .inr ⟨fault, change', failed, rfl⟩⟩

/-- Planned texts are translated and committed, on the tree that they were planned for. A table that
could not be read is left as it is. Any other one is committed and keeps the text around it, unless
the run fails before it can write it. No other file changes. -/
theorem commit_changes_planned_texts {program : Program}
    (extracted : Extraction.ofProgram program = .ok extraction) (regular : catalogue.Regular)
    (wf : tree.WellFormed) (tags : ∀ language ∈ extraction.languages, '/' ∉ language.toList)
    (defaultLanguage : Option String) (targets : List Identity) (translator : Translator)
    (radius : Nat) {jobs : List TranslationJob} {batch : TranslationBatch}
    {result : Except WriteFault Outcome}
    (plan : jobs = (TranslationPlan.make catalogue tree extraction defaultLanguage targets).jobs)
    (asked : batch = TranslationBatch.ofJobs translator program extraction radius jobs)
    (h : (catalogue.commit extraction ⟨batch.translations, targets, defaultLanguage⟩).run tree =
      (result, after)) :
    (∀ done, done ∈ batch.completed ↔ done.job ∈ jobs ∧
      translator (TranslationBatch.requestFor program extraction radius done.job) =
        .ok done.text) ∧
    (∀ identity ∈ extraction.identities, ∀ language ∈ extraction.languages,
      let path := catalogue.filePath identity.space language
      (∀ fault, catalogue.read tree path = .error fault →
        after.contentOf? path = tree.contentOf? path) ∧
      ∀ file kind, catalogue.openTable tree path = .ok (file, kind) →
        let need := ⟨identity.space, language, keysIn extraction.identities identity.space⟩
        ∃ final, Committed jobs batch targets defaultLanguage need file.table final ∧
          (after.contentOf? path = some (.text (file.renderWith final)) ∨
            after.contentOf? path = tree.contentOf? path ∧
              (final = file.table ∨ ∃ fault change, result = .error fault ∧
                (catalogue.fillTable ⟨batch.translations, targets, defaultLanguage⟩ tree
                  need).change = some (change, path, file.renderWith final)))) ∧
    ∀ location, (∀ identity ∈ extraction.identities, ∀ language ∈ extraction.languages,
        after.locate (catalogue.filePath identity.space language) ≠ .ok location) →
      after.contentAt? location = tree.contentAt? location := by
  subst plan
  subst asked
  have distinct := (Extraction.recorded_of_ofProgram extracted).2.2
  have valid := valid_needs (Extraction.valid_of_ofProgram extracted) tags
  have apart := @pairwise_needs extraction.identities extraction.languages distinct
  unfold commit fill at h
  refine ⟨fun done => TranslationBatch.mem_completed_iff,
    fun identity used language known => ?_, fun location unneeded => ?_⟩
  · -- A table that is needed: the run over all tables tells what its file holds.
    have here : (⟨identity.space, language, keysIn extraction.identities identity.space⟩ : Need) ∈
        needs extraction.identities extraction.languages :=
      mem_needs_iff.mpr ⟨⟨⟨identity, used, rfl⟩, known⟩, rfl⟩
    obtain ⟨faulty, filled⟩ := filledFile_of_run regular wf valid apart h here
    refine ⟨faulty, fun file kind opened => ⟨_, committed_filledTable here distinct opened
      TranslationBatch.sublist_completed, filled file kind opened⟩⟩
  · -- A location that is the file of no needed table.
    refine contentAt?_of_run regular local_fillTable valid apart wf h fun need here => ?_
    obtain ⟨⟨⟨identity, used, same⟩, known⟩, -⟩ := mem_needs_iff.mp here
    unfold Need.path
    exact same ▸ unneeded identity used need.language known

/-- A program with a menu of two entries in two languages. -/
def menuCalls : Program :=
  let entry (start : Nat) (key : String) : Node :=
    .call start (.member (.name start "i18n") (some "nsText"))
      [.text (start + 12) (start + 18) ⟨"menu", true⟩, .text (start + 20) (start + 26) ⟨key, true⟩]
  let languages : Node := .array [.text 9 13 ⟨"en", true⟩, .text 15 19 ⟨"de", true⟩]
  let text :=
    "new I18n([\"en\", \"de\"]);\n" ++ "i18n.nsText(\"menu\", \"Open\");\n" ++
      "i18n.nsText(\"menu\", \"Quit\");"
  let statements := [.construct 0 "I18NCONSTRUCTORSYMBOL" (.name 4 "I18n") [languages],
    entry 25 "Open", entry 54 "Quit"]
  ⟨#[⟨⟨"/app.ts"⟩, "app.ts", ⟨text, false, statements.map .statement⟩, .empty, .empty, true, []⟩],
    #[⟨"nsText", .member, 0, "* I18NNSLOCTEXTSYMBOL ", some .namespacedLookup, none⟩], []⟩

/-- What the menu asks of its tables. -/
def menuExtraction : Extraction := (Extraction.ofProgram menuCalls).toOption.getD default

theorem ofProgram_menuCalls : Extraction.ofProgram menuCalls = .ok menuExtraction := by
  have done : (Extraction.ofProgram menuCalls).toOption.isSome = true := by decide +kernel
  unfold menuExtraction
  cases found : Extraction.ofProgram menuCalls with
  | error fault =>
    rw [found] at done
    cases done
  | ok extraction => rfl

/-- A service that knows one word. -/
def oneWord : Translator := fun request =>
  if request.text = "Open" then .ok "Auf" else .error "busy"

/-- The menu is not yet there in German, and one of its entries is translated. -/
theorem menus_committed :
    let jobs := (TranslationPlan.make menus menuFiles menuExtraction (some "en") []).jobs
    let batch := TranslationBatch.ofJobs oneWord menuCalls menuExtraction 80 jobs
    ∃ outcome after,
      (menus.commit menuExtraction ⟨batch.translations, [], some "en"⟩).run menuFiles =
        (.ok outcome, after) ∧
      jobs.length = 2 ∧
      (∃ final, Committed jobs batch [] (some "en") ⟨"menu", "de", ["Open", "Quit"]⟩ .empty final) ∧
      after.contentOf? ⟨"/lang/menu.de.ts"⟩ = some (.text (TableFile.scaffold.renderWith
        (.ofList [("Open", "Auf"), ("Quit", "Quit")]))) := by
  intro jobs batch
  -- The run is evaluated once, for its outcome and for the table it leaves.
  have runs : (fun done : Except WriteFault Outcome × FileTree =>
      (done.1.toOption.isSome, done.2.contentOf? ⟨"/lang/menu.de.ts"⟩))
        ((menus.commit menuExtraction ⟨batch.translations, [], some "en"⟩).run menuFiles) =
      (true, some (.text (TableFile.scaffold.renderWith
        (.ofList [("Open", "Auf"), ("Quit", "Quit")])))) := by
    decide +kernel
  cases done : (menus.commit menuExtraction ⟨batch.translations, [], some "en"⟩).run menuFiles with
  | mk result after =>
    rw [done] at runs
    obtain ⟨runs, text⟩ := Prod.mk.inj runs
    cases result with
    | error fault => cases runs
    | ok outcome =>
      have regular : menus.Regular := ⟨by decide, by decide⟩
      have wf : menuFiles.WellFormed := by decide +kernel
      have committed := (commit_changes_planned_texts ofProgram_menuCalls regular wf
        (by decide +kernel) (some "en") [] oneWord 80 rfl rfl done).2.1 ⟨"menu", "Open"⟩
        (by decide +kernel) "de" (by decide +kernel)
      have keys : keysIn menuExtraction.identities "menu" = ["Open", "Quit"] := by decide +kernel
      -- There is no German menu yet, so the scaffold is filled.
      have absent : menus.openTable menuFiles (menus.filePath "menu" "de") =
          .ok (.scaffold, .created) := by
        have none : menus.read menuFiles (menus.filePath "menu" "de") = .ok none :=
          if_neg (by decide +kernel)
        rw [openTable_eq, none]
      obtain ⟨final, here, -⟩ := committed.2 _ _ absent
      exact ⟨outcome, after, rfl, by decide +kernel, ⟨final, keys ▸ here⟩, text⟩

end Catalogue

end Phrasebook
