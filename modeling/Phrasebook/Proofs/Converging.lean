import Phrasebook.Proofs.Commuting
import Phrasebook.Proofs.Operations

/-!
# Translations that settle

Texts that are translated and committed are not planned again. What remains of a plan are the texts
whose requests have failed and those whose translation is the key itself, which reads like a
placeholder; and if the run that fills the tables fails, the texts of the tables that it has not
come to.

- `TranslationBatch.get?_translations_of_mem`: what a batch hands over for a planned text;
- `TranslationPlan.jobsFor_filledTable`: what a filled table still asks for;
- `openTable_of_reached`: a filled table is opened again;
- `plan_after_commit`: the second plan is what remains of the first one, in its order.
-/

namespace Phrasebook

open Catalogue (Need isOpen hasText filledTable filled_filledTable hasText_iff isOpen_self)

instance : Std.Symm TranslationJob.Apart :=
  ⟨fun _ _ apart same => apart ⟨same.1.symm, same.2.symm⟩⟩

/-! ## Batches -/

namespace TranslationBatch

variable {translator : Translator} {program : Program} {extraction : Extraction} {radius : Nat}
  {jobs : List TranslationJob}

/-- The request of a job fails, or its key is translated by itself. -/
def leavesOpen (translator : Translator) (program : Program) (extraction : Extraction)
    (radius : Nat) (job : TranslationJob) : Bool :=
  match translator (requestFor program extraction radius job) with
  | .error _ => true
  | .ok text => isPlaceholder job.identity.key text

/-- For a planned text the batch holds the answer to its request. -/
theorem get?_translations_of_mem (apart : jobs.Pairwise TranslationJob.Apart)
    {job : TranslationJob} (here : job ∈ jobs) :
    (ofJobs translator program extraction radius jobs).translations.get?
        (job.identity, job.language) =
      (translator (requestFor program extraction radius job)).toOption := by
  refine Option.ext fun text => ?_
  rw [get?_translations_iff (apart.sublist sublist_completed)]
  have answered : (translator (requestFor program extraction radius job)).toOption = some text ↔
      translator (requestFor program extraction radius job) = .ok text := by
    cases translator (requestFor program extraction radius job) <;> simp [Except.toOption]
  rw [answered]
  constructor
  · rintro ⟨done, completed, identity, language, rfl⟩
    obtain ⟨planned, answer⟩ := mem_completed_iff.mp completed
    -- No other job asks for the same text.
    have same : done.job = job := by
      by_contra other
      exact apart.forall planned here other ⟨identity, language⟩
    rwa [same] at answer
  · intro answer
    exact ⟨⟨job, text⟩, mem_completed_iff.mpr ⟨here, answer⟩, rfl, rfl, rfl⟩

/-- All texts of a batch have come of its jobs. -/
theorem forall_translations {property : String → Prop}
    (apart : jobs.Pairwise TranslationJob.Apart)
    (texts : ∀ done ∈ (ofJobs translator program extraction radius jobs).completed,
      property done.text) :
    ∀ text ∈ (ofJobs translator program extraction radius jobs).translations.entries.map Prod.snd,
      property text := by
  intro text among
  obtain ⟨⟨⟨identity, language⟩, value⟩, entry, rfl⟩ := List.mem_map.mp among
  have found := OrderedMap.mem_entries_iff.mp entry
  rw [get?_translations_iff (apart.sublist sublist_completed)] at found
  obtain ⟨done, completed, -, -, rfl⟩ := found
  exact texts done completed

/-- A text that is not empty leaves its entry open only if it reads like a placeholder. -/
theorem isOpen_eq_leavesOpen (apart : jobs.Pairwise TranslationJob.Apart)
    (filled : ∀ done ∈ (ofJobs translator program extraction radius jobs).completed,
      done.text ≠ "") {job : TranslationJob} (here : job ∈ jobs) :
    isOpen [] job.identity (((ofJobs translator program extraction radius jobs).translations.get?
        (job.identity, job.language)).getD "") =
      leavesOpen translator program extraction radius job := by
  rw [get?_translations_of_mem apart here]
  unfold leavesOpen
  cases answer : translator (requestFor program extraction radius job) with
  | error words => rfl
  | ok text =>
    have some : text ≠ "" := filled ⟨job, text⟩ (mem_completed_iff.mpr ⟨here, answer⟩)
    have kept : text.isEmpty = false := by simpa using some
    simp [Except.toOption, isOpen, kept]

end TranslationBatch

/-! ## Filled tables -/

/-- A required text is open once its table is filled if it was open before and its translation
leaves it open. A text that was not open is as it was; one that was open has its translation, or
else still stands for itself. -/
theorem Catalogue.isOpen_filledTable (options : FillOptions) (need : Need) (table : Table)
    {key : String} (needed : key ∈ need.keys) :
    isOpen options.targets ⟨need.space, key⟩
        (((filledTable options need table).get? key).getD "") =
      (isOpen options.targets ⟨need.space, key⟩ ((table.get? key).getD "") &&
        isOpen options.targets ⟨need.space, key⟩
          ((options.translations.get? (⟨need.space, key⟩, need.language)).getD "")) := by
  have filled := filled_filledTable options need table
  have missing : isOpen options.targets ⟨need.space, key⟩ "" = true := rfl
  have waits : isOpen options.targets ⟨need.space, key⟩ key = true :=
    @isOpen_self options.targets ⟨need.space, key⟩
  cases has : hasText table key with
  -- The key has no text, which counts as open: it gets the one of the batch, or itself.
  | false =>
    rw [filled.empty key needed has, text_eq_empty_of_hasText has, missing, Bool.true_and,
      Option.getD_some]
    cases found : options.translations.get? (⟨need.space, key⟩, need.language) with
    | none =>
      rw [FillOptions.textOf_of_none found, waits]
      rfl
    | some text =>
      rw [FillOptions.textOf_of_some found, if_pos waits]
      rfl
  -- The key has a text, which is replaced if it is open and the batch has another.
  | true =>
    obtain ⟨old, present, some⟩ := hasText_iff.mp has
    rw [filled.text key needed old present some, present, Option.getD_some, Option.getD_some]
    cases found : options.translations.get? (⟨need.space, key⟩, need.language) with
    | none =>
      rw [FillOptions.textOf_of_none found, Option.getD_none, missing, Bool.and_true]
    | some text =>
      rw [FillOptions.textOf_of_some found, Option.getD_some]
      by_cases reopened : isOpen options.targets ⟨need.space, key⟩ old = true
      · rw [if_pos reopened, reopened, Bool.true_and]
      · rw [if_neg reopened, Bool.eq_false_iff.mpr reopened, Bool.false_and]

namespace TranslationPlan

variable {extraction : Extraction}

/-- A filled table asks for those of its texts again whose translations leave them open. -/
theorem jobsFor_filledTable (options : Catalogue.FillOptions) (need : Need) (table : Table) :
    jobsFor extraction options.targets need (filledTable options need table) =
      (jobsFor extraction options.targets need table).filter fun job =>
        isOpen options.targets job.identity
          ((options.translations.get? (job.identity, job.language)).getD "") := by
  unfold jobsFor
  rw [List.filter_filterMap]
  refine List.filterMap_congr fun key needed => ?_
  dsimp only
  rw [Catalogue.isOpen_filledTable options need table needed]
  cases isOpen options.targets ⟨need.space, key⟩ ((table.get? key).getD "") with
  | false => rfl
  | true => rw [Bool.true_and, if_pos rfl, Option.filter_some]

end TranslationPlan

namespace Catalogue

variable {catalogue : Catalogue} {tree after : FileTree} {need : Need} {needs done : List Need}
  {options : FillOptions}

/-! ## Tables that were filled -/

section Reached

variable (regular : catalogue.Regular) (wf : tree.WellFormed) (valid : ∀ need ∈ done, need.Valid)
  (distinct : done.Pairwise Need.Apart)
  (reached : Reached catalogue (catalogue.fillTable options) done tree after) (here : need ∈ done)

include regular wf valid distinct reached here

theorem openTable_of_unwritten (none : (catalogue.fillTable options tree need).change = .none) :
    catalogue.openTable after (need.path catalogue) =
      catalogue.openTable tree (need.path catalogue) := by
  rw [openTable_eq, openTable_eq,
    read_congr (find_of_unwritten regular wf valid distinct reached.changed here none)]

/-- A table that could not be opened cannot be opened now. -/
theorem openTable_of_faulty {fault : TableReadFault}
    (faulty : catalogue.openTable tree (need.path catalogue) = .error fault) :
    catalogue.openTable after (need.path catalogue) = .error fault := by
  have unwritten : (catalogue.fillTable options tree need).change = none := by
    rw [change_fillTable, faulty]
  rw [openTable_of_unwritten regular wf valid distinct reached here unwritten, faulty]

/-- Any other table is opened with its texts filled in, if no mark is in the way. -/
theorem openTable_of_reached (plain : Plain catalogue tree (need.path catalogue))
    (keys : ∀ key ∈ need.keys, TableFile.Unmarked key)
    (texts : ∀ text ∈ options.translations.entries.map Prod.snd, TableFile.Unmarked text)
    {file : TableFile} {kind : ChangeKind}
    (opened : catalogue.openTable tree (need.path catalogue) = .ok (file, kind)) :
    ∃ file' kind', catalogue.openTable after (need.path catalogue) = .ok (file', kind') ∧
      file'.table = filledTable options need file.table := by
  cases written : (catalogue.fillTable options tree need).change with
  | none =>
    rw [openTable_of_unwritten regular wf valid distinct reached here written]
    exact ⟨file, kind, opened, (filledTable_of_unwritten opened written).symm⟩
  | some new =>
    obtain ⟨change, path, text⟩ := new
    obtain ⟨file', kind', opened', -, rfl⟩ := change_fillTable_eq_some written
    cases opened.symm.trans opened'
    -- What is written is read back, since no text has a mark in it.
    have clear : file.Clear (filledTable options need file.table) :=
      TableFile.clear_of_unmarked ((filled_filledTable options need file.table).all_known
        (plain.unmarked opened) keys texts) file
    have read := read_of_stored (framed_of_openTable opened) clear
      (reached.stored need here _ _ _ written)
    exact ⟨_, .updated, by rw [openTable_eq, read], rfl⟩

/-- The plan for a table that was filled: what its translations leave open. -/
theorem jobs_planTable_of_reached (plain : Plain catalogue tree (need.path catalogue))
    (keys : ∀ key ∈ need.keys, TableFile.Unmarked key)
    (texts : ∀ text ∈ options.translations.entries.map Prod.snd, TableFile.Unmarked text)
    (extraction : Extraction) :
    (TranslationPlan.planTable catalogue after extraction options.targets need).jobs =
      (TranslationPlan.planTable catalogue tree extraction options.targets need).jobs.filter
        fun job => isOpen options.targets job.identity
          ((options.translations.get? (job.identity, job.language)).getD "") := by
  rw [TranslationPlan.jobs_planTable, TranslationPlan.jobs_planTable]
  cases opened : catalogue.openTable tree (need.path catalogue) with
  | error fault =>
    rw [openTable_of_faulty regular wf valid distinct reached here opened]
    rfl
  | ok found =>
    obtain ⟨file, kind⟩ := found
    obtain ⟨file', kind', reopened, same⟩ :=
      openTable_of_reached regular wf valid distinct reached here plain keys texts opened
    rw [reopened]
    dsimp only
    rw [same, TranslationPlan.jobsFor_filledTable]

end Reached

/-! ## The second plan -/

/-- A job for a table that is needed asks for its namespace and its language. -/
theorem placed_of_mem_planTable {extraction : Extraction} {targets : List Identity}
    {job : TranslationJob}
    (h : job ∈ (TranslationPlan.planTable catalogue tree extraction targets need).jobs) :
    job.identity.space = need.space ∧ job.language = need.language := by
  rw [TranslationPlan.jobs_planTable] at h
  split at h
  · cases h
  · obtain ⟨-, -, space, language, -⟩ := TranslationPlan.mem_jobsFor_iff.mp h
    exact ⟨space, language⟩

/-- The job is for one of some tables. -/
def isAmong (needs : List Need) (job : TranslationJob) : Bool :=
  needs.any fun need => need.space == job.identity.space && need.language == job.language

theorem isAmong_of_mem {extraction : Extraction} {targets : List Identity} {job : TranslationJob}
    (here : need ∈ needs)
    (h : job ∈ (TranslationPlan.planTable catalogue tree extraction targets need).jobs) :
    isAmong needs job = true := by
  obtain ⟨space, language⟩ := placed_of_mem_planTable h
  rw [isAmong, List.any_eq_true]
  exact ⟨need, here, by simp [space, language]⟩

theorem isAmong_of_apart {extraction : Extraction} {targets : List Identity} {job : TranslationJob}
    (apart : ∀ other ∈ needs, need.Apart other)
    (h : job ∈ (TranslationPlan.planTable catalogue tree extraction targets need).jobs) :
    isAmong needs job = false := by
  obtain ⟨space, language⟩ := placed_of_mem_planTable h
  rw [isAmong, List.any_eq_false]
  intro other there same
  rw [Bool.and_eq_true, beq_iff_eq, beq_iff_eq] at same
  exact apart other there ⟨(same.1.trans space).symm, (same.2.trans language).symm⟩

/-- Planned texts are translated and committed, on the tree that they were planned for. A plan made
then holds, in the order of the first one, the jobs that have failed and those that have translated
a key by itself; and if the commit has failed, the jobs for the tables that it has not come to. -/
theorem plan_after_commit {program : Program} {extraction : Extraction}
    (extracted : Extraction.ofProgram program = .ok extraction) (regular : catalogue.Regular)
    (wf : tree.WellFormed) (tags : ∀ language ∈ extraction.languages, '/' ∉ language.toList)
    (keys : ∀ identity ∈ extraction.identities, TableFile.Unmarked identity.key)
    (plain : ∀ identity ∈ extraction.identities, ∀ language ∈ extraction.languages,
      Plain catalogue tree (catalogue.filePath identity.space language))
    (defaultLanguage : Option String) (translator : Translator) (radius : Nat)
    {jobs : List TranslationJob} {batch : TranslationBatch} {result : Except WriteFault Outcome}
    (plan : jobs = (TranslationPlan.make catalogue tree extraction defaultLanguage []).jobs)
    (asked : batch = TranslationBatch.ofJobs translator program extraction radius jobs)
    (texts : ∀ done ∈ batch.completed, done.text ≠ "" ∧ TableFile.Unmarked done.text)
    (h : (catalogue.commit extraction ⟨batch.translations, [], defaultLanguage⟩).run tree =
      (result, after)) :
    let again := (TranslationPlan.make catalogue after extraction defaultLanguage []).jobs
    let leavesOpen := TranslationBatch.leavesOpen translator program extraction radius
    (∀ outcome, result = .ok outcome → again = jobs.filter leavesOpen) ∧
    ∀ fault, result = .error fault →
      ∃ done rest, Catalogue.needs extraction.identities extraction.languages = done ++ rest ∧
        again = jobs.filter fun job => leavesOpen job || isAmong rest job := by
  subst plan
  subst asked
  have distinct := (Extraction.recorded_of_ofProgram extracted).2.2
  have valid := valid_needs (Extraction.valid_of_ofProgram extracted) tags
  have apart := @pairwise_needs extraction.identities extraction.languages distinct
  have apartJobs := @TranslationPlan.pairwise_jobs catalogue tree extraction defaultLanguage []
    distinct
  unfold commit fill at h
  -- The run has filled the tables `done` and has not come to `rest`.
  obtain ⟨done, rest, whole, ending, changed, stored⟩ :=
    run_spec regular local_fillTable valid apart wf h
  have validDone (need : Need) (early : need ∈ done) : need.Valid :=
    valid need (whole ▸ List.mem_append_left _ early)
  rw [whole] at apart
  obtain ⟨apartDone, -, later⟩ := List.pairwise_append.mp apart
  have reached : Reached catalogue _ done tree after := ⟨changed, stored⟩
  intro again leavesOpen
  -- What is planned for each table, by whether the run has come to it.
  have remains : again =
      (TranslationPlan.make catalogue tree extraction defaultLanguage []).jobs.filter fun job =>
        leavesOpen job || isAmong rest job := by
    show (TranslationPlan.make catalogue after extraction defaultLanguage []).jobs = _
    rw [TranslationPlan.jobs_make, TranslationPlan.jobs_make, List.filter_flatMap]
    refine List.flatMap_congr fun need planned => ?_
    have here := (TranslationPlan.mem_plannedNeeds_iff.mp planned).1
    rcases List.mem_append.mp (whole ▸ here) with early | late
    · -- The table was filled: what stays open is what the batch has left open.
      rw [jobs_planTable_of_reached regular wf validDone apartDone reached early
        (plain_of_mem_needs plain here) (known_of_mem_needs keys here)
        (TranslationBatch.forall_translations apartJobs fun done h => (texts done h).2) extraction]
      refine List.filter_congr fun job made => ?_
      have listed :
          job ∈ (TranslationPlan.make catalogue tree extraction defaultLanguage []).jobs := by
        rw [TranslationPlan.jobs_make]
        exact List.mem_flatMap.mpr ⟨need, planned, made⟩
      rw [TranslationBatch.isOpen_eq_leavesOpen apartJobs (fun done h => (texts done h).1) listed,
        isAmong_of_apart (later need early) made, Bool.or_false]
    · -- The table was not reached: it is read as before, and all its jobs remain.
      have same : catalogue.openTable after (need.path catalogue) =
          catalogue.openTable tree (need.path catalogue) := by
        rw [openTable_eq, openTable_eq, reached.read_eq regular wf validDone (valid need here)
          fun first early => symm (later first early need late)]
      rw [TranslationPlan.jobs_planTable, same, ← TranslationPlan.jobs_planTable]
      refine (List.filter_eq_self.mpr fun job made => ?_).symm
      rw [isAmong_of_mem late made, Bool.or_true]
  refine ⟨fun outcome succeeded => ?_, fun fault _ => ⟨done, rest, whole, remains⟩⟩
  -- A run that succeeds has come to every table.
  have complete : rest = [] := by
    rcases ending with none | ⟨fault, failed⟩
    · exact none
    · cases succeeded.symm.trans failed
  rw [remains, complete]
  exact List.filter_congr fun job _ => Bool.or_false _

/-- One entry of the menu was translated, and the other one is planned again. -/
theorem menus_planned_again :
    let jobs := (TranslationPlan.make menus menuFiles menuExtraction (some "en") []).jobs
    let batch := TranslationBatch.ofJobs oneWord menuCalls menuExtraction 80 jobs
    ∃ outcome after,
      (menus.commit menuExtraction ⟨batch.translations, [], some "en"⟩).run menuFiles =
        (.ok outcome, after) ∧
      jobs.length = 2 ∧
      (TranslationPlan.make menus after menuExtraction (some "en") []).jobs =
        [⟨⟨"menu", "Quit"⟩, "de", 1⟩] := by
  intro jobs batch
  have runs : ((menus.commit menuExtraction ⟨batch.translations, [], some "en"⟩).run
      menuFiles).1.toOption.isSome = true := by decide +kernel
  cases done : (menus.commit menuExtraction ⟨batch.translations, [], some "en"⟩).run menuFiles with
  | mk result after =>
    rw [done] at runs
    cases result with
    | error fault => cases runs
    | ok outcome =>
      have regular : menus.Regular := ⟨by decide, by decide⟩
      have wf : menuFiles.WellFormed := by decide +kernel
      have again := (plan_after_commit ofProgram_menuCalls regular wf (by decide +kernel)
        (by decide +kernel) (by decide +kernel) (some "en") oneWord 80 rfl rfl (by decide +kernel)
        done).1 outcome rfl
      exact ⟨outcome, after, rfl, by decide +kernel, again.trans (by decide +kernel)⟩

end Catalogue

end Phrasebook
