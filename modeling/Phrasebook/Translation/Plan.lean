import Phrasebook.Catalogue.Fill
import Phrasebook.Extraction
import Phrasebook.Text.Window
import Phrasebook.Translation.Job
import Phrasebook.Translation.Request

/-!
# Translating a catalogue

- `TranslationPlan.make`: the texts that wait for a translation;
- `TranslationBatch.ofJobs`: their translations, or why there are none;
- `Catalogue.commit`: the translations go into the tables.
-/

namespace Phrasebook

/-- Texts to translate, and the tables that could not be read. -/
structure TranslationPlan where
  jobs : List TranslationJob
  issues : List Issue
deriving Inhabited

namespace TranslationPlan

/-- The jobs for a table: a key needs a translation if it has no text, if it has a placeholder, or
if it is a target. -/
def jobsFor (extraction : Extraction) (targets : List Identity) (need : Catalogue.Need)
    (table : Table) : List TranslationJob :=
  need.keys.filterMap fun key =>
    let identity : Identity := ⟨need.space, key⟩
    if Catalogue.isOpen targets identity ((table.get? key).getD "") then
      some ⟨identity, need.language, (extraction.sitesOf identity).length⟩
    else none

/-- The jobs for a table that is needed, and whether it cannot be read. -/
def planTable (catalogue : Catalogue) (tree : FileTree) (extraction : Extraction)
    (targets : List Identity) (need : Catalogue.Need) : TranslationPlan :=
  let path := catalogue.filePath need.space need.language
  match catalogue.read tree path with
  | .error fault => ⟨[], [catalogue.malformed path fault]⟩
  | .ok file =>
    ⟨jobsFor extraction targets need ((file.map TableFile.table).getD .empty), []⟩

/-- The texts that wait for a translation, language by language; the default language needs none. -/
def make (catalogue : Catalogue) (tree : FileTree) (extraction : Extraction)
    (defaultLanguage : Option String) (targets : List Identity) : TranslationPlan :=
  let languages := extraction.languages.filter fun language => some language != defaultLanguage
  let needs := languages.flatMap fun language =>
    Catalogue.needs extraction.identities [language]
  let plans := needs.map (planTable catalogue tree extraction targets)
  ⟨plans.flatMap TranslationPlan.jobs, plans.flatMap TranslationPlan.issues⟩

end TranslationPlan

/-- What came of the jobs of a plan. -/
structure TranslationBatch where
  /-- The jobs that succeeded, in the order of the plan. -/
  completed : List CompletedTranslation
  /-- The jobs that failed. -/
  issues : List Issue
deriving Inhabited

namespace TranslationBatch

/-- What is asked for a job: the key, with `radius` characters of the source to each side of where
each of its calls starts. -/
def requestFor (program : Program) (extraction : Extraction) (radius : Nat)
    (job : TranslationJob) : TranslationRequest where
  text := job.identity.key
  contexts := (extraction.sitesOf job.identity).map fun site =>
    match program.units[site.file]? with
    | some unit => Text.window unit.script.text site.offset radius
    | none => ""
  language := job.language

/-- Ask for the translation of a job. -/
def perform (translator : Translator) (program : Program) (extraction : Extraction)
    (radius : Nat) (job : TranslationJob) : Except Issue CompletedTranslation :=
  match translator (requestFor program extraction radius job) with
  | .ok text => .ok ⟨job, text⟩
  | .error words => .error (.translationFailed job.identity job.language words)

/-- Ask for the translations of all jobs. A failure is an issue and leaves the entry as it is. -/
def ofJobs (translator : Translator) (program : Program) (extraction : Extraction)
    (radius : Nat) (jobs : List TranslationJob) : TranslationBatch :=
  let results := jobs.map (perform translator program extraction radius)
  { completed := results.filterMap Except.toOption
    issues := results.filterMap fun result =>
      match result with
      | .error issue => some issue
      | .ok _ => none }

/-- The texts of a batch. -/
def translations (batch : TranslationBatch) : Translations :=
  OrderedMap.ofList (batch.completed.map fun done =>
    ((done.job.identity, done.job.language), done.text))

end TranslationBatch

/-- Put translations into the tables. -/
def Catalogue.commit (catalogue : Catalogue) (extraction : Extraction)
    (options : Catalogue.FillOptions) : FileAction WriteFault Catalogue.Outcome :=
  catalogue.fill extraction.identities extraction.languages options true

end Phrasebook
