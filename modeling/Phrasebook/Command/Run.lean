import Phrasebook.Catalogue.Reconcile
import Phrasebook.Command.Project
import Phrasebook.Command.Result
import Phrasebook.Numbering.Apply
import Phrasebook.Translation.Plan

/-!
# Carrying commands out

- `Project.sync`, `Project.minify`, `Project.translate`, `initialConfig`: one command each;
- `Command.run`: any command;
- `CommandOutcome.ofLine`: a command line, from its words to what is printed.
-/

namespace Phrasebook

namespace Project

/-- The result of a command on a project. -/
def result (project : Project) (summary : CommandSummary) (issues : List Issue) : CommandResult :=
  ⟨summary, issues, project.files.length⟩

/-! ### Sync -/

/-- Bring the tables up to date. A check writes nothing, and does not report partial translations,
since the tables may still lack the new keys. -/
def sync (project : Project) (isCheck : Bool) : CommandAction CommandResult := do
  let extraction := project.extraction
  let outcome ← CommandAction.onFiles .write <|
    project.catalogue.reconcile extraction.identities extraction.languages (!isCheck)
  let (numbering, _) := project.numbering (← get).tree
  let untranslated := if isCheck then [] else numbering.partialTranslations extraction
  return project.result (.sync outcome.changes isCheck)
    (project.issues ++ outcome.issues ++ untranslated)

/-! ### Minify -/

/-- The place of a file in the output folder; none for files outside the project. -/
def outputPath? (outRoot : Path) (shown : String) : Option Path :=
  let isInside := (Path.mk shown).components.all fun component =>
    match component with
    | .name _ | .here => true
    | .root | .up => false
  if isInside then some (outRoot.join shown) else none

/-- Write a file to the output folder, and count it. -/
def emit (path : Path) (text : String) (written : Nat) : CommandAction Nat := do
  CommandAction.onFiles .write (writeFile path path.text text)
  return written + 1

/-- Write a source to the output folder. -/
def emitSource (terminal : Terminal) (verbose : Bool) (outRoot : Path) (written : Nat)
    (file : NumberedFile) : CommandAction Nat := do
  match outputPath? outRoot file.display with
  | some path => emit path file.content written
  | none =>
    if verbose then
      CommandAction.tell (Report.line (terminal.paint .bold "note:" ++ " " ++ file.display ++
        " is outside the project root, not emitted"))
    return written

/-- Write a table to the output folder; tables that cannot be read are left out. -/
def emitTable (project : Project) (numbering : Numbering) (outRoot : Path) (written : Nat)
    (table : StoredTable) : CommandAction Nat := do
  let shown := project.catalogue.display table.path
  match project.catalogue.read (← get).tree table.path, outputPath? outRoot shown with
  | .ok (some file), some path => emit path (numbering.numberTable table.space file) written
  | _, _ => return written

/-- Write all sources, then all tables of supported languages, to the output folder. -/
def emitAll (project : Project) (terminal : Terminal) (verbose : Bool) (numbering : Numbering)
    (sources : List NumberedFile) (outDir : String) : CommandAction Nat := do
  let outRoot := project.root.join outDir
  let written ← sources.foldlM (emitSource terminal verbose outRoot) 0
  let tables := (project.catalogue.list (← get).tree).filter fun table =>
    numbering.languages.contains table.language
  tables.foldlM (emitTable project numbering outRoot) written

/-- Put numbers in place of keys. Without an output folder nothing is written. -/
def minify (project : Project) (terminal : Terminal) (verbose : Bool) (outDir : Option String) :
    CommandAction CommandResult := do
  let (numbering, unread) := project.numbering (← get).tree
  let outcome := numbering.numberProgram project.program
  let issues := project.issues ++ unread ++ numbering.partialTranslations project.extraction ++
    outcome.issues
  let written ←
    match outDir with
    | none => pure 0
    | some folder => project.emitAll terminal verbose numbering outcome.files folder
  return project.result (.minify outcome.replaced outcome.kept outDir written) issues

/-! ### Translate -/

/-- The identity of a text to translate again, which has to be looked up. -/
def target (extraction : Extraction) (text : String) : Except CommandFault Identity :=
  match Identity.parse? text with
  | none => .error (.badIdentity text)
  | some identity =>
    if extraction.identities.contains identity then .ok identity
    else .error (.unusedIdentity text)

/-- The key of the service; blanks are none. -/
def serviceKey (setting : CommandSetting) : Except CommandFault String :=
  match setting.key with
  | none => .error .noKey
  | some key => if (Text.trim key).isEmpty then .error .noKey else .ok key

/-- Ask the service for the translations of all jobs; without jobs no key is needed. -/
def performAll (project : Project) (setting : CommandSetting) (jobs : List TranslationJob) :
    Except CommandFault TranslationBatch := do
  if jobs.isEmpty then return ⟨[], []⟩
  let service := Service.ofConfig project.config.translator (← serviceKey setting)
  return TranslationBatch.ofJobs (service.translator setting.send) project.program
    project.extraction project.config.translator.contextRadius jobs

/-- Translate what waits for a translation, and some texts again. A dry run only plans. -/
def translate (project : Project) (setting : CommandSetting) (again : List String)
    (isDryRun : Bool) : CommandAction CommandResult := do
  let extraction := project.extraction
  let targets ← liftExcept (again.mapM (target extraction))
  let plan := TranslationPlan.make project.catalogue (← get).tree extraction
    project.config.defaultLanguage targets
  if isDryRun then
    return project.result (.translate plan.jobs [] [] true) (project.issues ++ plan.issues)
  let batch ← liftExcept (project.performAll setting plan.jobs)
  let outcome ← CommandAction.onFiles .write <| project.catalogue.commit extraction
    ⟨batch.translations, targets, project.config.defaultLanguage⟩
  return project.result (.translate plan.jobs batch.completed outcome.changes false)
    (project.issues ++ batch.issues ++ outcome.issues)
where
  /-- Give up for the same reason. -/
  liftExcept {α : Type} : Except CommandFault α → CommandAction α
    | .ok value => return value
    | .error fault => throw fault

end Project

/-! ### Init -/

/-- Write the standard configuration to the current folder, unless there is one. -/
def initialConfig : CommandAction CommandResult := do
  let path : Path := ⟨Config.fileName⟩
  if (← get).tree.has path then throw .alreadyConfigured
  CommandAction.onFiles .file (FileTree.write path ({} : Config).toJson)
  return ⟨.init true, [], 0⟩

/-! ### All commands -/

/-- Carry a command out. -/
def Command.run (setting : CommandSetting) : Command → CommandAction CommandResult
  | .sync options isCheck => do
    (← Project.load setting.terminal options none).sync isCheck
  | .minify options outDir => do
    (← Project.load setting.terminal options outDir).minify setting.terminal options.verbose outDir
  | .translate options again isDryRun => do
    (← Project.load setting.terminal options none).translate setting again isDryRun
  | .init => initialConfig

/-- What comes of a command line. -/
inductive CommandOutcome where
  /-- There is no command to carry out. -/
  | refused (fault : ArgumentFault)
  /-- The command line is empty, and the commands are explained. -/
  | explained
  | finished (result : CommandResult) (notes : String)
  | givenUp (fault : CommandFault) (notes : String)

namespace CommandOutcome

/-- Carry a command line out. -/
def ofLine (setting : CommandSetting) (arguments : List String) : StateM FileTree CommandOutcome :=
  fun tree =>
    match Command.parse arguments with
    | .error fault => (.refused fault, tree)
    | .ok none => (.explained, tree)
    | .ok (some command) =>
      match (command.run setting).run ⟨tree, ""⟩ with
      | (.ok result, state) => (.finished result state.notes, state.tree)
      | (.error fault, state) => (.givenUp fault state.notes, state.tree)

/-- What is printed as the result. -/
def output (terminal : Terminal) : CommandOutcome → String
  | .explained => Command.help
  | .finished result _ => result.text terminal
  | .refused _ | .givenUp .. => ""

/-- What is told beside the result. -/
def notes : CommandOutcome → String
  | .finished _ notes | .givenUp _ notes => notes
  | .refused _ | .explained => ""

/-- How the program ends: 0 for success, 1 if errors are reported, 2 if the command is not carried
out. -/
def exitCode : CommandOutcome → Nat
  | .explained => 0
  | .finished result _ => result.exitCode
  | .refused .displayHelp | .refused .displayVersion => 0
  | .refused _ | .givenUp .. => 2

end CommandOutcome

end Phrasebook
