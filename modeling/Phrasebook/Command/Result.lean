import Phrasebook.Catalogue.Change
import Phrasebook.Config.Discovery
import Phrasebook.Report
import Phrasebook.Translation.Job

/-!
# Results of commands

What a command has done, how that is shown, and how the program ends.

- `CommandSummary`: what each command has done;
- `CommandResult`: that and the issues found;
- `CommandResult.text`: all that is printed;
- `CommandResult.exitCode`: success or failure.
-/

namespace Phrasebook

/-- What a command has done. -/
inductive CommandSummary where
  /-- Tables were brought up to date, or only checked. -/
  | sync (changes : List FileChange) (isCheck : Bool)
  /-- So many calls were replaced and kept, and so many files written to the output folder; without
  one nothing was written. -/
  | minify (replaced kept : Nat) (outDir : Option String) (filesWritten : Nat)
  | translate (planned : List TranslationJob) (completed : List CompletedTranslation)
      (changes : List FileChange) (isDryRun : Bool)
  | init (created : Bool)

/-- What a command has done and found. -/
structure CommandResult where
  summary : CommandSummary
  issues : List Issue
  /-- The number of source files of the program. -/
  sourceFiles : Nat

namespace CommandResult

open Report (line)

/-- The number of errors. -/
def errorCount (result : CommandResult) : Nat := (result.issues.filter Issue.isError).length

/-- Failure if there are errors, or if a check found tables that are out of date. -/
def exitCode (result : CommandResult) : Nat :=
  let isPending :=
    match result.summary with
    | .sync changes true => !changes.isEmpty
    | _ => false
  if 0 < result.errorCount || isPending then 1 else 0

/-- One changed file; `isPreview` if it is only planned. -/
def changeLine (terminal : Terminal) (isPreview : Bool) (change : FileChange) : String :=
  let added := toString change.added
  match change.kind with
  | .created =>
    let word :=
      if isPreview then terminal.paint .boldYellow "Would create"
      else terminal.paint .boldGreen "Created"
    line (word ++ " " ++ change.path ++ " (" ++ added ++ " key(s) added)")
  | .updated =>
    if 0 < change.translated then
      line (terminal.paint .boldGreen "Updated" ++ " " ++ change.path ++ " (" ++
        toString change.translated ++ " translated)")
    else
      let word :=
        if isPreview then terminal.paint .boldYellow "Would add"
        else terminal.paint .boldGreen "Added"
      line (word ++ " " ++ added ++ " key(s) to " ++ change.path)

/-- The changed files. -/
def changeLines (terminal : Terminal) (isPreview : Bool) (changes : List FileChange) : String :=
  String.join (changes.map (changeLine terminal isPreview))

/-- What bringing tables up to date has done. -/
def syncText (terminal : Terminal) (changes : List FileChange) (isCheck : Bool) : String :=
  let conclusion :=
    if changes.isEmpty then line "Resource tables are up to date."
    else if isCheck then
      line (terminal.paint .red Report.failureMark ++ " " ++ toString changes.length ++
        " file(s) out of date. Run " ++ terminal.paint .cyan "loctext sync" ++
        " to update them.")
    else ""
  changeLines terminal isCheck changes ++ conclusion

/-- What minification has done. -/
def minifyText (terminal : Terminal) (replaced kept : Nat) (outDir : Option String)
    (filesWritten : Nat) : String :=
  match outDir with
  | some folder =>
    line (terminal.paint .boldGreen "Rewrote" ++ " " ++ toString replaced ++
      " call site(s), kept " ++ toString kept ++ " with incomplete translations; wrote " ++
      toString filesWritten ++ " file(s) to " ++ folder)
  | none =>
    line (terminal.paint .boldYellow "Would rewrite" ++ " " ++ toString replaced ++
      " call site(s), keep " ++ toString kept ++ " with incomplete translations.") ++
    line ("Run with " ++ terminal.paint .cyan "--out-dir" ++ " to emit the output.")

/-- What translation has done, or would do. -/
def translateText (terminal : Terminal) (planned : List TranslationJob)
    (completed : List CompletedTranslation) (changes : List FileChange) (isDryRun : Bool) :
    String :=
  let nothing := if planned.isEmpty then line "Nothing to translate." else ""
  if isDryRun then
    if planned.isEmpty then nothing
    else
      line (terminal.paint .boldYellow "Would translate" ++ " " ++ toString planned.length ++
        " entr" ++ (if planned.length = 1 then "y" else "ies") ++ ":") ++
      String.join (planned.map fun job =>
        line ("  - " ++ job.identity.toText ++ " [" ++ job.language ++ "] (" ++
          toString job.occurrences ++ " occurrences)"))
  else
    String.join (completed.map fun done =>
      line (terminal.paint .boldGreen "Translated" ++ " " ++ done.job.identity.toText ++ " (" ++
        toString done.job.occurrences ++ " occurrences) [" ++ done.job.language ++ "]: " ++
        done.text)) ++
      changeLines terminal false changes ++ nothing

/-- What a command has done. -/
def summaryText (terminal : Terminal) : CommandSummary → String
  | .sync changes isCheck => syncText terminal changes isCheck
  | .minify replaced kept outDir filesWritten =>
    minifyText terminal replaced kept outDir filesWritten
  | .translate planned completed changes isDryRun =>
    translateText terminal planned completed changes isDryRun
  | .init true =>
    line (terminal.paint .green Report.successMark ++ " " ++
      terminal.paint .green ("Created " ++ Config.fileName))
  | .init false => ""

/-- What a command has done and found. -/
def text (terminal : Terminal) (result : CommandResult) : String :=
  let isInit :=
    match result.summary with
    | .init _ => true
    | _ => false
  let conclusion :=
    if result.issues.isEmpty && !isInit then Report.success terminal result.sourceFiles else ""
  summaryText terminal result.summary ++ Report.issues terminal result.issues ++ conclusion

end CommandResult

end Phrasebook
