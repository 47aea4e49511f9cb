import Phrasebook.Issue
import Phrasebook.Terminal
import Phrasebook.Text.Measure

/-!
# Reports

Issues as they are shown: each with its place, the line it points into and a caret below the place,
then what else is known about it, and at the end how many there are.

- `Report.issue`: one issue;
- `Report.issues`: all issues in their order, and the summary;
- `Report.success`, `Report.warning`: single lines.

A report is a text for all issues: no width of a line or a gutter is too large for it.
-/

namespace Phrasebook.Report

/-- The mark of success. -/
def successMark : String := "✓"

/-- The mark of failure. -/
def failureMark : String := "✘"

/-- A line of a report. -/
def line (text : String) : String := text ++ "\n"

/-- The style of the caret. -/
def caretStyle : Severity → Style
  | .error => .red
  | .warning => .yellow

/-- The style of the word for a severity. -/
def severityStyle : Severity → Style
  | .error => .boldRed
  | .warning => .boldYellow

/-- The number of columns before the caret: the width of so many characters of the line as there are
columns before the place. It has no limit: a caret in column 65537 and beyond is drawn too, where a
formatter that holds widths in 16 bits stops. -/
def caretPadding (context : SourceContext) : Nat :=
  Text.width (context.sourceLine.toList.take (context.col - 1))

/-- The line that a place points into, and the caret below it. There is such an excerpt for every
place, however long the line and however far the caret has to be moved. -/
def excerpt (terminal : Terminal) (gutter : Nat) (severity : Severity) (context : SourceContext) :
    String :=
  let bar := terminal.paint .blue "|"
  line (blanks gutter ++ " " ++ bar) ++
    line (terminal.paintWide .blue gutter (toString context.line) ++ " " ++ bar ++ " " ++
      context.sourceLine) ++
    line (blanks gutter ++ " " ++ bar ++ " " ++ blanks (caretPadding context) ++
      terminal.paint (caretStyle severity) "^")

/-- The line that says where an issue is. -/
def arrow (terminal : Terminal) (place : String) : String :=
  line ("  " ++ terminal.paint .blue "-->" ++ " " ++ place)

/-- A place with its line and column. -/
def place (file : String) (row col : Nat) : String :=
  file ++ ":" ++ toString row ++ ":" ++ toString col

/-- One issue. Line numbers and what stands below them are `gutter` columns wide. -/
def issue (terminal : Terminal) (gutter : Nat) (issue : Issue) : String :=
  let severity := issue.severity
  let heading := line (terminal.paint (severityStyle severity) severity.word ++ ": \"" ++
    issue.message ++ "\"  " ++ terminal.paint .dimCyan issue.rule.name)
  let location :=
    match issue.location with
    | .source context =>
      arrow terminal (place context.file context.line context.col) ++
        excerpt terminal gutter severity context
    | .table context => arrow terminal (place context.file context.line context.col)
    | .file path => arrow terminal path
    | .program => ""
  let remark (style : Style) (word : String) : Option String → String
    | none => ""
    | some text => line (blanks gutter ++ " " ++ terminal.paint .blue "=" ++ " " ++
        terminal.paint style word ++ " " ++ text)
  heading ++ location ++ remark .bold "note:" issue.details? ++
    remark .boldCyan "hint:" issue.hint? ++ line ""

/-- The number of digits of the largest line number that is shown; one if none is shown. -/
def gutter (issues : List Issue) : Nat :=
  let lines := issues.filterMap fun issue =>
    match issue.location with
    | .source context => some context.line
    | _ => none
  (toString (lines.foldl max 0)).length

/-- How many errors and warnings there are. -/
def summary (terminal : Terminal) (issues : List Issue) : String :=
  let errors := (issues.filter Issue.isError).length
  let warnings := issues.length - errors
  line (terminal.paint .red failureMark ++ " " ++ toString issues.length ++ " problems (" ++
    toString errors ++ " " ++ terminal.paint .red (if errors = 1 then "error" else "errors") ++
    ", " ++ toString warnings ++ " " ++
    terminal.paint .yellow (if warnings = 1 then "warning" else "warnings") ++ ")")

/-- All issues in their order, and their number; nothing if there are none. -/
def issues (terminal : Terminal) (issues : List Issue) : String :=
  if issues.isEmpty then ""
  else
    let sorted := Issue.sort issues
    String.join (sorted.map (issue terminal (gutter sorted))) ++ summary terminal sorted

/-- A warning that is no issue. -/
def warning (terminal : Terminal) (text : String) : String :=
  line (terminal.paint .boldYellow "warning:" ++ " " ++ text)

/-- What is shown where nothing is wrong. -/
def success (terminal : Terminal) (sourceFiles : Nat) : String :=
  line (terminal.paint .green successMark ++ " " ++
    terminal.paint .green ("Checked " ++ toString sourceFiles ++ " source " ++
      (if sourceFiles = 1 then "file" else "files") ++ " - no issues found"))

end Phrasebook.Report
