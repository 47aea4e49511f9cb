import Phrasebook.Catalogue
import Phrasebook.Command.Arguments
import Phrasebook.Config.Discovery
import Phrasebook.Files.Difference
import Phrasebook.Numbering
import Phrasebook.Report
import Phrasebook.Scan.Files
import Phrasebook.Translation.Service

/-!
# Projects

What a command works on. Options of the command count before the configuration, and that before
standard values.

- `CommandFault`: why a command is given up;
- `CommandAction`: what changes the file tree, tells notes, or is given up;
- `Project.load`: finds and reads everything about a project.
-/

namespace Phrasebook

/-- Why a command is given up. -/
inductive CommandFault where
  | notFolder (path : String)
  | config (fault : ConfigFault)
  | extraction (fault : ExtractionFault)
  | write (fault : WriteFault)
  /-- A text to translate again that is no identity. -/
  | badIdentity (text : String)
  /-- A text to translate again that the program does not look up. -/
  | unusedIdentity (text : String)
  | noKey
  | alreadyConfigured
  | file (error : FileError)

/-- The variable of the environment that holds the key of the service. -/
def keyVariable : String := "OPENAI_API_KEY"

/-- The words for a fault. -/
def CommandFault.message : CommandFault → String
  | .notFolder path => "Source root is not a directory: " ++ path
  | .config fault => fault.message
  | .extraction fault => fault.message
  | .write fault => fault.message
  | .badIdentity text => "Invalid identity \"" ++ text ++ "\": expected namespace.key"
  | .unusedIdentity text => "\"" ++ text ++ "\" is not used in the source"
  | .noKey => keyVariable ++ " is not set"
  | .alreadyConfigured => Config.fileName ++ " already exists"
  | .file error => error.message

/-- What commands act on: files, and the notes that are told beside the result. -/
structure CommandState where
  tree : FileTree
  notes : String

/-- What changes files, tells notes, or is given up. What was done before stays done. -/
abbrev CommandAction := ExceptT CommandFault (StateM CommandState)

namespace CommandAction

/-- Tell a note. -/
def tell (note : String) : CommandAction Unit :=
  modify fun state => { state with notes := state.notes ++ note }

/-- Act on files. -/
def onFiles {ε α : Type} (fault : ε → CommandFault) (action : FileAction ε α) :
    CommandAction α := do
  let state ← get
  let (result, tree) := action.run state.tree
  set { state with tree }
  match result with
  | .ok value => return value
  | .error error => throw (fault error)

end CommandAction

/-- What a command is given beside its options. -/
structure CommandSetting where
  terminal : Terminal
  /-- The key of the translation service. -/
  key : Option String
  /-- Carries messages to the translation service. -/
  send : ServiceMessage → Except SendFault ServiceReply

/-- Everything about a project. -/
structure Project where
  config : Config
  /-- The folder of the project, from the root of the file tree. -/
  root : Path
  catalogue : Catalogue
  /-- The source files, in order. -/
  files : List Path
  program : Program
  extraction : Extraction

namespace Project

/-- A path seen from `base`, in normal form. -/
def resolve (base : Path) (path : String) : Path := (base.join path).normalize

/-- The settings with the options that count before them. -/
def configure (options : ProjectOptions) (config : Config) : Config :=
  { config with
    resourceDir := options.resourceDir.getD config.resourceDir
    defaultLanguage := options.defaultLanguage.or config.defaultLanguage }

/-- What is scanned for sources; tables and output are not. -/
def scanOptions (config : Config) (excluded : List Path) : Scan.Options where
  includes := config.includes
  ignores := config.ignores
  ignoreTests := config.ignoreTestFiles
  excluded := excluded

/-- The notes about a scan: what was odd, if notes are to be complete, and how many places were
skipped. -/
def scanNotes (terminal : Terminal) (verbose : Bool) (result : Scan.Result) : String :=
  let details := result.warnings.map fun warning => Report.warning terminal warning.message
  let advice := if verbose then "" else " (use -v for details)"
  let skipped := Report.warning terminal
    (toString result.skipped ++ " path(s) skipped due to access errors" ++ advice)
  (if verbose then String.join details else "") ++ (if 0 < result.skipped then skipped else "")

/-- The notes about files that are not part of the program. -/
def faultNotes (terminal : Terminal) (program : Program) : String :=
  String.join (program.faults.map fun (file, fault) =>
    Report.warning terminal (file ++ " - " ++ fault.message))

/-- The note that there is no configuration. -/
def standardNote (terminal : Terminal) : String :=
  Report.line (terminal.paint .bold "note" ++ ": no " ++ Config.fileName ++
    " found, using default configuration")

/-- Find and read everything about a project; `outDir` holds no sources either. -/
def load (terminal : Terminal) (options : ProjectOptions) (outDir : Option String) :
    CommandAction Project := do
  let tree := (← get).tree
  let sourceRoot := options.sourceRoot.getD "."
  let root := resolve (FileTree.pathOf tree.here) sourceRoot
  if !tree.isFolder root then throw (.notFolder sourceRoot)
  let (config, isFromFile) ←
    match Config.load tree root with
    | .ok found => pure found
    | .error fault => throw (.config fault)
  if options.verbose && !isFromFile then CommandAction.tell (standardNote terminal)
  let config := configure options config
  let tables := resolve root config.resourceDir
  let excluded := tables :: (outDir.map (resolve root)).toList
  let scan := Scan.run tree (resolve root config.sourceRoot) (scanOptions config excluded)
  CommandAction.tell (scanNotes terminal options.verbose scan)
  let program := Program.load tree root scan.files
  if options.verbose then CommandAction.tell (faultNotes terminal program)
  match Extraction.ofProgram program with
  | .error fault => throw (.extraction fault)
  | .ok extraction =>
    return {
      config, root, program, extraction
      catalogue := ⟨tables, config.extension, root⟩
      files := scan.files }

/-- What is wrong with the program itself. -/
def issues (project : Project) : List Issue :=
  project.program.parseErrors ++ project.extraction.issues

/-- The numbers of all texts as the tables are now, and the tables that cannot be read. -/
def numbering (project : Project) (tree : FileTree) : Numbering × List Issue :=
  Numbering.ofTables project.catalogue tree project.extraction.languages
    project.config.defaultLanguage

end Project

end Phrasebook
