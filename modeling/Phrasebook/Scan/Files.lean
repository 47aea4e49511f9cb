import Phrasebook.Scan.Expand

/-!
# Scanning for sources

Which files of a project are read: those with a source extension below the included places that are
neither ignored nor part of a dependency.

- `Scan.Options`: what is included and ignored;
- `Scan.run`: the files, in the order of their paths, and what was odd about the options.
-/

namespace Phrasebook.Scan

/-- What is included and ignored. -/
structure Options where
  includes : List String
  ignores : List String
  ignoreTests : Bool
  /-- Folders that hold no sources. -/
  excluded : List Path
deriving Inhabited

/-- What was odd in a scan. -/
inductive Warning where
  | badIgnore (pattern : String) (fault : Glob.Fault)
  | badInclude (pattern : String) (fault : Glob.Fault)
  | missingInclude (path : Path)
  | noAccess (path : Path) (error : FileError)

/-- The words for a warning. -/
def Warning.message : Warning → String
  | .badIgnore pattern fault => "Invalid ignore pattern '" ++ pattern ++ "': " ++ fault.message
  | .badInclude pattern fault => "Invalid glob pattern '" ++ pattern ++ "': " ++ fault.message
  | .missingInclude path => "Include path does not exist: " ++ path.text
  | .noAccess path error =>
    "Cannot access path: IO error for operation on " ++ path.text ++ ": " ++ error.message

/-- What a scan finds. -/
structure Result where
  /-- Different files in the order of their paths. -/
  files : List Path
  skipped : Nat
  warnings : List Warning

/-- The extensions of source files. -/
def sourceExtensions : List String := ["ts", "tsx", "js", "jsx", "mts", "cts"]

/-- Whether a path has a source extension. -/
def isSource (path : Path) : Bool := path.extension?.any sourceExtensions.contains

/-- The patterns of test files. -/
def testPatterns : List String :=
  ["**/*.test.tsx", "**/*.test.ts", "**/*.test.jsx", "**/*.test.js", "**/*.spec.tsx",
    "**/*.spec.ts", "**/*.spec.jsx", "**/*.spec.js", "**/__tests__/**"]

/-- The pattern of dependencies, which are only read where they are imported. -/
def dependencyPattern : String := "**/node_modules/**"

/-- What is left out of a scan. -/
structure Filter where
  /-- Places that are left out with everything below them. -/
  places : List Path
  patterns : List Glob

/-- Whether a path is left out. -/
def Filter.drops (filter : Filter) (path : Path) : Bool :=
  filter.places.any path.startsWith || filter.patterns.any (·.matchesText path.text)

/-- What the options leave out, seen from `base`. -/
def Options.filter (options : Options) (base : Path) : Filter × List Warning :=
  let readIgnore (state : Filter × List Warning) (text : String) : Filter × List Warning :=
    let (filter, warnings) := state
    if Glob.isPattern text then
      match Glob.parse text with
      | .ok glob => ({ filter with patterns := filter.patterns ++ [glob] }, warnings)
      | .error fault => (filter, warnings ++ [.badIgnore text fault])
    else ({ filter with places := filter.places ++ [base.join text] }, warnings)
  let (filter, warnings) := options.ignores.foldl readIgnore (⟨options.excluded, []⟩, [])
  let builtIn := (if options.ignoreTests then testPatterns else []) ++ [dependencyPattern]
  let patterns := builtIn.filterMap fun text => (Glob.parse text).toOption
  ({ filter with patterns := filter.patterns ++ patterns }, warnings)

/-- The places that the options include, seen from `base`; the base itself if there are none. -/
def Options.places (options : Options) (tree : FileTree) (base : Path) :
    List Path × List Warning :=
  let readInclude (state : List Path × List Warning) (text : String) : List Path × List Warning :=
    let (places, warnings) := state
    let path := base.join text
    if Glob.isPattern text then
      match Pattern.parse path.text with
      | .ok pattern => (places ++ (pattern.expand tree).filter tree.isFolder, warnings)
      | .error fault => (places, warnings ++ [.badInclude text fault])
    else if tree.has path then (places ++ [path], warnings)
    else (places, warnings ++ [.missingInclude path])
  if options.includes.isEmpty then ([base], []) else options.includes.foldl readInclude ([], [])

/-- Put a path into an ordered list without repetition; of equal paths the earlier one stays. -/
def insertPath (path : Path) : List Path → List Path
  | [] => [path]
  | other :: rest =>
    match path.compare other with
    | .lt => path :: other :: rest
    | .eq => other :: rest
    | .gt => other :: insertPath path rest

/-- The source files that the options select, seen from `base`. -/
def run (tree : FileTree) (base : Path) (options : Options) : Result :=
  let (filter, ignoreWarnings) := options.filter base
  let (places, includeWarnings) := options.places tree base
  let scanPlace (result : Result) (place : Path) : Result :=
    match tree.walk place with
    | .error error =>
      { result with
        skipped := result.skipped + 1
        warnings := result.warnings ++ [.noAccess place error] }
    | .ok paths =>
      let files := paths.filter fun path => !filter.drops path && tree.isFile path && isSource path
      { result with files := files.foldl (fun files path => insertPath path files) result.files }
  places.foldl scanPlace ⟨[], 0, ignoreWarnings ++ includeWarnings⟩

end Phrasebook.Scan
