/-!
# Arguments

The command line: a command, and options that each may be given once or repeatedly.

- `Command`: the commands with their options;
- `ArgumentFault`: why a command line names no command, or asks for help instead;
- `Command.parse`: reads a command line;
- `Command.help`: the words that explain the commands.
-/

namespace Phrasebook

/-- Options of all commands that work on a project. -/
structure ProjectOptions where
  /-- The folder of the project; the current one if it is not given. -/
  sourceRoot : Option String := none
  /-- The folder of the tables, in place of the configured one. -/
  resourceDir : Option String := none
  /-- The language of the keys, in place of the configured one. -/
  defaultLanguage : Option String := none
  verbose : Bool := false
deriving Repr, DecidableEq, Inhabited

/-- What is to be done. -/
inductive Command where
  /-- Bring tables up to date, or only say what would change. -/
  | sync (options : ProjectOptions) (isCheck : Bool)
  /-- Put numbers in place of keys; the results go to the output folder, if there is one. -/
  | minify (options : ProjectOptions) (outDir : Option String)
  /-- Translate tables, or only say what would be translated; some texts again. -/
  | translate (options : ProjectOptions) (again : List String) (isDryRun : Bool)
  /-- Write the standard configuration. -/
  | init
deriving Repr, DecidableEq, Inhabited

/-- Why a command line is not carried out. -/
inductive ArgumentFault where
  | displayHelp
  | displayVersion
  | invalidSubcommand
  | unknownArgument
  | invalidValue
  /-- Something was given twice that may be given once. -/
  | argumentConflict
  /-- Something has a value that takes none. -/
  | tooManyValues
deriving Repr, DecidableEq

/-! ### Options -/

/-- What an option does with what follows it. -/
inductive OptionKind where
  | help
  | version
  /-- Takes no value. -/
  | flag
  /-- Takes a value. -/
  | text
  /-- Takes a value that is not empty. -/
  | path
  /-- Takes a value each time that it is given. -/
  | repeated
deriving Repr, DecidableEq

/-- Whether an option takes a value. -/
def OptionKind.takesValue : OptionKind → Bool
  | .help | .version | .flag => false
  | .text | .path | .repeated => true

/-- An option. -/
structure OptionSpec where
  name : String
  /-- The letter that stands for the option. -/
  letter : Option Char
  kind : OptionKind
deriving Repr, DecidableEq

namespace Command

/-- The option that asks for help. -/
def helpOption : OptionSpec := ⟨"help", some 'h', .help⟩

/-- The options of all commands that work on a project. -/
def projectOptions : List OptionSpec := [
  ⟨"source-root", none, .path⟩,
  ⟨"resource-dir", none, .path⟩,
  ⟨"default-language", none, .text⟩,
  ⟨"verbose", some 'v', .flag⟩,
  helpOption]

/-- The options that need no command. -/
def freeOptions : List OptionSpec := [helpOption, ⟨"version", some 'V', .version⟩]

/-- The names of the commands. -/
def names : List String := ["sync", "minify", "translate", "init", "help"]

/-- Options that were given, with their values; an option without one has an empty value. -/
abbrev Given := List (String × String)

/-- How far a command line was read. -/
structure Reading where
  given : Given
  /-- The option that was read last, and its value once that was read too. It counts as given with
  the next option or at the end. -/
  pending : Option (OptionSpec × Option String)
  /-- After `--` there are no options. -/
  isPlain : Bool

/-- Nothing was read. -/
def Reading.start : Reading := ⟨[], none, false⟩

/-- Add an option that was given. -/
def accept (given : Given) (option : OptionSpec) (value : Option String) :
    Except ArgumentFault Given :=
  let isKnown := given.any fun other => other.1 == option.name
  match option.kind, value with
  | .help, _ => .error .displayHelp
  | .version, _ => .error .displayVersion
  | .flag, _ =>
    if isKnown then .error .argumentConflict else .ok (given ++ [(option.name, "")])
  | .repeated, some value => .ok (given ++ [(option.name, value)])
  | .text, some value =>
    if isKnown then .error .argumentConflict else .ok (given ++ [(option.name, value)])
  | .path, some value =>
    if isKnown then .error .argumentConflict
    else if value.isEmpty then .error .invalidValue
    else .ok (given ++ [(option.name, value)])
  | .repeated, none | .text, none | .path, none => .error .invalidValue

/-- Add the option that was read last. -/
def Reading.settle (reading : Reading) : Except ArgumentFault Reading :=
  match reading.pending with
  | none => .ok reading
  | some (option, value) => do
    return { reading with given := ← accept reading.given option value, pending := none }

/-- The name and the value of an argument with two dashes. -/
def longParts? (argument : String) : Option (String × Option String) :=
  match argument.toList with
  | '-' :: '-' :: rest =>
    let name := rest.takeWhile (· ≠ '=')
    match rest.drop name.length with
    | [] => some (String.ofList name, none)
    | _ :: value => some (String.ofList name, some (String.ofList value))
  | _ => none

/-- The letters of an argument with one dash. -/
def letters? (argument : String) : Option (List Char) :=
  match argument.toList with
  | '-' :: c :: rest => if c = '-' then none else some (c :: rest)
  | _ => none

/-- Read an argument with two dashes. -/
def readLong (options : List OptionSpec) (reading : Reading) (name : String)
    (value : Option String) : Except ArgumentFault Reading := do
  match options.find? fun option => option.name == name with
  | none => throw .unknownArgument
  | some option =>
    if option.kind.takesValue || value.isNone then
      let reading ← reading.settle
      if option.kind.takesValue && value.isNone then
        return { reading with pending := some (option, none) }
      else return { reading with given := ← accept reading.given option value }
    else throw .tooManyValues

/-- Read a letter. -/
def readLetter (options : List OptionSpec) (reading : Reading) (letter : Char) :
    Except ArgumentFault Reading := do
  match options.find? fun option => option.letter == some letter with
  | none => throw .unknownArgument
  | some option =>
    let reading ← reading.settle
    return { reading with given := ← accept reading.given option none }

/-- Read an argument: an option, several letters, or the value of the option before it. -/
def readArgument (options : List OptionSpec) (reading : Reading) (argument : String) :
    Except ArgumentFault Reading :=
  if reading.isPlain then .error .unknownArgument
  else if argument = "--" then .ok { reading with isPlain := true }
  else
    match longParts? argument, letters? argument with
    | some (name, value), _ => readLong options reading name value
    | none, some letters => letters.foldlM (readLetter options) reading
    | none, none =>
      match reading.pending with
      | some (option, none) => .ok { reading with pending := some (option, some argument) }
      | _ => .error .unknownArgument

/-- Read all arguments of a command. -/
def readAll (options : List OptionSpec) (arguments : List String) : Except ArgumentFault Given := do
  let reading ← arguments.foldlM (readArgument options) .start
  return (← reading.settle).given

/-! ### Commands -/

/-- The value of an option. -/
def valueOf? (given : Given) (name : String) : Option String := given.lookup name

/-- Whether an option was given. -/
def isGiven (given : Given) (name : String) : Bool := (valueOf? given name).isSome

/-- The options that all commands on projects share. -/
def projectOptionsOf (given : Given) : ProjectOptions where
  sourceRoot := valueOf? given "source-root"
  resourceDir := valueOf? given "resource-dir"
  defaultLanguage := valueOf? given "default-language"
  verbose := isGiven given "verbose"

/-- Read the arguments of the command with the given name. -/
def ofArguments (name : String) (arguments : List String) : Except ArgumentFault Command := do
  match name with
  | "sync" =>
    let given ← readAll (⟨"check", none, .flag⟩ :: projectOptions) arguments
    return .sync (projectOptionsOf given) (isGiven given "check")
  | "minify" =>
    let given ← readAll (⟨"out-dir", none, .path⟩ :: projectOptions) arguments
    return .minify (projectOptionsOf given) (valueOf? given "out-dir")
  | "translate" =>
    let given ← readAll
      (⟨"retranslate", none, .repeated⟩ :: ⟨"dry-run", none, .flag⟩ :: projectOptions) arguments
    let again := given.filterMap fun (option, value) =>
      if option = "retranslate" then some value else none
    return .translate (projectOptionsOf given) again (isGiven given "dry-run")
  | "init" =>
    let _ ← readAll [helpOption] arguments
    return .init
  | _ =>
    match arguments with
    | [] => throw .displayHelp
    | [topic] => throw (if names.contains topic then .displayHelp else .invalidSubcommand)
    | _ => throw .invalidSubcommand

/-- Read a command line; none if it is empty. -/
def parse : List String → Except ArgumentFault (Option Command)
  | [] => .ok none
  | "--" :: [] => .ok none
  | "--" :: word :: _ =>
    .error (if names.contains word then .unknownArgument else .invalidSubcommand)
  | word :: rest =>
    if names.contains word then some <$> ofArguments word rest
    else if (longParts? word).isSome || (letters? word).isSome then do
      let _ ← readArgument freeOptions .start word
      parse rest
    else .error .invalidSubcommand

/-- The words that explain the commands. -/
def help : String := "\n".intercalate [
  "Compile-time i18n key extraction, table synchronization and key minification for TypeScript " ++
    "projects",
  "",
  "Usage: loctext [COMMAND]",
  "",
  "Commands:",
  "  sync       Add missing keys to the resource tables and report unused ones",
  "  minify     Replace fully translated lookup keys with numeric indices",
  "  translate  Machine-translate untranslated table entries",
  "  init       Initialize a new .loctextrc.json configuration file",
  "  help       Print this message or the help of the given subcommand(s)",
  "",
  "Options:",
  "  -h, --help     Print help",
  "  -V, --version  Print version",
  ""]

end Command

end Phrasebook
