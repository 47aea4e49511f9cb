import Phrasebook.Glob
import Phrasebook.Json.Decode
import Phrasebook.Json.Writer

/-!
# Configuration

- `TranslatorConfig`, `Config`: the settings and their standard values;
- `Config.parse`: reads the settings of a project;
- `Config.toJson`: writes them;
- `Config.check`: what settings are allowed.
-/

namespace Phrasebook

/-- Settings of the translation service. -/
structure TranslatorConfig where
  endpoint : String := "https://api.openai.com/v1"
  model : String := "gpt-4o"
  /-- How many characters around a call are given to the service. -/
  contextRadius : Nat := 300
  temperature : Float32 := 0.3
  maxTokens : Nat := 100
deriving Inhabited

/-- Settings of a project. -/
structure Config where
  ignores : List String := []
  includes : List String := ["src"]
  sourceRoot : String := "./"
  resourceDir : String := "src/language"
  tableExtension : String := "ts"
  /-- The language of the keys. It is never translated into, and its entries count as translated
  even where they equal their keys. -/
  defaultLanguage : Option String := none
  ignoreTestFiles : Bool := true
  translator : TranslatorConfig := {}
deriving Inhabited

/-! ### Reading -/

/-- The fields of the settings of the service. -/
def TranslatorConfig.fields : List (Json.Field TranslatorConfig) := [
  ⟨"endpoint", do
    let endpoint ← Json.expectText
    return fun config => { config with endpoint }⟩,
  ⟨"model", do
    let model ← Json.expectText
    return fun config => { config with model }⟩,
  ⟨"contextRadius", do
    let contextRadius ← Json.expectNatural "usize" (UInt64.size - 1)
    return fun config => { config with contextRadius }⟩,
  ⟨"temperature", do
    let temperature ← Json.expectSingle "f32"
    return fun config => { config with temperature }⟩,
  ⟨"maxTokens", do
    let maxTokens ← Json.expectNatural "u32" (UInt32.size - 1)
    return fun config => { config with maxTokens }⟩]

/-- Read the settings of the service. -/
def TranslatorConfig.read : Json.Reading TranslatorConfig :=
  Json.expectRecord "struct TranslatorConfig" none TranslatorConfig.fields {}

/-- The settings of the service that a text holds. -/
def TranslatorConfig.parse (text : String) : Except Json.Fault TranslatorConfig :=
  Json.readAll TranslatorConfig.read text

/-- The fields of the settings of a project. -/
def Config.fields : List (Json.Field Config) := [
  ⟨"ignores", do
    let ignores ← Json.expectList Json.expectText
    return fun config => { config with ignores }⟩,
  ⟨"includes", do
    let includes ← Json.expectList Json.expectText
    return fun config => { config with includes }⟩,
  ⟨"sourceRoot", do
    let sourceRoot ← Json.expectText
    return fun config => { config with sourceRoot }⟩,
  ⟨"resourceDir", do
    let resourceDir ← Json.expectText
    return fun config => { config with resourceDir }⟩,
  ⟨"tableExtension", do
    let tableExtension ← Json.expectText
    return fun config => { config with tableExtension }⟩,
  ⟨"defaultLanguage", do
    let defaultLanguage ← Json.expectOptionalText
    return fun config => { config with defaultLanguage }⟩,
  ⟨"ignoreTestFiles", do
    let ignoreTestFiles ← Json.expectSwitch
    return fun config => { config with ignoreTestFiles }⟩,
  ⟨"translator", do
    let translator ← TranslatorConfig.read
    return fun config => { config with translator }⟩]

/-- The settings that a text holds. -/
def Config.parse (text : String) : Except Json.Fault Config :=
  Json.readAll (Json.expectRecord "struct Config" none Config.fields {}) text

/-! ### Writing -/

/-- A number in single precision; `null` if it is not finite. -/
def Json.single (value : Float32) : Json.Value :=
  match singleText? value with
  | some text => .number text
  | none => .null

/-- A list of texts. -/
def Json.texts (values : List String) : Json.Value := .array (values.map .string)

/-- The settings of the service as a value. -/
def TranslatorConfig.toValue (config : TranslatorConfig) : Json.Value :=
  .object [
    ("endpoint", .string config.endpoint),
    ("model", .string config.model),
    ("contextRadius", .number (toString config.contextRadius)),
    ("temperature", Json.single config.temperature),
    ("maxTokens", .number (toString config.maxTokens))]

/-- The settings as a value; a default language that is not set is left out. -/
def Config.toValue (config : Config) : Json.Value :=
  let defaultLanguage :=
    match config.defaultLanguage with
    | some language => [("defaultLanguage", Json.Value.string language)]
    | none => []
  .object ([
    ("ignores", Json.texts config.ignores),
    ("includes", Json.texts config.includes),
    ("sourceRoot", .string config.sourceRoot),
    ("resourceDir", .string config.resourceDir),
    ("tableExtension", .string config.tableExtension)] ++ defaultLanguage ++ [
    ("ignoreTestFiles", .bool config.ignoreTestFiles),
    ("translator", config.translator.toValue)])

/-- The settings as a text with one setting a line. -/
def Config.toJson (config : Config) : String := Json.pretty 2 config.toValue

/-! ### Checking -/

/-- A setting that is not allowed. -/
inductive ConfigProblem where
  | badIgnore (pattern : String) (fault : Glob.Fault)
  | badInclude (pattern : String) (fault : Glob.Fault)
  | badExtension (extension : String)
deriving Repr, DecidableEq

/-- The words for a setting that is not allowed. -/
def ConfigProblem.message : ConfigProblem → String
  | .badIgnore pattern fault =>
    "Invalid glob pattern in 'ignores': \"" ++ pattern ++ "\": " ++ fault.message
  | .badInclude pattern fault =>
    "Invalid glob pattern in 'includes': \"" ++ pattern ++ "\": " ++ fault.message
  | .badExtension extension => "Invalid 'tableExtension': \"" ++ extension ++ "\""

namespace Config

/-- The extension of table files, without dots before it. -/
def extension (config : Config) : String :=
  String.ofList (config.tableExtension.toList.dropWhile (· == '.'))

/-- The first problem of the patterns in a list. -/
def firstFault? (patterns : List String) : Option (String × Glob.Fault) :=
  patterns.findSome? fun pattern =>
    match Glob.parse pattern with
    | .ok _ => none
    | .error fault => some (pattern, fault)

/-- The first setting that is not allowed: ignored patterns have to be well formed, included ones
too unless they are names of places, and the extension of table files is a name. -/
def problem? (config : Config) : Option ConfigProblem :=
  match firstFault? config.ignores, firstFault? (config.includes.filter Glob.isPattern) with
  | some (pattern, fault), _ => some (.badIgnore pattern fault)
  | none, some (pattern, fault) => some (.badInclude pattern fault)
  | none, none =>
    if config.extension.isEmpty || config.extension.toList.contains '/' then
      some (.badExtension config.tableExtension)
    else none

/-- The settings, if they are allowed. -/
def check (config : Config) : Except ConfigProblem Config :=
  match config.problem? with
  | some problem => .error problem
  | none => .ok config

end Config

end Phrasebook
