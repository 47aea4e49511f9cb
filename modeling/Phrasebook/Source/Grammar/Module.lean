import Phrasebook.Source.Grammar.Statement

/-!
# Imports and exports

- `listedEntry`: an entry of an import or export list;
- `importItem`, `exportItem`: imports and exports;
- `item`: a top-level item of a module.
-/

namespace Phrasebook.Source.Grammar

open Reader

variable (rules : Rules)

/-! ## Lists of names -/

/-- An entry of an import or export list: a name and the name it gets. -/
structure ListedEntry where
  name : String
  renamed : Option String
  /-- Whether the name is a text. -/
  isText : Bool
deriving Repr, DecidableEq, Inhabited

/-- A word or a text that names an export; the flag tells texts. -/
def exportName : Reader (String × Bool) := do
  match ← token with
  | .text literal =>
    advance
    return (literal.lossy, true)
  | _ => return (← anyWord, false)

/-- The name that an entry for `name` gets, if it gets one. -/
def renamedEntry (later : Reader String) (name : String) (isText : Bool) :
    Reader ListedEntry := do
  if ← eatWord "as" then return ⟨name, some (← later), isText⟩
  return ⟨name, none, isText⟩

/-- An entry that starts with the words `type as`, behind these. One `as` can be a name, so that
`type` only marks it. -/
def typeAsEntry (later : Reader String) : Reader ListedEntry := do
  unless (← token).isWord do return ⟨"as", none, false⟩
  let second ← later
  if second != "as" then return ⟨"type", some second, false⟩
  if (← token).isWord then return ⟨"as", some (← later), false⟩
  return ⟨"type", some "as", false⟩

/-- An entry of an import or export list. A new name is read by `later`, and `final` reads one
that can be a text. The word `type` may stand in front. -/
def listedEntry (later final : Reader String) : Reader ListedEntry := do
  let (name, isText) ← exportName
  if name == "type" && !isText && (← token).isWord then
    let second ← anyWord
    if second == "as" then typeAsEntry later
    else renamedEntry final second false
  else renamedEntry final name isText

/-! ## Module specifiers -/

/-- The attributes behind a module specifier. -/
def attributes : Reader (List Node) := do
  let lexeme ← current
  if !lexeme.onNewLine && (lexeme.token == .word "with" || lexeme.token == .word "assert") then
    advance
    return [← objectLiteral rules]
  return []

/-- A module specifier and its attributes. -/
def specifier : Reader (Literal × List Node) := do
  let literal ← textLiteral
  let attributes ← attributes rules
  semicolon
  return (literal, attributes)

/-- A module specifier behind the word `from`. -/
def source : Reader (Literal × List Node) := do
  expectWord "from"
  specifier rules

/-! ## Imports -/

/-- An entry of an import list. -/
def importEntry : Reader ImportBinding := do
  let entry ← listedEntry bindingName bindingName
  match entry.renamed with
  | some id => return .named id entry.name
  | none =>
    require (!entry.isText && !isRestricted entry.name)
    return .named entry.name entry.name

/-- What an `import` with an equals sign stands for. -/
def importedValue : Reader Item := do
  expectMark "="
  if (← atWord "require") && (← ahead).token == .mark "(" then
    advance
    advance
    let _ ← textLiteral
    expectMark ")"
  else
    qualifiedName false
  semicolon
  return .statement (.group [])

/-- Whether the word at hand is a name that is imported, behind another word that only marks the
import. -/
def atMarkedName : Reader Bool := do
  let behind := (← ahead).token
  return (← token).isName && (!(← atWord "from") || behind == .word "from")

/-- What an import evaluates of a module. -/
inductive Phase where
  | evaluation
  | deferred
  | sourceOnly
deriving Repr, DecidableEq, Inhabited

/-- The phase that the word `id` stands for. -/
def Phase.ofWord? (id : String) : Option Phase :=
  if id == "defer" then some .deferred
  else if id == "source" then some .sourceOnly
  else none

/-- The name at the start of an import declaration, behind the word `type` if that only marks the
import. None is left where that word is followed by a list. -/
def importedName? : Reader (Option String) := do
  let id ← bindingName
  if id != "type" then return some id
  if (← atMark "*") || (← atMark "\x7b") then return none
  if ← atMarkedName then return some (← bindingName)
  if (← token).isName && (← ahead).token == .mark "=" then return some (← anyWord)
  return some id

/-- What is bound behind the name `id` of an import declaration, and the phase that the name stands
for otherwise. -/
def defaultImport (id : String) : Reader (Option String × Phase) := do
  match Phase.ofWord? id with
  | some phase =>
    if phase == .deferred && (← atMark "*") then return (none, phase)
    if ← atMarkedName then return (some (← bindingName), phase)
    return (some id, .evaluation)
  | none => return (some id, .evaluation)

/-- An import list, or the whole module under a name, if `phase` allows it. -/
def importList (phase : Phase) : Reader (List ImportBinding) := do
  if ← eatIf (do return phase != .sourceOnly && (← atMark "*")) then
    expectWord "as"
    return [.everything (← bindingName)]
  if ← eatIf (do return phase == .evaluation && (← atMark "\x7b")) then
    return ← separated "\x7d" importEntry
  return []

/-- An import declaration behind the name at its start, if there is one. -/
def importRest (id : Option String) (phase : Phase) : Reader Item := do
  let listed ← if id.isNone then pure true else eatMark ","
  let others ← if listed then importList phase else pure []
  let bindings := id.toList.map (ImportBinding.named · "default") ++ others
  let (literal, attributes) ← source rules
  return .importing literal bindings attributes

/-- An import declaration. -/
def importItem : Reader Item := do
  expectWord "import"
  match ← token with
  | .text _ =>
    let (literal, attributes) ← specifier rules
    return .importing literal [] attributes
  | token =>
    if !token.isName then return ← importRest rules none .evaluation
    match ← importedName? with
    | none => importRest rules none .evaluation
    | some id =>
      if ← atMark "=" then importedValue
      else
        let (id, phase) ← defaultImport id
        importRest rules id phase

/-! ## Exports -/

/-- An entry of an export list. -/
def exportEntry : Reader ExportBinding := do
  let entry ← listedEntry anyWord (return (← exportName).1)
  return .named entry.name (entry.renamed.getD entry.name)

/-- The entries of an export list. -/
def exportEntries : Reader (List ExportBinding) := do
  expectMark "\x7b"
  separated "\x7d" exportEntry

/-- The module that an export list is taken from, if it is taken from one. -/
def exportSource (bindings : List ExportBinding) : Reader Item := do
  if ← atWord "from" then
    let (literal, attributes) ← source rules
    return .exportList bindings (some literal) attributes
  let _ ← semicolon?
  return .exportList bindings none []

/-- An export list or the exports of a whole module. -/
def exportList : Reader Item := do
  unless ← eatMark "*" do return ← exportSource rules (← exportEntries)
  unless ← eatWord "as" do
    let (literal, attributes) ← source rules
    return .exportAll literal attributes
  let everything := ExportBinding.everything (← exportName).1
  require (← atWord "from")
  exportSource rules [everything]

/-- A default export behind the comments `comment`. An interface exports nothing. -/
def defaultExport (comment : String) : Reader Item := do
  let lexeme ← current
  let behind ← ahead
  if lexeme.token == .word "abstract" && behind.token == .word "class" && !behind.onNewLine then
    advance
    return .exportDefault comment (← classDeclaration rules lexeme.comment false)
  if lexeme.token == .word "abstract" && behind.token == .word "interface" then advance
  if ← eatWord "interface" then return .statement (← interfaceRest rules)
  match ← functionOrClass? rules false with
  | some node => return .exportDefault comment node
  | none =>
    let value ← rules.assignment
    semicolon
    return .exportValue value

/-- A declaration behind the word `declare`, if there is one; that word is read in any case. -/
def exportedAmbient? : Reader (Option Node) := do
  let comment := (← current).comment
  if ← eatWord "declare" then ambientDeclaration? rules comment else return none

/-- A declaration that a declaring word starts, unless the word turns out to be a name. -/
def exportedType? : Reader (Option Node) := do
  return (← attempt (declaringWord? rules (← current).comment)).join

/-- A declaration of variables, if there is one. -/
def exportedVariables? : Reader (Option Node) := do
  if ← atVariables then return some (← variableDeclaration rules (← current).comment false)
  return none

/-- An export of a value or declaration, or an export list, behind the comments `comment`. -/
def plainExport (comment : String) : Reader Item := do
  if ← eatWord "default" then return ← defaultExport rules comment
  let declared ← firstOf
    [functionOrClass? rules true, constantEnum? rules, exportedVariables? rules]
  match declared with
  | some node => return .exporting comment node
  | none => exportList rules

/-- An export. -/
def exportItem : Reader Item := do
  let comment := (← next).comment
  match ← firstOf [exportedAmbient? rules, exportedType? rules] with
  | some node => return .exporting comment node
  | none =>
    if ← eatWord "import" then
      if (← atWord "type") && (← ahead).token.isWord then advance
      let _ ← anyWord
      importedValue
    else if ← eatMark "=" then
      let value ← expression rules
      semicolon
      return .statement value
    else if ← eatWord "as" then
      expectWord "namespace"
      reference false
      semicolon
      return .statement (.group [])
    else if ← eatWord "type" then exportList rules
    else plainExport rules comment

/-! ## Items -/

/-- A top-level item of a module. -/
def item : Reader Item := do
  let behind := (← ahead).token
  if (← atWord "import") && behind != .mark "(" && behind != .mark "." then importItem rules
  else if ← atWord "export" then exportItem rules
  else return .statement (← rules.statement true)

end Phrasebook.Source.Grammar
