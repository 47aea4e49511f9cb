import Phrasebook.Lookup

/-!
# Extraction

What a program asks of its tables: the languages that its constructor names, and the identities that
its calls look up.

- `Extraction`: languages, and calls by identity in the order in which they were seen;
- `Extraction.languagesOf`: the languages that the arguments of a constructor name;
- `Extraction.ofProgram`: all root files, every node before its parts.
-/

namespace Phrasebook

open Source

/-- A call that looks a key up. -/
structure CallSite where
  /-- The index of the unit. -/
  file : Nat
  /-- Where the call starts. -/
  offset : Nat
  context : SourceContext
deriving Repr, DecidableEq, Inhabited

/-- Why the arguments of a constructor name no languages. -/
inductive ConstructorFault where
  | noArgument
  | noLanguages
  | spreadProperty
  | notAssignment
  | badPropertyName
  | brokenPropertyName
  | notLiteral
  | brokenLiteral
deriving Repr, DecidableEq

/-- The words for a fault. -/
def ConstructorFault.message : ConstructorFault → String
  | .noArgument => "i18n constructor must have at least one argument"
  | .noLanguages =>
    "i18n constructor needs an object literal or an array literal of languages"
  | .spreadProperty => "i18n constructor argument must not contain spreads"
  | .notAssignment => "i18n constructor argument must only contain property assignments"
  | .badPropertyName => "i18n constructor property name must be a string literal"
  | .brokenPropertyName => "i18n constructor property name is not valid UTF-8"
  | .notLiteral => "i18n constructor languages must be string literals"
  | .brokenLiteral => "i18n constructor language is not valid UTF-8"

/-- A constructor whose arguments name no languages. -/
structure ExtractionFault where
  context : SourceContext
  fault : ConstructorFault
deriving Repr, DecidableEq

/-- The words for a fault, with its place. -/
def ExtractionFault.message (fault : ExtractionFault) : String :=
  let place := fault.context
  "invalid i18n constructor at " ++ place.file ++ ":" ++ toString place.line ++ ":" ++
    toString place.col ++ ": " ++ fault.fault.message

/-- What a program asks of its tables. -/
structure Extraction where
  languages : List String
  /-- The calls that look up each identity, identities and calls in the order in which they were
  seen. -/
  callSites : OrderedMap Identity (List CallSite)
  issues : List Issue
deriving Inhabited

namespace Extraction

/-- The identities that are looked up, in the order in which they were first seen. -/
def identities (extraction : Extraction) : List Identity := extraction.callSites.keys

/-- The calls that look an identity up. -/
def sitesOf (extraction : Extraction) (identity : Identity) : List CallSite :=
  (extraction.callSites.get? identity).getD []

/-! ### Languages -/

/-- The language that a property of an object names. -/
def propertyLanguage : Node → Except ConstructorFault String
  | .spread _ => .error .spreadProperty
  | .property (.name id) _ => .ok id
  | .property (.text literal) _ =>
    match literal.text? with
    | some text => .ok text
    | none => .error .brokenPropertyName
  | .property .other _ => .error .badPropertyName
  | _ => .error .notAssignment

/-- The language that an element of an array names. -/
def elementLanguage : Node → Except ConstructorFault String
  | .text _ _ literal =>
    match literal.text? with
    | some text => .ok text
    | none => .error .brokenLiteral
  | _ => .error .notLiteral

/-- The expression of an argument. -/
def expressionOf : Node → Node
  | .spread inner => inner
  | node => node

/-- The elements of an array literal. -/
def elements? : Node → Option (List Node)
  | .array elements => some elements
  | _ => none

/-- The languages that the arguments of a constructor name, without repetition: the properties of an
object as the first argument, or the elements of the first array. -/
def languagesOf (arguments : List Node) : Except ConstructorFault (List String) := do
  let expressions := arguments.map expressionOf
  match expressions.head?, expressions.findSome? elements? with
  | none, _ => throw .noArgument
  | some (.object properties), _ => return (← properties.mapM propertyLanguage).eraseDups
  | some _, some elements => return (← elements.mapM elementLanguage).eraseDups
  | some _, none => throw .noLanguages

/-! ### Nodes -/

/-- What was seen so far; no languages before the first constructor. -/
structure Progress where
  languages : Option (List String)
  callSites : OrderedMap Identity (List CallSite)
  /-- Issues in the order in which they were found. -/
  issues : List Issue

/-- Nothing was seen. -/
def Progress.start : Progress := ⟨none, .empty, []⟩

/-- Whether a `new` expression makes the object that looks keys up. -/
def isConstructor (program : Program) (file : Nat) (comment : String) (callee : Node) : Bool :=
  Text.occursIn Marker.constructorWord.toList comment.toList ||
    program.calleeMarker? file callee == some .constructor

/-- Record a constructor: the first one names the languages. -/
def recordConstructor (progress : Progress) (context : SourceContext) (arguments : List Node) :
    Except ExtractionFault Progress :=
  match progress.languages with
  | some _ =>
    .ok { progress with issues := progress.issues ++ [.duplicateConstructor context] }
  | none =>
    match languagesOf arguments with
    | .ok languages => .ok { progress with languages := some languages }
    | .error fault => .error ⟨context, fault⟩

/-- Record a call of a lookup. -/
def recordLookup (progress : Progress) (file start : Nat) (context : SourceContext) :
    Except CallFault LookupCall → Progress
  | .ok lookup =>
    let known := (progress.callSites.get? lookup.identity).getD []
    let sites := known ++ [⟨file, start, context⟩]
    { progress with callSites := progress.callSites.insert lookup.identity sites }
  | .error fault => { progress with issues := progress.issues ++ [.callShape context fault] }

/-- Record a node of a unit. -/
def recordNode (program : Program) (file : Nat) (progress : Progress) (node : Node) :
    Except ExtractionFault Progress :=
  match node with
  | .construct start comment callee arguments =>
    if isConstructor program file comment callee then
      recordConstructor progress (program.contextAt file start) arguments
    else .ok progress
  | .call start callee arguments =>
    match LookupCall.classify program file callee arguments with
    | some result => .ok (recordLookup progress file start (program.contextAt file start) result)
    | none => .ok progress
  | _ => .ok progress

/-- Record all nodes of a unit, each before its parts. -/
def recordUnit (program : Program) (progress : Progress) (root : Nat × Program.SourceUnit) :
    Except ExtractionFault Progress :=
  (Node.preorderAll root.2.script.nodes).foldlM (recordNode program root.1) progress

/-- What a program asks of its tables. Only root files are searched. A constructor that names no
languages is a failure; that there is no constructor or no lookup at all is an issue. -/
def ofProgram (program : Program) : Except ExtractionFault Extraction := do
  let progress ← program.roots.foldlM (recordUnit program) .start
  let noConstructor := if progress.languages.isNone then [Issue.missingConstructor] else []
  let noLookup := if program.hasLookups then [] else [Issue.missingLookup]
  return {
    languages := progress.languages.getD []
    callSites := progress.callSites
    issues := progress.issues ++ noConstructor ++ noLookup }

end Extraction

end Phrasebook
