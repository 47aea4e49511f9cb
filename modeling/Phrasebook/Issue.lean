import Phrasebook.Identity

/-!
# Issues

What is wrong with single calls, keys, tables and files. Issues are collected and reported; they
stop nothing.

- `SourceContext`: a place in a source with its line;
- `CallFault`: why a call does not look up a key;
- `Issue`: the kinds of issues, with their severity, rule, location and words;
- `Issue.compare`: the order in which they are reported.
-/

namespace Phrasebook

/-- A place in a source file and the line that it points into. -/
structure SourceContext where
  file : String
  line : Nat
  col : Nat
  sourceLine : String
deriving Repr, DecidableEq, Inhabited

/-- A place in a table file and the entry that stands there. -/
structure EntryContext where
  file : String
  line : Nat
  col : Nat
  key : String
  value : String
deriving Repr, DecidableEq, Inhabited

/-- Why a call of a lookup has no identity. -/
inductive CallFault where
  | missingArguments (expected found : Nat)
  | keyNotLiteral
  | namespaceNotLiteral
  | spreadArgument
  /-- A namespace that could not name a table file. -/
  | invalidNamespace (space : String)
deriving Repr, DecidableEq

/-- The words for a fault. -/
def CallFault.message : CallFault → String
  | .missingArguments expected found =>
    "expected at least " ++ toString expected ++ " argument(s), found " ++ toString found
  | .keyNotLiteral => "key is not a string literal"
  | .namespaceNotLiteral => "namespace is not a string literal"
  | .spreadArgument => "spread argument in key position"
  | .invalidNamespace space => "invalid namespace \"" ++ space ++ "\""

/-- How bad an issue is. -/
inductive Severity where
  | error
  | warning
deriving Repr, DecidableEq

/-- The word for a severity. -/
def Severity.word : Severity → String
  | .error => "error"
  | .warning => "warning"

/-- The rules that issues break, in their order. -/
inductive Rule where
  | constructorAnomaly
  | missingLookup
  | callShape
  | keyNotFound
  | unusedKey
  | partialTranslation
  | untranslated
  | translationFailed
  | malformedTable
  | parseError
deriving Repr, DecidableEq

/-- The name of a rule. -/
def Rule.name : Rule → String
  | .constructorAnomaly => "constructor-anomaly"
  | .missingLookup => "missing-lookup"
  | .callShape => "call-shape"
  | .keyNotFound => "key-not-found"
  | .unusedKey => "unused-key"
  | .partialTranslation => "partial-translation"
  | .untranslated => "untranslated"
  | .translationFailed => "translation-failed"
  | .malformedTable => "malformed-table"
  | .parseError => "parse-error"

/-- The place of a rule in the order. -/
def Rule.rank : Rule → Nat
  | .constructorAnomaly => 0
  | .missingLookup => 1
  | .callShape => 2
  | .keyNotFound => 3
  | .unusedKey => 4
  | .partialTranslation => 5
  | .untranslated => 6
  | .translationFailed => 7
  | .malformedTable => 8
  | .parseError => 9

/-- What an issue points at. -/
inductive IssueLocation where
  | source (context : SourceContext)
  | table (context : EntryContext)
  | file (path : String)
  /-- The program as a whole. -/
  | program
deriving Repr, DecidableEq

/-- Something that is wrong. -/
inductive Issue where
  | missingConstructor
  | duplicateConstructor (context : SourceContext)
  | missingLookup
  | callShape (context : SourceContext) (fault : CallFault)
  | keyNotFound (context : SourceContext) (identity : Identity)
  | unusedKey (context : EntryContext)
  /-- A key that some languages do not translate; `usage` is its first call. -/
  | partialTranslation (identity : Identity) (missingIn : List String)
      (usage : Option SourceContext)
  | untranslated (file language : String) (keys : List String)
  | translationFailed (identity : Identity) (language error : String)
  | malformedTable (file error : String)
  | parseError (file error : String)
deriving Repr, DecidableEq

namespace Issue

/-- How bad an issue is. -/
def severity : Issue → Severity
  | .callShape .. | .malformedTable .. | .parseError .. => .error
  | _ => .warning

/-- Whether an issue is an error. -/
def isError (issue : Issue) : Bool := issue.severity = .error

/-- The rule that an issue breaks. -/
def rule : Issue → Rule
  | .missingConstructor | .duplicateConstructor _ => .constructorAnomaly
  | .missingLookup => .missingLookup
  | .callShape .. => .callShape
  | .keyNotFound .. => .keyNotFound
  | .unusedKey _ => .unusedKey
  | .partialTranslation .. => .partialTranslation
  | .untranslated .. => .untranslated
  | .translationFailed .. => .translationFailed
  | .malformedTable .. => .malformedTable
  | .parseError .. => .parseError

/-- What an issue points at. -/
def location : Issue → IssueLocation
  | .missingConstructor | .missingLookup | .translationFailed .. => .program
  | .duplicateConstructor context | .callShape context _ | .keyNotFound context _ => .source context
  | .unusedKey context => .table context
  | .partialTranslation _ _ (some usage) => .source usage
  | .partialTranslation _ _ none => .program
  | .untranslated file _ _ | .malformedTable file _ | .parseError file _ => .file file

/-- What an issue says first. -/
def message : Issue → String
  | .missingConstructor => "no i18n constructor found in the program"
  | .duplicateConstructor _ => "multiple i18n constructors found"
  | .missingLookup => "no lookup method found in the program"
  | .callShape _ fault => fault.message
  | .keyNotFound _ identity => identity.toText
  | .unusedKey context => context.key
  | .partialTranslation identity _ _ => identity.toText
  | .untranslated _ language keys =>
    toString keys.length ++ " key(s) still untranslated in " ++ language
  | .translationFailed identity language _ => identity.toText ++ " (" ++ language ++ ")"
  | .malformedTable _ error | .parseError _ error => error

/-- How an issue can be mended. -/
def hint? : Issue → Option String
  | .missingConstructor => some "tag the i18n class with a /** I18NCONSTRUCTORSYMBOL */ comment"
  | .missingLookup =>
    some "tag lookup methods with /** I18NLOCTEXTSYMBOL */ or /** I18NNSLOCTEXTSYMBOL */"
  | .callShape .. => some "lookup keys must be string literals so they can be extracted"
  | .keyNotFound .. => some "run \x60loctext sync\x60 to add it"
  | .malformedTable .. => some "the file was left untouched; fix the table by hand"
  | _ => none

/-- What else is known about an issue. -/
def details? : Issue → Option String
  | .duplicateConstructor _ => some "languages are taken from the first one"
  | .unusedKey context => some ("(\"" ++ context.value ++ "\")")
  | .partialTranslation _ missingIn _ => some ("not translated in: " ++ ", ".intercalate missingIn)
  | .untranslated _ _ keys => some (", ".intercalate keys)
  | .translationFailed _ _ error => some error
  | _ => none

/-! ### Order -/

/-- The file that an issue points at. -/
def file? (issue : Issue) : Option String :=
  match issue.location with
  | .source context => some context.file
  | .table context => some context.file
  | .file path => some path
  | .program => none

/-- The line that an issue points at; zero if it points at none. -/
def line (issue : Issue) : Nat :=
  match issue.location with
  | .source context => context.line
  | .table context => context.line
  | .file _ | .program => 0

/-- The column that an issue points at; zero if it points at none. -/
def col (issue : Issue) : Nat :=
  match issue.location with
  | .source context => context.col
  | .table context => context.col
  | .file _ | .program => 0

/-- The order of reports: by file, line, column and words; issues of the whole program come last,
by rule and words. -/
def compare (a b : Issue) : Ordering :=
  match a.file?, b.file? with
  | some file, some other =>
    (Ord.compare file other).then <|
      (Ord.compare a.line b.line).then <|
        (Ord.compare a.col b.col).then (Ord.compare a.message b.message)
  | some _, none => .lt
  | none, some _ => .gt
  | none, none => (Ord.compare a.rule.rank b.rule.rank).then (Ord.compare a.message b.message)

/-- Issues in the order of reports; equal ones keep their order. -/
def sort (issues : List Issue) : List Issue := issues.mergeSort fun a b => a.compare b != .gt

end Issue

end Phrasebook
