import Phrasebook.Catalogue
import Phrasebook.Catalogue.Update
import Phrasebook.Extraction

/-!
# Numberings

Each text of a catalogue has a number within its namespace. Calls use the number in place of the key
once every language has the text.

- `Numbering`: numbers and the languages of each text;
- `Numbering.ofTables`: numbers in the order in which texts are first seen;
- `Numbering.find`: what a call may use;
- `Numbering.partialTranslations`: what is not yet translated everywhere.
-/

namespace Phrasebook

/-- The number of a text and the languages that have it. -/
structure NumberedText where
  ordinal : Nat
  translatedIn : List String
deriving Repr, DecidableEq, Inhabited

/-- The numbers of all texts, for the given languages. -/
structure Numbering where
  texts : OrderedMap Identity NumberedText
  languages : List String
deriving Inhabited

/-- What a call may use for a text. -/
inductive Replacement where
  /-- No table holds the text. -/
  | missing
  /-- Some language does not have the text: its key. -/
  | immature (text : NumberedText)
  /-- Every language has the text: its number. -/
  | mature (ordinal : Nat)
deriving Repr, DecidableEq

namespace Numbering

/-! ### Coverage -/

/-- The languages of each text, texts and languages in the order in which they are first seen. -/
abbrev Coverage := OrderedMap Identity (List String)

/-- Whether an entry counts as translated: its text is not empty and, but in the default language,
no placeholder. -/
def isTranslated (isDefault : Bool) (key value : String) : Bool :=
  !value.isEmpty && (isDefault || !isPlaceholder key value)

/-- Add an entry of a table to the coverage. -/
def coverEntry (space language : String) (isDefault : Bool) (coverage : Coverage)
    (entry : String × String) : Coverage :=
  let identity : Identity := ⟨space, entry.1⟩
  let known := (coverage.get? identity).getD []
  let isNew := isTranslated isDefault entry.1 entry.2 && !known.contains language
  coverage.insert identity (if isNew then known ++ [language] else known)

/-- Add a table to the coverage. -/
def coverTable (space language : String) (isDefault : Bool) (coverage : Coverage) (table : Table) :
    Coverage :=
  table.entries.foldl (coverEntry space language isDefault) coverage

/-! ### Numbers -/

/-- The first number from `start` on whose decimal form is none of the given keys. There is one
among any so many numbers and one more. -/
def firstFree (keys : List String) (start : Nat) : Nat :=
  ((List.range' start (keys.length + 1)).find? fun number =>
    !keys.contains (toString number)).getD start

/-- The keys of a namespace that some language does not have; calls use these as they are. -/
def literalKeys (coverage : Coverage) (languages : List String) (space : String) : List String :=
  coverage.entries.filterMap fun (identity, known) =>
    if identity.space = space && known.length ≠ languages.length then some identity.key else none

/-- Number texts one by one; `next` holds the next number of each namespace, and `literal` the keys
whose decimal forms are left out. -/
def assign (literal : String → List String) (next : OrderedMap String Nat) :
    List (Identity × List String) → List (Identity × NumberedText)
  | [] => []
  | (identity, known) :: rest =>
    let ordinal := firstFree (literal identity.space) ((next.get? identity.space).getD 0)
    (identity, ⟨ordinal, known⟩) ::
      assign literal (next.insert identity.space (ordinal + 1)) rest

/-- The numbers of all texts of a coverage: from 0 on in each namespace, in order. A number is left
out where a key that calls use as it is reads the same. -/
def ofCoverage (coverage : Coverage) (languages : List String) : Numbering :=
  ⟨OrderedMap.ofList (assign (literalKeys coverage languages) .empty coverage.entries), languages⟩

/-- Add a table file to the coverage; files that cannot be read are issues. -/
def coverFile (catalogue : Catalogue) (tree : FileTree) (defaultLanguage : Option String)
    (progress : Coverage × List Issue) (table : StoredTable) : Coverage × List Issue :=
  match catalogue.read tree table.path with
  | .ok (some file) =>
    let isDefault := some table.language == defaultLanguage
    (coverTable table.space table.language isDefault progress.1 file.table, progress.2)
  | .ok none => progress
  | .error fault => (progress.1, progress.2 ++ [catalogue.malformed table.path fault])

/-- The numbers of all texts in the tables of the given languages, and the tables that cannot be
read. -/
def ofTables (catalogue : Catalogue) (tree : FileTree) (languages : List String)
    (defaultLanguage : Option String) : Numbering × List Issue :=
  let supported := (catalogue.list tree).filter fun table => languages.contains table.language
  let (coverage, issues) :=
    supported.foldl (coverFile catalogue tree defaultLanguage) (.empty, [])
  (ofCoverage coverage languages, issues)

/-! ### Use -/

/-- What a call may use for a text. -/
def find (numbering : Numbering) (identity : Identity) : Replacement :=
  match numbering.texts.get? identity with
  | none => .missing
  | some text =>
    if text.translatedIn.length = numbering.languages.length then .mature text.ordinal
    else .immature text

/-- What calls write for the key of a text. -/
def keyOf (numbering : Numbering) (identity : Identity) : String :=
  match numbering.find identity with
  | .mature ordinal => toString ordinal
  | .missing | .immature _ => identity.key

/-- The texts that are looked up and that some language does not have, as issues. -/
def partialTranslations (numbering : Numbering) (extraction : Extraction) : List Issue :=
  extraction.callSites.entries.filterMap fun (identity, sites) =>
    match numbering.find identity with
    | .immature text =>
      let missing := numbering.languages.filter fun language =>
        !text.translatedIn.contains language
      some (.partialTranslation identity missing (sites.head?.map CallSite.context))
    | .missing | .mature _ => none

end Numbering

end Phrasebook
