import Phrasebook.Catalogue.Update

/-!
# Filling tables with translations

- `Translations`: translated texts;
- `Catalogue.translate`: the texts of one table;
- `Catalogue.fill`: all tables.
-/

namespace Phrasebook

/-- Translated texts by identity and language. -/
abbrev Translations := OrderedMap (Identity × String) String

namespace Catalogue

/-- How a run fills tables. -/
structure FillOptions where
  translations : Translations
  /-- Identities whose texts are replaced even where they are translated. -/
  targets : List Identity
  /-- The language of the keys. -/
  defaultLanguage : Option String

/-- Whether an entry may get a new text: it has none, it is a placeholder, or it is a target. -/
def isOpen (targets : List Identity) (identity : Identity) (current : String) : Bool :=
  current.isEmpty || isPlaceholder identity.key current || targets.contains identity

/-- Give one key its translation, if there is one and it is new. -/
def translateKey (options : FillOptions) (space language : String) (table : Table) (key : String) :
    Option Table := do
  let identity : Identity := ⟨space, key⟩
  let value ← options.translations.get? (identity, language)
  let current := (table.get? key).getD ""
  if isOpen options.targets identity current && current != value then
    some (table.insert key value)
  else none

/-- Give keys their translations, and count the new ones. -/
def translate (options : FillOptions) (space language : String) (table : Table)
    (keys : List String) : Table × Nat :=
  keys.foldl
    (fun (table, translated) key =>
      match translateKey options space language table key with
      | some table => (table, translated + 1)
      | none => (table, translated))
    (table, 0)

/-- The keys that still wait for their translations. -/
def waiting (table : Table) (keys : List String) : List String :=
  keys.filter fun key => (table.get? key).any (isPlaceholder key)

/-- Fill a table: missing keys get placeholders, then keys get their translations. That keys still
wait is an issue, but in the default language. -/
def fillTable (catalogue : Catalogue) (options : FillOptions) (tree : FileTree) (need : Need) :
    Update :=
  let path := catalogue.filePath need.space need.language
  match catalogue.openTable tree path with
  | .error fault => ⟨[catalogue.malformed path fault], none⟩
  | .ok (file, kind) =>
    let (table, added) := addMissing file.table need.keys
    let (table, translated) := translate options need.space need.language table need.keys
    let left := waiting table need.keys
    let issues :=
      if some need.language = options.defaultLanguage || left.isEmpty then []
      else [.untranslated (catalogue.display path) need.language left]
    catalogue.updateOf path issues { file with table } kind added translated

/-- Fill all tables. Files are only written if `apply` is set; what would change is told in any
case. -/
def fill (catalogue : Catalogue) (identities : List Identity) (languages : List String)
    (options : FillOptions) (apply : Bool) : FileAction WriteFault Outcome :=
  catalogue.run apply (catalogue.fillTable options) (needs identities languages)

end Catalogue

end Phrasebook
