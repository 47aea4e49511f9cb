import Phrasebook.Files.Tree
import Phrasebook.Table.File
import Phrasebook.Text.Search

/-!
# Catalogues

The table files of a project. They stand in one folder, each named after its namespace and language,
as in `default.en.ts`.

- `Catalogue`: where the files are;
- `Catalogue.filePath`, `Catalogue.list`: the file of a table, and the tables of the files;
- `Catalogue.read`, `Catalogue.write`: table files from and to the file tree.
-/

namespace Phrasebook

/-- Where the table files of a project are. -/
structure Catalogue where
  folder : Path
  /-- The extension of table files, without its dot. -/
  extension : String
  /-- The folder from which paths are shown. -/
  root : Path
deriving Repr, DecidableEq, Inhabited

/-- A table file with the namespace and the language that its name tells. -/
structure StoredTable where
  space : String
  language : String
  path : Path
deriving Repr, DecidableEq, Inhabited

/-- Why a table cannot be read. -/
inductive TableReadFault where
  | unreadable (shown : String) (error : FileError)
  | malformed (fault : TableFault)

/-- The words for a fault. -/
def TableReadFault.message : TableReadFault → String
  | .unreadable shown error => "Failed to read " ++ shown ++ ": " ++ error.message
  | .malformed fault => fault.message

/-- Why a file cannot be written. -/
inductive WriteFault where
  | folder (path : Path) (error : FileError)
  | file (shown : String) (error : FileError)
deriving Repr, DecidableEq

/-- The words for a fault. -/
def WriteFault.message : WriteFault → String
  | .folder path error => "Failed to create directory " ++ path.text ++ ": " ++ error.message
  | .file shown error => "Failed to write " ++ shown ++ ": " ++ error.message

/-- Write a text to a file and make the folders on the way to it; `shown` is the file as faults show
it. -/
def writeFile (path : Path) (shown text : String) : FileAction WriteFault Unit := do
  if let some folder := path.parent? then
    ExceptT.adapt (WriteFault.folder folder) (FileTree.makeFolders folder)
  ExceptT.adapt (WriteFault.file shown) (FileTree.write path text)

namespace Catalogue

/-- The path of the table of a namespace in a language. -/
def filePath (catalogue : Catalogue) (space language : String) : Path :=
  catalogue.folder.join (space ++ "." ++ language ++ "." ++ catalogue.extension)

/-- A path as it is shown. -/
def display (catalogue : Catalogue) (path : Path) : String := path.display catalogue.root

/-- The table in a file; none if there is no such file. -/
def read (catalogue : Catalogue) (tree : FileTree) (path : Path) :
    Except TableReadFault (Option TableFile) :=
  if tree.has path then
    match tree.read path with
    | .error error => .error (.unreadable (catalogue.display path) error)
    | .ok text =>
      match TableFile.parse text with
      | .error fault => .error (.malformed fault)
      | .ok file => .ok (some file)
  else .ok none

/-- Write a table file. -/
def write (catalogue : Catalogue) (path : Path) (text : String) : FileAction WriteFault Unit :=
  writeFile path (catalogue.display path) text

/-- The namespace and the language that the name of a table file tells: the language stands between
the last dot and the extension, and a namespace may hold dots. -/
def nameParts? (catalogue : Catalogue) (name : String) : Option (String × String) := do
  let stem ← Text.withoutEnding? ('.' :: catalogue.extension.toList) name.toList
  let (space, language) ← Text.splitAtLast? '.' stem
  if space.isEmpty || language.isEmpty then none
  else some (String.ofList space, String.ofList language)

/-- The table that a name in the folder stands for. -/
def stored? (catalogue : Catalogue) (tree : FileTree) (name : String) : Option StoredTable := do
  let path := catalogue.folder.join name
  if tree.isFile path then
    let (space, language) ← catalogue.nameParts? name
    return ⟨space, language, path⟩
  else none

/-- All table files, by name; none if there is no folder for them. -/
def list (catalogue : Catalogue) (tree : FileTree) : List StoredTable :=
  let names := ((tree.names catalogue.folder).toOption.getD []).mergeSort fun a b => a ≤ b
  names.filterMap (catalogue.stored? tree)

end Catalogue

end Phrasebook
