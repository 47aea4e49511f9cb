import Phrasebook.OrderedMap
import Phrasebook.Path
import Phrasebook.Text.Lines

/-!
# File trees

A tree of folders and files, seen from a current folder.

- `FileTree`: the tree, as a map from locations to entries;
- `FileTree.locate`: the location that a path leads to;
- `FileTree.read`, `FileTree.write`, `FileTree.makeFolders`, …: what is done with paths;
- `FileError`: why it cannot be done.
-/

namespace Phrasebook

/-- A place in a file tree: the names that lead to it from the root. -/
abbrev Location := List String

/-- What a file holds. -/
inductive Content where
  | text (value : String)
  /-- Bytes that are no text. -/
  | bytes (value : List UInt8)
deriving DecidableEq, Inhabited

/-- What stands at a location. -/
inductive Entry where
  | folder
  | file (content : Content)
deriving DecidableEq, Inhabited

/-- Why something cannot be done with a path. -/
inductive FileError where
  | notFound
  | notFolder
  | isFolder
  | alreadyThere
  | nameTooLong
  | nulInName
  | notText
deriving Repr, DecidableEq

/-- The words for an error. -/
def FileError.message : FileError → String
  | .notFound => "No such file or directory (os error 2)"
  | .notFolder => "Not a directory (os error 20)"
  | .isFolder => "Is a directory (os error 21)"
  | .alreadyThere => "File exists (os error 17)"
  | .nameTooLong => "File name too long (os error 36)"
  | .nulInName => "file name contained an unexpected NUL byte"
  | .notText => "stream did not contain valid UTF-8"

/-- Folders and files, and the folder from which relative paths are seen. -/
structure FileTree where
  entries : OrderedMap Location Entry
  /-- The current folder. -/
  here : Location
deriving Inhabited

/-- What may change the file tree, or fail. What was changed before a failure stays changed. -/
abbrev FileAction (ε : Type) := ExceptT ε (StateM FileTree)

namespace FileTree

/-- The most bytes that a name may have. -/
def nameLimit : Nat := 255

/-- What stands at a location; the root is always a folder. -/
def entryAt? (tree : FileTree) (location : Location) : Option Entry :=
  if location.isEmpty then some .folder else tree.entries.get? location

/-! ### Following paths -/

/-- Follow one piece of a path from a location, which has to be a folder. The folder above the root
is the root. -/
def follow (tree : FileTree) (location : Location) (piece : List Char) :
    Except FileError Location :=
  match tree.entryAt? location with
  | none => .error .notFound
  | some (.file _) => .error .notFolder
  | some .folder =>
    if Path.isBlank piece then .ok location
    else if piece = ['.', '.'] then
      .ok location.dropLast
    else if nameLimit < Text.byteLength piece then .error .nameTooLong
    else .ok (location ++ [String.ofList piece])

/-- The location that a path leads to. All folders on the way have to be there; what the path leads
to need not. -/
def locate (tree : FileTree) (path : Path) : Except FileError Location :=
  let cs := path.text.toList
  if cs.isEmpty then .error .notFound
  else if cs.contains '\x00' then .error .nulInName
  else (Path.pieces cs).foldlM tree.follow (if path.isAbsolute then [] else tree.here)

/-- What stands where a path leads to. -/
def find (tree : FileTree) (path : Path) : Except FileError Entry := do
  match tree.entryAt? (← tree.locate path) with
  | none => .error .notFound
  | some entry => .ok entry

/-- Whether a path leads to anything. -/
def has (tree : FileTree) (path : Path) : Bool := (tree.find path).toOption.isSome

/-- Whether a path leads to a file. -/
def isFile (tree : FileTree) (path : Path) : Bool :=
  match tree.find path with
  | .ok (.file _) => true
  | _ => false

/-- Whether a path leads to a folder. -/
def isFolder (tree : FileTree) (path : Path) : Bool :=
  match tree.find path with
  | .ok .folder => true
  | _ => false

/-! ### Reading -/

/-- The text of a file. -/
def read (tree : FileTree) (path : Path) : Except FileError String := do
  match ← tree.find path with
  | .folder => .error .isFolder
  | .file (.bytes _) => .error .notText
  | .file (.text value) => .ok value

/-- The names in a folder. -/
def names (tree : FileTree) (path : Path) : Except FileError (List String) := do
  let location ← tree.locate path
  match tree.entryAt? location with
  | none => .error .notFound
  | some (.file _) => .error .notFolder
  | some .folder =>
    return tree.entries.keys.filterMap fun other =>
      if other.dropLast = location then other.getLast? else none

/-- A path and the paths of everything below it. -/
def walk (tree : FileTree) (path : Path) : Except FileError (List Path) := do
  let _ ← tree.find path
  let location ← tree.locate path
  let below := tree.entries.keys.filterMap fun other =>
    if location.isPrefixOf other && location.length < other.length then
      some ((other.drop location.length).foldl Path.join path)
    else none
  return path :: below

/-! ### Changing -/

/-- Put an entry at a location. -/
def putAt (tree : FileTree) (location : Location) (entry : Entry) : FileTree :=
  { tree with entries := tree.entries.insert location entry }

/-- Write a text to a file, which may be new; its folder has to be there. -/
def write (path : Path) (text : String) : FileAction FileError Unit := do
  let tree ← get
  let location ← tree.locate path
  match tree.entryAt? location with
  | some .folder => throw .isFolder
  | _ => set (tree.putAt location (.file (.text text)))

/-- Make one folder. -/
def makeFolder (path : Path) : FileAction FileError Unit := do
  let tree ← get
  let location ← tree.locate path
  match tree.entryAt? location with
  | some _ => throw .alreadyThere
  | none => set (tree.putAt location .folder)

/-- Make a folder where there may be one already. -/
def ensureFolder (path : Path) : FileAction FileError Unit := do
  try makeFolder path
  catch error => if !(← get).isFolder path then throw error

/-- Make a folder and the folders on the way to it; the number bounds these. -/
def makeFoldersWithin : Nat → Path → FileAction FileError Unit
  | 0, _ => throw .notFound
  | bound + 1, path => do
    if !path.text.isEmpty then
      try makeFolder path
      catch error =>
        if error = .notFound then
          if let some parent := path.parent? then makeFoldersWithin bound parent
          ensureFolder path
        else if !(← get).isFolder path then throw error

/-- Make a folder and the folders on the way to it. -/
def makeFolders (path : Path) : FileAction FileError Unit :=
  makeFoldersWithin (path.text.length + 1) path

end FileTree

end Phrasebook
