import Phrasebook.Config
import Phrasebook.Files.Tree
import Phrasebook.Text.Quoted

/-!
# Finding the configuration

The settings of a project stand in a file in its folder, or in one of the folders above up to the
one that holds the repository.

- `Config.find?`: the file;
- `Config.load`: the settings it holds, or the standard ones if there is no file.
-/

namespace Phrasebook

/-- Why the settings of a project cannot be used. -/
inductive ConfigFault where
  | unreadable (path : Path) (error : FileError)
  | malformed (path : Path) (fault : Json.Fault) (text : String)
  | notAllowed (problem : ConfigProblem)

/-- The words for a fault. -/
def ConfigFault.message : ConfigFault → String
  | .unreadable path error =>
    "Failed to read config file: " ++ Text.quoted path.text ++ ": " ++ error.message
  | .malformed path fault text =>
    "Failed to parse config file: " ++ Text.quoted path.text ++ ": " ++ fault.message text.toList
  | .notAllowed problem => problem.message

namespace Config

/-- The name of the file with the settings. -/
def fileName : String := ".loctextrc.json"

/-- The file with the settings in a folder or above it; the number bounds the folders. -/
def findWithin? (tree : FileTree) : Nat → Path → Option Path
  | 0, _ => none
  | bound + 1, folder =>
    let file := folder.join fileName
    if tree.has file then some file
    else if tree.has (folder.join ".git") then none
    else folder.parent?.bind (findWithin? tree bound)

/-- The file with the settings in a folder or above it. The search ends at the folder that holds the
repository. -/
def find? (tree : FileTree) (folder : Path) : Option Path :=
  findWithin? tree (folder.components.length + 1) folder

/-- The settings for a folder, and whether they stand in a file. -/
def load (tree : FileTree) (folder : Path) : Except ConfigFault (Config × Bool) :=
  match find? tree folder with
  | none => .ok ({}, false)
  | some path =>
    match tree.read path with
    | .error error => .error (.unreadable path error)
    | .ok text =>
      match Config.parse text with
      | .error fault => .error (.malformed path fault text)
      | .ok config =>
        match config.problem? with
        | some problem => .error (.notAllowed problem)
        | none => .ok (config, true)

end Config

end Phrasebook
