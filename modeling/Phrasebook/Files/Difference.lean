import Phrasebook.Files.Tree

/-!
# Differences of file trees

- `FileTree.ofFiles`: a tree of given files;
- `FileTree.files`: the files of a tree;
- `FileTree.difference`: what has happened to the files of a tree.
-/

namespace Phrasebook.FileTree

/-- The path from the root to a location. -/
def pathOf (location : Location) : Path := ⟨"/" ++ "/".intercalate location⟩

/-- Put a file at a path, with the folders on the way to it, unless other files are in the way. -/
def place (tree : FileTree) (path : Path) (content : Content) : FileTree :=
  let folder := path.parent?.getD ⟨"/"⟩
  let withFolder := ((makeFolders folder).run tree).2
  match withFolder.locate path with
  | .ok location => withFolder.putAt location (.file content)
  | .error _ => withFolder

/-- The tree with the given files, seen from the given folder. -/
def ofFiles (here : Location) (files : List (Path × Content)) : FileTree :=
  let start := ((makeFolders (pathOf here)).run ⟨.empty, here⟩).2
  files.foldl (fun tree (path, content) => tree.place path content) start

/-- The files of a tree. -/
def files (tree : FileTree) : List (Location × Content) :=
  tree.entries.entries.filterMap fun (location, entry) =>
    match entry with
    | .file content => some (location, content)
    | .folder => none

/-- What a file holds, if there is one. -/
def contentAt? (tree : FileTree) (location : Location) : Option Content :=
  match tree.entries.get? location with
  | some (.file content) => some content
  | _ => none

/-- The files that are new or hold something new, and without content those that are gone. -/
def difference (before after : FileTree) : List (Location × Option Content) :=
  let written := after.files.filterMap fun (location, content) =>
    if before.contentAt? location = some content then none else some (location, some content)
  let removed := before.files.filterMap fun (location, _) =>
    if (after.contentAt? location).isNone then some (location, none) else none
  written ++ removed

end Phrasebook.FileTree
