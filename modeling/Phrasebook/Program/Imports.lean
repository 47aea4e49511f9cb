import Phrasebook.Json.Decode
import Phrasebook.Scan.Files

/-!
# Imported modules

Which source file a module specifier stands for: a file with or without its extension, the entry of
a package, or the index of a folder.

- `Imports.isShort`: which paths are opened at all;
- `Imports.resolve?`: the file that a specifier leads to from another file.
-/

namespace Phrasebook.Program.Imports

/-! ### Paths that are opened -/

/-- The most bytes of a path that is opened. Paths of imports grow without bound where a file
imports itself by way of the folder above the root, which is the root again. -/
def pathLimit : Nat := 4095

/-- Whether a path is short enough to be opened. -/
def isShort (path : Path) : Bool := Text.byteLength path.text.toList ≤ pathLimit

/-- Whether a path is opened and leads to a file. -/
def isFile (tree : FileTree) (path : Path) : Bool := isShort path && tree.isFile path

/-- Whether a path is opened and leads to a folder. -/
def isFolder (tree : FileTree) (path : Path) : Bool := isShort path && tree.isFolder path

/-- The text of a file whose path is opened. -/
def read (tree : FileTree) (path : Path) : Except FileError String :=
  if isShort path then tree.read path else .error .nameTooLong

/-! ### Candidates -/

/-- The endings that are tried after a specifier, in this order. -/
def endings : List String := [".ts", ".tsx", ".d.ts", ".mts", ".cts", ".js", ".jsx"]

/-- The endings of sources that are named by the script made from them. -/
def sourceEndings : List String := [".ts", ".tsx", ".d.ts"]

/-- The first of some paths that leads to a file. -/
def firstFile? (tree : FileTree) (paths : List Path) : Option Path := paths.find? (isFile tree)

/-- The file that a path without or with its ending stands for. A script is named in place of the
source that it is made from. -/
def file? (tree : FileTree) (base : Path) : Option Path :=
  let sources :=
    if base.extension?.any ["js", "jsx", "mjs", "cjs"].contains then
      sourceEndings.map base.withoutExtension.append
    else []
  let exact := if isFile tree base && Scan.isSource base then [base] else []
  firstFile? tree (sources ++ exact ++ endings.map base.append)

/-- What a package says about its entry. -/
structure Manifest where
  types : Option String
  typings : Option String
  main : Option String
deriving Inhabited

/-- The fields of a manifest. -/
def Manifest.fields : List (Json.Field Manifest) := [
  ⟨"types", do
    let types ← Json.expectOptionalText
    return fun manifest => { manifest with types }⟩,
  ⟨"typings", do
    let typings ← Json.expectOptionalText
    return fun manifest => { manifest with typings }⟩,
  ⟨"main", do
    let main ← Json.expectOptionalText
    return fun manifest => { manifest with main }⟩]

/-- The manifest that a text holds. -/
def Manifest.parse (text : String) : Except Json.Fault Manifest :=
  Json.readAll
    (Json.expectRecord "struct PackageManifest" (some "struct PackageManifest with 3 elements")
      Manifest.fields ⟨none, none, none⟩)
    text

/-- The entries that the manifest of a package names, the best first; none if there is no manifest
that can be read. -/
def entries (tree : FileTree) (folder : Path) : List String :=
  match read tree (folder.join "package.json") with
  | .error _ => []
  | .ok text =>
    match Manifest.parse text with
    | .error _ => []
    | .ok manifest => [manifest.types, manifest.typings, manifest.main].filterMap id

/-- The file that a folder stands for: the entry that its manifest names, or its index. -/
def folderFile? (tree : FileTree) (folder : Path) : Option Path :=
  let named := (entries tree folder).findSome? fun entry => file? tree (folder.join entry)
  named.or (firstFile? tree (endings.map (folder.join "index").append))

/-- The file that a path stands for, be it that of a file or of a folder. -/
def target? (tree : FileTree) (base : Path) : Option Path :=
  (file? tree base).or (if isFolder tree base then folderFile? tree base else none)

/-! ### Specifiers -/

/-- Whether a specifier is seen from the file that holds it. -/
def isRelative (specifier : String) : Bool :=
  specifier.startsWith "./" || specifier.startsWith "../" || specifier == "." || specifier == ".."

/-- The name of the package that declares the types of another package. -/
def typesName (specifier : String) : String :=
  let name := specifier.toList.dropWhile (· == '@')
  match name.dropWhile (· ≠ '/') with
  | [] => String.ofList name
  | _ :: rest => String.ofList (name.takeWhile (· ≠ '/') ++ ['_', '_'] ++ rest)

/-- The file of a package that is installed in a folder, itself or by its types. -/
def installed? (tree : FileTree) (specifier : String) (folder : Path) : Option Path :=
  let packages := folder.join "node_modules"
  (target? tree (packages.join specifier)).or
    (target? tree ((packages.join "@types").join (typesName specifier)))

/-- A folder and the folders above it; the number bounds them. -/
def ancestors : Nat → Path → List Path
  | 0, _ => []
  | bound + 1, folder =>
    match folder.parent? with
    | some above => if above.text.isEmpty then [folder] else folder :: ancestors bound above
    | none => [folder]

/-- The file that a specifier stands for in the file `source`. Packages are looked for in the folder
of the file and in all folders above it. -/
def resolve? (tree : FileTree) (source : Path) (specifier : String) : Option Path :=
  let folder := source.parent?.getD ⟨""⟩
  let found :=
    if isRelative specifier then target? tree (folder.join specifier)
    else if (Path.mk specifier).isAbsolute then target? tree ⟨specifier⟩
    else
      (ancestors (folder.components.length + 1) folder).findSome? (installed? tree specifier)
  found.map Path.normalize

end Phrasebook.Program.Imports
