import Phrasebook.Files.Tree
import Phrasebook.Glob

/-!
# Paths that fit a pattern

A pattern is matched component by component against a file tree.

- `Scan.Pattern`: the patterns of the components;
- `Scan.Pattern.expand`: the paths that fit.
-/

namespace Phrasebook.Scan

/-- The patterns of the components of a path, and where to start. -/
structure Pattern where
  start : Path
  components : List Glob
  /-- A slash at the end asks for folders. -/
  foldersOnly : Bool

namespace Pattern

/-- Read a pattern. Besides its components it has to be well formed as a whole. -/
def parse (text : String) : Except Glob.Fault Pattern := do
  let _ ← Glob.parse text
  let isAbsolute := (Path.mk text).isAbsolute
  let pieces := Path.pieces (text.toList.drop (if isAbsolute then 1 else 0))
  let foldersOnly := text.toList.getLast? == some '/'
  let components := if foldersOnly then pieces.dropLast else pieces
  return {
    start := ⟨if isAbsolute then "/" else "."⟩
    components := ← components.mapM fun piece => Glob.parse (String.ofList piece)
    foldersOnly }

/-- The place of `name` seen from `path`; nothing is written for the current folder. -/
def step (path : Path) (name : String) : Path :=
  if path = ⟨"."⟩ then ⟨name⟩ else path.join name

/-- Patterns without the recursive ones at the start. -/
def dropRecursive : List Glob → List Glob := List.dropWhile Glob.isRecursive

mutual

/-- The paths below `path` that fit the patterns. The number bounds the steps. -/
def below (tree : FileTree) (foldersOnly : Bool) : Nat → List Glob → Path → List Path
  | 0, _, _ | _, [], _ => []
  | steps + 1, glob :: rest, path =>
    let accept (next : Path) : List Path :=
      if rest.isEmpty then if foldersOnly && !tree.isFolder next then [] else [next]
      else below tree foldersOnly steps rest next
    match glob.literal? with
    | some name =>
      let isDots := name = "." || name = ".."
      let next := step path name
      if if isDots then tree.isFolder path else tree.has next then accept next else []
    | none =>
      if tree.isFolder path then
        let names := ((tree.names path).toOption.getD []).mergeSort fun a b => a ≤ b
        let dots :=
          if glob.tokens.head? = some (.letter '.') then
            [".", ".."].filter glob.matchesText
          else []
        (dots.reverse.map fun name => accept (path.join name)).flatten ++
          (names.map fun name =>
            visit tree foldersOnly steps (glob :: rest) (step path name)).flatten
      else []

/-- `path` itself, if it fits the first pattern, and what lies below it and fits the others. -/
def visit (tree : FileTree) (foldersOnly : Bool) : Nat → List Glob → Path → List Path
  | 0, _, _ | _, [], _ => []
  | steps + 1, glob :: rest, path =>
    let direct (patterns : List Glob) : List Path :=
      match patterns with
      | [] => []
      | glob :: rest =>
        if path.fileName?.any glob.matchesText then
          if rest.isEmpty then if foldersOnly && !tree.isFolder path then [] else [path]
          else below tree foldersOnly steps rest path
        else []
    if glob.isRecursive then
      let rest := dropRecursive rest
      let deeper :=
        if tree.isFolder path then below tree foldersOnly steps (glob :: rest) path else []
      if rest.isEmpty then if tree.isFolder path then path :: deeper else []
      else direct rest ++ deeper
    else direct (glob :: rest)

end

/-- The paths that fit the pattern. -/
def expand (pattern : Pattern) (tree : FileTree) : List Path :=
  let steps := 2 * (tree.entries.size + pattern.components.length + 1)
  below tree pattern.foldersOnly steps pattern.components pattern.start

end Pattern

end Phrasebook.Scan
