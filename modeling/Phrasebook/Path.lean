/-!
# Paths

Slash separated paths, kept as they were written and read through their components.

- `Path`: the written form;
- `Path.components`: its meaning, with repeated slashes and inner `.` dropped;
- `Path.join`, `Path.parent?`, `Path.stripPrefix?`: paths from paths, the written form kept where
  possible;
- `Path.normalize`: the written form with `.` and `..` folded away;
- `Path.compare`: the order by components.
-/

namespace Phrasebook

/-- A path as it was written. -/
structure Path where
  text : String
deriving Repr, DecidableEq, Inhabited, Hashable

namespace Path

/-- What one part of a path says. -/
inductive Component where
  /-- A leading slash. -/
  | root
  /-- A leading `.`. -/
  | here
  /-- The directory above. -/
  | up
  /-- An entry of a directory. -/
  | name (text : String)
deriving Repr, DecidableEq, Inhabited

/-! ### Pieces -/

/-- The parts of `cs` between slashes; there is always at least one. -/
def pieces : List Char → List (List Char)
  | [] => [[]]
  | c :: rest =>
    if c = '/' then [] :: pieces rest
    else
      match pieces rest with
      | [] => [[c]]
      | piece :: others => (c :: piece) :: others

/-- Pieces with slashes between them. -/
def joinPieces : List (List Char) → List Char
  | [] => []
  | [piece] => piece
  | piece :: rest => piece ++ '/' :: joinPieces rest

/-- Whether a piece that does not lead a relative path says nothing. -/
def isBlank (piece : List Char) : Bool := piece.isEmpty || piece == ['.']

/-- What a piece that is not blank says. -/
def componentOf (piece : List Char) : Component :=
  if piece = ['.', '.'] then .up else .name (String.ofList piece)

/-- The written parts of a path: how it starts, and the pieces after that. -/
structure Parts where
  /-- `root` for a leading slash and `here` for a leading `.`. -/
  start : Option Component
  body : List (List Char)

/-- The parts of a path. -/
def parts (path : Path) : Parts :=
  match pieces path.text.toList with
  | [] :: second :: rest => ⟨some .root, second :: rest⟩
  | ['.'] :: rest => ⟨some .here, rest⟩
  | body => ⟨none, body⟩

/-- The path with the given parts. -/
def ofParts (written : Parts) : Path :=
  match written.start with
  | some .root => ⟨String.ofList ('/' :: joinPieces written.body)⟩
  | some .here => ⟨String.ofList (joinPieces (['.'] :: written.body))⟩
  | _ => ⟨String.ofList (joinPieces written.body)⟩

/-- The components of a path. -/
def components (path : Path) : List Component :=
  let written := path.parts
  written.start.toList ++
    (written.body.filter fun piece => !isBlank piece).map componentOf

/-- Whether the path starts at the root. -/
def isAbsolute (path : Path) : Bool := path.text.toList.head? == some '/'

/-! ### Paths from paths -/

/-- The place of `other` seen from `base`; an absolute `other` stands for itself. -/
def join (base : Path) (other : String) : Path :=
  if (Path.mk other).isAbsolute then ⟨other⟩
  else if base.text.isEmpty || base.text.toList.getLast? == some '/' then ⟨base.text ++ other⟩
  else ⟨base.text ++ "/" ++ other⟩

/-- The text of `suffix` written directly after the path. -/
def append (path : Path) (suffix : String) : Path := ⟨path.text ++ suffix⟩

/-- Pieces without the blank ones at the end. -/
def trimEnd (body : List (List Char)) : List (List Char) :=
  (body.reverse.dropWhile isBlank).reverse

/-- The path without its last component; none if there is only a root, or nothing. -/
def parent? (path : Path) : Option Path :=
  let written := path.parts
  match (trimEnd written.body).reverse, written.start with
  | _ :: others, start => some (ofParts ⟨start, trimEnd others.reverse⟩)
  | [], some .here => some ⟨""⟩
  | [], _ => none

/-- The last component, if it is a name. -/
def fileName? (path : Path) : Option String :=
  match path.components.getLast? with
  | some (.name text) => some text
  | _ => none

/-- The part of a name after its last dot, which is not the first character. -/
def extensionOf? (name : String) : Option String :=
  let reversed := name.toList.reverse
  let after := reversed.takeWhile (· ≠ '.')
  match reversed.drop after.length with
  | [] | ['.'] => none
  | _ => some (String.ofList after.reverse)

/-- The extension of the last component. -/
def extension? (path : Path) : Option String := path.fileName?.bind extensionOf?

/-- The path with its extension and the dot before it taken away. -/
def withoutExtension (path : Path) : Path :=
  match path.extension? with
  | none => path
  | some extension =>
    let written := path.parts
    match (trimEnd written.body).reverse with
    | [] => path
    | name :: others =>
      let bare := name.take (name.length - extension.length)
      let stem := if bare = ['.', '.'] then bare else bare.dropLast
      ofParts ⟨written.start, (stem :: others).reverse⟩

/-- Drop so many components from the start of the pieces, and the blank pieces after them. -/
def dropComponents : Nat → List (List Char) → List (List Char)
  | _, [] => []
  | count, piece :: rest =>
    if isBlank piece then dropComponents count rest
    else
      match count with
      | 0 => piece :: rest
      | count + 1 => dropComponents count rest

/-- The path seen from `base`, if it lies there. -/
def stripPrefix? (path base : Path) : Option Path :=
  let known := base.components
  if known.isPrefixOf path.components then
    let written := path.parts
    match known.length, written.start with
    | 0, start => some (ofParts ⟨start, trimEnd written.body⟩)
    | count + 1, some _ => some (ofParts ⟨none, trimEnd (dropComponents count written.body)⟩)
    | count, none => some (ofParts ⟨none, trimEnd (dropComponents count written.body)⟩)
  else none

/-- Whether `path` is `base` or lies below it. -/
def startsWith (path base : Path) : Bool := base.components.isPrefixOf path.components

/-- The path as it is shown: seen from `root` where it lies there, with forward slashes. -/
def display (path root : Path) : String :=
  let shown := (path.stripPrefix? root).getD path
  shown.text.map fun c => if c = '\\' then '/' else c

/-! ### Normal form -/

/-- The path made of the given components. -/
def ofComponents (components : List Component) : Path :=
  let piece : Component → List Char
    | .root => []
    | .here => ['.']
    | .up => ['.', '.']
    | .name text => text.toList
  match components with
  | .root :: rest => ⟨String.ofList ('/' :: joinPieces (rest.map piece))⟩
  | rest => ⟨String.ofList (joinPieces (rest.map piece))⟩

/-- Take one component further from the place reached by `trail`, whose last step comes first.
A step up undoes a name. -/
def follow (trail : List Component) : Component → List Component
  | .here => trail
  | .up =>
    match trail with
    | .name _ :: rest => rest
    | _ => .up :: trail
  | step => step :: trail

/-- The path without `.`, and without `..` after a name. -/
def normalize (path : Path) : Path :=
  ofComponents (path.components.foldl follow []).reverse

/-! ### Order -/

/-- The place of a kind of component in the order. -/
def Component.rank : Component → Nat
  | .root => 0
  | .here => 1
  | .up => 2
  | .name _ => 3

/-- The order of components: root, `.`, `..`, names by their characters. -/
def Component.compare : Component → Component → Ordering
  | .name a, .name b => Ord.compare a b
  | a, b => Ord.compare a.rank b.rank

/-- Lexicographic order of lists of components. -/
def compareAll : List Component → List Component → Ordering
  | [], [] => .eq
  | [], _ :: _ => .lt
  | _ :: _, [] => .gt
  | a :: as, b :: bs =>
    match a.compare b with
    | .eq => compareAll as bs
    | other => other

/-- The order of paths, by components. -/
def compare (a b : Path) : Ordering := compareAll a.components b.components

/-- Whether two paths have the same components. -/
def same (a b : Path) : Bool := a.components == b.components

end Path

end Phrasebook
