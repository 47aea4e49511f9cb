import Phrasebook.Path
import Phrasebook.Source.Grammar.Markup
import Phrasebook.Source.Grammar.Module

/-!
# Scripts

- `Grammar.rules`: the grammar, to a given depth of nesting;
- `Script`: a source file as read: its text and its items;
- `Script.body`: the text that its items are read from;
- `Script.read?`: reading a source file.
-/

namespace Phrasebook.Source

namespace Grammar

/-- The grammar for constructs that are nested at most `depth` deep. -/
def rules : Nat → Rules
  | 0 => Rules.exhausted
  | depth + 1 =>
    { assignment := fun context state => assignment (rules depth) context state
      unary := fun context state => unary (rules depth) context state
      operators := fun left bound context state =>
        operators (rules depth) left bound context state
      member := fun context state => member (rules depth) context state
      operand := fun context state => operand (rules depth) context state
      statement := fun inBlock context state => statement (rules depth) inBlock context state
      item := fun context state => item (rules depth) context state
      pattern := fun context state => pattern (rules depth) context state
      parameters := fun context state => parameters (rules depth) context state
      type := fun conditional context state => type (rules depth) conditional context state
      element := fun context state => element (rules depth) context state }

/-- All items up to the end of a script. -/
def items (rules : Rules) : Reader (List Item) := do
  let items ← Reader.repeatedUntil Reader.atFinish rules.item
  Reader.require (← Reader.atFinish)
  return items

end Grammar

/-- Whether a text starts with a byte order mark, and the text without it. -/
def cutMark (text : String) : Bool × String :=
  match text.toList with
  | '\ufeff' :: rest => (true, String.ofList rest)
  | _ => (false, text)

/-- A source file as read. -/
structure Script where
  /-- The text without a byte order mark. -/
  text : String
  /-- Whether the file starts with a byte order mark. -/
  hasMark : Bool
  items : List Item
deriving Repr, Inhabited

namespace Script

/-- The language of a file with the given name. -/
def dialect (path : String) : Dialect where
  markup := (Path.mk path).extension?.any fun extension => extension == "tsx" || extension == "jsx"
  ambient := path.endsWith ".d.ts"

/-- The place behind a first line that names an interpreter. -/
def skipInterpreter (cursor : Cursor) : Cursor :=
  match cursor.rest with
  | '#' :: '!' :: rest =>
    let line := rest.takeWhile fun c => !isLineEnd c
    ⟨rest.dropWhile fun c => !isLineEnd c, (String.ofList line).utf8ByteSize + 2, .nothing⟩
  | _ => cursor

/-- A depth of nesting that no script of `size` bytes exceeds: between two bytes lie fewer than
sixteen steps into the grammar. -/
def depthBound (size : Nat) : Nat := 16 * (size + 1)

/-- Read the items of a script without a byte order mark. -/
def readItems? (dialect : Dialect) (text : String) : Option (List Item) :=
  let place := skipInterpreter (Cursor.ofString text)
  let limit := text.utf8ByteSize
  let context : Context := { ambient := dialect.ambient }
  (Grammar.items (Grammar.rules (depthBound limit)) context
    { place, current := place.lexeme, limit, dialect }).1

/-- The text that the items are read from; the offsets in them count its bytes. It is the text, but
reading drops a byte order mark on its own, so another one that follows the first is lost here. -/
def body (script : Script) : String := (cutMark script.text).2

/-- Read a source file. Scripts that are not understood are refused. -/
def read? (path content : String) : Option Script := do
  let (hasMark, text) := cutMark content
  return { text, hasMark, items := ← readItems? (dialect path) (cutMark text).2 }

/-- The nodes of a script, item by item. -/
def nodes (script : Script) : List Node := script.items.flatMap Item.nodes

end Script

end Phrasebook.Source
