import Phrasebook.Json.Writer
import Phrasebook.OrderedMap

/-!
# Tables

The texts of one namespace in one language: keys and translations, in the order of their file.

- `Table`: an ordered map from keys to translations;
- `isPlaceholder`: whether an entry still waits for its translation;
- `Table.toJson`: the written form.
-/

namespace Phrasebook

/-- Keys and their translations. -/
abbrev Table := OrderedMap String String

/-- An entry waits for its translation while its value is its own key. -/
def isPlaceholder (key value : String) : Bool := key == value

namespace Table

/-- The table as a JSON value. -/
def toValue (table : Table) : Json.Value :=
  .object (table.entries.map fun (key, value) => (key, .string value))

/-- The table as a JSON object with one entry a line, indented by four blanks. -/
def toJson (table : Table) : List Char := (Json.Layout.lines 4).write 0 table.toValue

end Table

end Phrasebook
