import Phrasebook.Json.Parse
import Phrasebook.Table
import Phrasebook.Text.Blank
import Phrasebook.Text.Lines
import Phrasebook.Text.Search

/-!
# Table files

A table file is a table, written as JSON, inside text that is kept as it is:

```text
/** I18NTABLESYMBOL */
export default {
    "Hello": "Bonjour"
}; /** I18NTABLEEND */
```

The table runs from the first brace after the start marker, or after the start of the file if there
is no such marker, to the last brace before the end marker.

- `TableFile`: the table and the text around it;
- `TableFile.parse`, `TableFile.render`: from and to text;
- `TableFile.scaffold`: the file of a new table;
- `TableFile.keyLine?`: the line of a key.
-/

namespace Phrasebook

/-- A table and the text around it. -/
structure TableFile where
  before : List Char
  /-- The table as it was read. -/
  region : List Char
  after : List Char
  table : Table

/-- Why a text is no table file. -/
inductive TableFault where
  | missingEnd
  | missingOpening
  | missingClosing
  /-- The region is no JSON. -/
  | json (fault : Json.Fault) (region : List Char)
  | notObject
  | notText (key : String)

namespace TableFile

/-- The word that marks where the table may start. -/
def startWord : String := "I18NTABLESYMBOL"

/-- The word that marks where the table has ended. -/
def endWord : String := "I18NTABLEEND"

end TableFile

/-- The words for a fault. -/
def TableFault.message : TableFault → String
  | .missingEnd => "missing " ++ TableFile.endWord ++ " marker"
  | .missingOpening => "no table literal before " ++ TableFile.endWord
  | .missingClosing => "unterminated table literal"
  | .json fault region => inRegion (fault.message region)
  | .notObject => inRegion "table region is not an object"
  | .notText key => inRegion ("value of \"" ++ key ++ "\" is not a string")
where
  /-- The words for a fault inside the region. -/
  inRegion (cause : String) : String :=
    "table region is not a valid JSON object of strings: " ++ cause

/-- The entries of members whose values are all strings; otherwise the name of the first member
whose value is none. -/
def Table.entriesOf : List (String × Json.Value) → Except TableFault (List (String × String))
  | [] => .ok []
  | (key, .string value) :: rest => do return (key, value) :: (← Table.entriesOf rest)
  | (key, _) :: _ => .error (.notText key)

/-- The table that a JSON text holds. -/
def Table.parse (region : List Char) : Except TableFault Table :=
  match Json.parse (String.ofList region) with
  | .error fault => .error (.json fault region)
  | .ok (.object members) => do return OrderedMap.ofList (← Table.entriesOf members)
  | .ok _ => .error .notObject

namespace TableFile

/-- What stands before the table can start, and what follows up to the end marker. -/
def splitAtStart (text : List Char) : List Char × List Char :=
  match Text.splitAtWord? startWord.toList text with
  | some (before, after) => (before ++ startWord.toList, after)
  | none => ([], text)

/-- Read a table file. -/
def parse (text : String) : Except TableFault TableFile := do
  let some (head, tail) := Text.splitAtWord? endWord.toList text.toList | .error .missingEnd
  let (lead, body) := splitAtStart head
  let some (gap, rest) := Text.splitAtWord? ['\x7b'] body | .error .missingOpening
  let some (inner, trail) := Text.splitAtLast? '\x7d' rest | .error .missingClosing
  let region := '\x7b' :: (inner ++ ['\x7d'])
  let table ← Table.parse region
  return ⟨lead ++ gap, region, trail ++ endWord.toList ++ tail, table⟩

/-- The file of a new table. -/
def scaffold : TableFile where
  before := ("/* eslint-disable */\n\n/** " ++ startWord ++ " */\nexport default ").toList
  region := ['\x7b', '\x7d']
  after := ("; /** " ++ endWord ++ " */\n").toList
  table := .empty

/-- The text of the file with `table` in place of its own. -/
def renderWith (file : TableFile) (table : Table) : String :=
  String.ofList (file.before ++ table.toJson ++ file.after)

/-- The text of the file. -/
def render (file : TableFile) : String := file.renderWith file.table

/-! ### Lines of keys -/

/-- The rest of a written string, with its closing quote, and what follows it. -/
def takeString : List Char → List Char × List Char
  | [] => ([], [])
  | '"' :: rest => (['"'], rest)
  | '\\' :: c :: rest =>
    let (inside, after) := takeString rest
    ('\\' :: c :: inside, after)
  | c :: rest =>
    let (inside, after) := takeString rest
    (c :: inside, after)

theorem length_takeString (text : List Char) : (takeString text).2.length ≤ text.length := by
  fun_induction takeString text <;> simp_all <;> omega

/-- Whether a colon comes next, after blanks of any kind. -/
def colonFollows (text : List Char) : Bool := (text.dropWhile Text.isBlank).head? == some ':'

/-- The offset of the first written name in a JSON text that reads as `key`. The text starts at the
given offset. -/
def keyOffset? (key : String) (offset : Nat) (text : List Char) : Option Nat :=
  match text with
  | [] => none
  | c :: rest =>
    if c = '"' then
      let token := takeString rest
      if colonFollows token.2 &&
          (Json.parseText (String.ofList ('"' :: token.1))).toOption == some key then
        some offset
      else keyOffset? key (offset + 1 + Text.byteLength token.1) token.2
    else keyOffset? key (offset + c.utf8Size) rest
termination_by text.length
decreasing_by
  · have h := length_takeString rest
    simp only [List.length_cons]
    omega
  · simp

/-- The line of `key` in the text that was read. -/
def keyLine? (file : TableFile) (key : String) : Option Nat :=
  let text := String.ofList (file.before ++ file.region ++ file.after)
  (keyOffset? key (Text.byteLength file.before) file.region).map
    (Text.lineAt (Text.lineStarts text).toArray)

end TableFile

end Phrasebook
