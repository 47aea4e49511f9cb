import Phrasebook.Json.Value

/-!
# Writing JSON

- `Json.quote`: a string between quotes;
- `Json.compact`: a value without blanks;
- `Json.pretty`: a value with one item a line.
-/

namespace Phrasebook.Json

/-- The digit of a number below sixteen. -/
def hexDigit (value : Nat) : Char :=
  Char.ofNat (if value < 10 then '0'.toNat + value else 'a'.toNat + (value - 10))

/-- The written form of a character inside a string. Quotes, backslashes and control characters are
escaped; all others stand for themselves. -/
def escape (c : Char) : List Char :=
  if c = '"' then ['\\', '"']
  else if c = '\\' then ['\\', '\\']
  else if c = '\x08' then ['\\', 'b']
  else if c = '\x0c' then ['\\', 'f']
  else if c = '\n' then ['\\', 'n']
  else if c = '\r' then ['\\', 'r']
  else if c = '\t' then ['\\', 't']
  else if c.toNat < 0x20 then
    ['\\', 'u', '0', '0', hexDigit (c.toNat / 16), hexDigit (c.toNat % 16)]
  else [c]

/-- The written form of a string, with its quotes. -/
def quote (text : List Char) : List Char := '"' :: (text.flatMap escape ++ ['"'])

/-- Texts with commas between them. -/
def commas : List (List Char) → List Char
  | [] => []
  | [text] => text
  | text :: rest => text ++ ',' :: commas rest

/-- How the parts of a value are laid out. -/
structure Layout where
  /-- What stands before an item or a closing bracket at the given depth. -/
  breakAt : Nat → List Char
  /-- What stands between the name of a member and its value. -/
  colon : List Char

/-- No blanks at all. -/
def Layout.compact : Layout := ⟨fun _ => [], [':']⟩

/-- One item a line, indented by so many blanks for each level. -/
def Layout.lines (width : Nat) : Layout :=
  ⟨fun depth => '\n' :: List.replicate (depth * width) ' ', [':', ' ']⟩

/-- Written items between brackets; nothing stands between the brackets of an empty list. -/
def Layout.enclose (layout : Layout) (depth : Nat) (opening closing : Char)
    (items : List (List Char)) : List Char :=
  if items.isEmpty then [opening, closing]
  else
    opening :: (commas (items.map (layout.breakAt (depth + 1) ++ ·)) ++
      layout.breakAt depth ++ [closing])

mutual

/-- The written form of a value at the given depth. -/
def Layout.write (layout : Layout) (depth : Nat) : Value → List Char
  | .null => "null".toList
  | .bool true => "true".toList
  | .bool false => "false".toList
  | .number text => text.toList
  | .string text => quote text.toList
  | .array items => layout.enclose depth '[' ']' (layout.writeItems (depth + 1) items)
  | .object members => layout.enclose depth '\x7b' '\x7d' (layout.writeMembers (depth + 1) members)

/-- The written forms of items at the given depth. -/
def Layout.writeItems (layout : Layout) (depth : Nat) : List Value → List (List Char)
  | [] => []
  | item :: rest => layout.write depth item :: layout.writeItems depth rest

/-- The written forms of members at the given depth. -/
def Layout.writeMembers (layout : Layout) (depth : Nat) :
    List (String × Value) → List (List Char)
  | [] => []
  | (name, value) :: rest =>
    (quote name.toList ++ layout.colon ++ layout.write depth value) ::
      layout.writeMembers depth rest

end

/-- The value without blanks. -/
def compact (value : Value) : String := String.ofList (Layout.compact.write 0 value)

/-- The value with one item a line, indented by so many blanks for each level. -/
def pretty (width : Nat) (value : Value) : String :=
  String.ofList ((Layout.lines width).write 0 value)

end Phrasebook.Json
