import Phrasebook.Source.Spelling
import Phrasebook.Text.Lines

/-!
# Lexemes

Words, literals and marks of a script, with the comments in front of them. What a slash, a closing
brace or an angle bracket means depends on the grammar, so lexemes are read one at a time from a
`Cursor`, and the reader comes back to the same cursor for regular expressions, templates and
markup.

A comment belongs to the token behind it unless it trails the token before it on the same line; only
comments of the former kind are kept, as the `comment` of a lexeme.

- `Cursor`, `Lexeme`: a place in a script, and what is read there;
- `Cursor.lexeme`: the next lexeme;
- `Cursor.pattern?`, `Cursor.templatePart?`, `Cursor.markupText?`, `Cursor.markupWord?`,
  `Cursor.markupString?`: the readings that the grammar has to ask for.
-/

namespace Phrasebook.Source

open Text

/-- What the last token tells about a comment behind it. -/
inductive Preceding where
  /-- There is no token yet. -/
  | nothing
  /-- A binary operator: a comment on the same line does not trail it. -/
  | operator
  /-- A token that a block comment on the same line trails. -/
  | settled
  /-- Any other token: only a line comment trails it. -/
  | other
deriving Repr, DecidableEq, Inhabited

/-- What a comment behind `token` has before it. -/
def Token.preceding : Token → Preceding
  | .word id =>
    if isReserved id || id == "let" || id == "yield" || id == "await" then .other else .settled
  | .escapedWord _ | .privateWord _ | .text _ | .number | .bigNumber => .settled
  | .mark symbol =>
    if (precedence? symbol).isSome then .operator
    else if symbol == ";" || symbol == "\x7b" || symbol == "\x7d" then .settled
    else .other
  | .finish | .unreadable => .other

/-- A place in a script. -/
structure Cursor where
  /-- What is left to read. -/
  rest : List Char
  /-- The number of bytes already read. -/
  offset : Nat
  /-- The last token. -/
  preceding : Preceding
deriving Repr, Inhabited

/-- A token where it stands. -/
structure Lexeme where
  token : Token
  /-- The place of its first character. -/
  origin : Cursor
  /-- The place behind its last character. -/
  next : Cursor
  /-- Whether a line ends between the last token and this one. -/
  onNewLine : Bool
  /-- The comments that belong to it, joined by line feeds. -/
  comment : String
deriving Repr, Inhabited

namespace Lexeme

/-- The offset of the first byte. -/
def start (lexeme : Lexeme) : Nat := lexeme.origin.offset

/-- The offset behind the last byte. -/
def stop (lexeme : Lexeme) : Nat := lexeme.next.offset

end Lexeme

/-! ## Blanks and comments -/

/-- What lies between two tokens, as far as it is read. -/
structure Gap where
  offset : Nat
  /-- Whether a line has ended. -/
  newline : Bool
  /-- The comments for the next token, last one first. -/
  comments : List String
deriving Repr, Inhabited

namespace Gap

/-- What the characters at hand are part of. -/
inductive Mode where
  /-- Nothing. -/
  | blank
  /-- A comment up to the end of the line: its text backwards, and whether it is kept. -/
  | line (text : List Char) (kept : Bool)
  /-- A comment up to its closing mark: its text backwards, whether a line had ended before it,
  and whether one ends in it. -/
  | block (text : List Char) (newline inner : Bool)

/-- The gap after a comment that ends here. -/
def close (gap : Gap) (text : List Char) (kept : Bool) : Gap :=
  if kept then { gap with comments := String.ofList text.reverse :: gap.comments } else gap

/-- Whether a token has to stand in front of the gap for a mark in it to be one. -/
def atLineStart (preceding : Preceding) (gap : Gap) : Bool := gap.newline || preceding == .nothing

/-- Whether a line comment in the gap belongs to the next token. -/
def keepsLine (preceding : Preceding) (gap : Gap) : Bool :=
  gap.atLineStart preceding || preceding == .operator

/-- Whether a block comment with `rest` behind it belongs to the next token; `newline` says
whether a line had ended before it. -/
def keepsBlock (preceding : Preceding) (newline : Bool) (rest : List Char) : Bool :=
  newline || (preceding != .settled && (rest.dropWhile isBlank).head? != some ';')

/-- The gap with a line comment opened by a mark of `width` characters. -/
def openLine (preceding : Preceding) (gap : Gap) (width : Nat) : Mode × Gap :=
  (.line [] (gap.keepsLine preceding), { gap with offset := gap.offset + width })

/-- Read blanks and comments: the gap, and what follows it. The end of a comment in a page of
markup and the marks of an unfinished merge open line comments at the start of a line. -/
def read (preceding : Preceding) : Mode → Gap → List Char → Gap × List Char
  | .blank, gap, '/' :: '/' :: rest =>
    let (mode, gap) := gap.openLine preceding 2
    read preceding mode gap rest
  | .blank, gap, '/' :: '*' :: rest =>
    read preceding (.block [] gap.newline false) { gap with offset := gap.offset + 2 } rest
  | .blank, gap, '<' :: '!' :: '-' :: '-' :: rest =>
    let (mode, gap) := gap.openLine preceding 4
    read preceding mode gap rest
  | .blank, gap, '-' :: '-' :: '>' :: rest =>
    if gap.atLineStart preceding then
      let (mode, gap) := gap.openLine preceding 3
      read preceding mode gap rest
    else (gap, '-' :: '-' :: '>' :: rest)
  | .blank, gap, '<' :: '<' :: '<' :: '<' :: '<' :: '<' :: '<' :: ' ' :: rest =>
    if gap.atLineStart preceding then
      let (mode, gap) := gap.openLine preceding 7
      read preceding mode gap (' ' :: rest)
    else (gap, '<' :: '<' :: '<' :: '<' :: '<' :: '<' :: '<' :: ' ' :: rest)
  | .blank, gap, '>' :: '>' :: '>' :: '>' :: '>' :: '>' :: '>' :: ' ' :: rest =>
    if gap.atLineStart preceding then
      let (mode, gap) := gap.openLine preceding 7
      read preceding mode gap (' ' :: rest)
    else (gap, '>' :: '>' :: '>' :: '>' :: '>' :: '>' :: '>' :: ' ' :: rest)
  | .blank, gap, '=' :: '=' :: '=' :: '=' :: '=' :: '=' :: '=' :: rest =>
    if gap.atLineStart preceding then
      let (mode, gap) := gap.openLine preceding 7
      read preceding mode gap rest
    else (gap, '=' :: '=' :: '=' :: '=' :: '=' :: '=' :: '=' :: rest)
  | .blank, gap, c :: rest =>
    if isBlank c then
      read preceding .blank
        { gap with offset := gap.offset + c.utf8Size, newline := gap.newline || isLineEnd c } rest
    else (gap, c :: rest)
  | .blank, gap, [] => (gap, [])
  | .line text kept, gap, [] => (gap.close text kept, [])
  | .line text kept, gap, c :: rest =>
    if isLineEnd c then
      read preceding .blank
        { gap.close text kept with offset := gap.offset + c.utf8Size, newline := true } rest
    else
      read preceding (.line (c :: text) kept) { gap with offset := gap.offset + c.utf8Size } rest
  | .block text newline inner, gap, '*' :: '/' :: rest =>
    let closed := gap.close text (keepsBlock preceding newline rest)
    read preceding .blank
      { closed with offset := gap.offset + 2, newline := gap.newline || inner } rest
  | .block _ _ _, gap, [] => (gap, [])
  | .block text newline inner, gap, c :: rest =>
    read preceding (.block (c :: text) newline (inner || isLineEnd c))
      { gap with offset := gap.offset + c.utf8Size } rest

end Gap

/-! ## The next lexeme -/

/-- The token at the start of `chars`, its end and what follows. -/
def readToken (offset : Nat) (chars : List Char) : Token × Nat × List Char :=
  match chars with
  | [] => (.finish, offset, [])
  | c :: rest =>
    let refused := (Token.unreadable, offset + c.utf8Size, rest)
    if startsWord c then
      match readWord isNamePart ⟨[], false⟩ offset none chars with
      | some (word, stop, rest) => (word.token, stop, rest)
      | none => refused
    else if c.isDigit || (c == '.' && (rest.head?.any Char.isDigit)) then
      match readNumber chars with
      | some (token, count, rest) => (token, offset + count, rest)
      | none => refused
    else if c == '\x22' || c == '\x27' then
      match readString c [] (offset + 1) none rest with
      | some (units, stop, rest) => (.text (Literal.ofUnits units.reverse), stop, rest)
      | none => refused
    else if c == '#' then
      if rest.head?.any startsWord then
        match readWord isNamePart ⟨[], false⟩ (offset + 1) none rest with
        | some (word, stop, rest) => (.privateWord word.text, stop, rest)
        | none => refused
      else refused
    else
      match readMark chars with
      | some symbol =>
        (.mark symbol, offset + symbol.length, chars.drop symbol.length)
      | none => refused

namespace Cursor

/-- The place before a script. -/
def ofString (script : String) : Cursor := ⟨script.toList, 0, .nothing⟩

/-- The next lexeme. -/
def lexeme (cursor : Cursor) : Lexeme :=
  let (gap, rest) := Gap.read cursor.preceding .blank ⟨cursor.offset, false, []⟩ cursor.rest
  let (token, stop, after) := readToken gap.offset rest
  { token
    origin := ⟨rest, gap.offset, cursor.preceding⟩
    next := ⟨after, stop, token.preceding⟩
    onNewLine := gap.newline
    comment := "\n".intercalate gap.comments.reverse }

/-- The place behind `count` ASCII characters. -/
def skip (cursor : Cursor) (count : Nat) (preceding : Preceding) : Cursor :=
  ⟨cursor.rest.drop count, cursor.offset + count, preceding⟩

/-! ## Readings that depend on the grammar -/

/-- The place behind the regular expression at the cursor. -/
def pattern? (cursor : Cursor) : Option Cursor := do
  let (offset, rest) ← patternBody (cursor.offset + 1) false (cursor.rest.drop 1)
  let flags := if rest.head?.any isNameStart then rest.takeWhile isNamePart else []
  return ⟨rest.drop flags.length, offset + byteLength flags, .settled⟩

/-- The next part of a template, and the place behind it. -/
def templatePart? (cursor : Cursor) : Option (TemplatePart × Cursor) := do
  let part ← templateBody [] cursor.offset cursor.rest
  return (part, ⟨part.rest, part.stop, .other⟩)

/-- The place behind a run of text in markup. -/
def markupText? (cursor : Cursor) : Option Cursor := do
  let (offset, rest) ← markupBody cursor.offset cursor.rest
  return ⟨rest, offset, .settled⟩

/-- The name in markup at the cursor, where hyphens are letters, and the place behind it. -/
def markupWord? (cursor : Cursor) : Option (String × Cursor) := do
  guard (cursor.rest.head?.any startsWord)
  let (word, offset, rest) ←
    readWord (fun c => isNamePart c || c == '-') ⟨[], false⟩ cursor.offset none cursor.rest
  return (word.text, ⟨rest, offset, .other⟩)

/-- The place behind the string in markup at the cursor. -/
def markupString? (cursor : Cursor) : Option Cursor :=
  match cursor.rest with
  | c :: rest =>
    if c == '\x22' || c == '\x27' then do
      let (offset, rest) ← markupQuoted c (cursor.offset + 1) rest
      return ⟨rest, offset, .settled⟩
    else none
  | [] => none

end Cursor

end Phrasebook.Source
