import Phrasebook.Source.Token
import Phrasebook.Text.Letter

/-!
# Spelling

How words, strings, numbers and templates are spelled: readings of a list of characters that stop
where the word or literal ends. Offsets count bytes of UTF-8.

- `isLineEnd`, `isBlank`: the characters between tokens;
- `Escape`: an escape by hexadecimal digits that is being read;
- `readWord`, `readString`, `readNumber`, `readMark`: one token;
- `patternBody`, `templateBody`, `markupBody`, `markupQuoted`: what the grammar has to ask for.
-/

namespace Phrasebook.Source

open Text

/-! ## Characters -/

/-- Whether `c` ends a line. -/
def isLineEnd (c : Char) : Bool :=
  c == '\n' || c == '\r' || c == '\u2028' || c == '\u2029'

/-- Whether `c` separates tokens. -/
def isBlank (c : Char) : Bool :=
  isLineEnd c || c == ' ' || c == '\t' || c == '\x0b' || c == '\x0c' || c == '\u0085' ||
  c == '\u00a0' || c == '\ufeff' || c == '\u1680' || ('\u2000' ≤ c && c ≤ '\u200b') ||
  c == '\u202f' || c == '\u205f' || c == '\u3000'

/-- The value of a hexadecimal digit. -/
def hexDigit? (c : Char) : Option Nat :=
  if '0' ≤ c && c ≤ '9' then some (c.toNat - 48)
  else if 'a' ≤ c && c ≤ 'f' then some (c.toNat - 87)
  else if 'A' ≤ c && c ≤ 'F' then some (c.toNat - 55)
  else none

/-- The value of an octal digit. -/
def octalDigit? (c : Char) : Option Nat :=
  if '0' ≤ c && c ≤ '7' then some (c.toNat - 48) else none

/-- Whether `code` is half of a surrogate pair. -/
def isSurrogate (code : Nat) : Bool := Literal.isHighSurrogate code || Literal.isLowSurrogate code

/-! ## Escapes -/

/-- An escape by hexadecimal digits, as far as it is read. Low lines among the digits are
ignored. -/
inductive Escape where
  /-- One of a fixed number of digits: how many are missing behind the next one. -/
  | fixed (missing value : Nat)
  /-- One in braces: its value, once it has digits. -/
  | braced (value : Option Nat)
deriving Repr, DecidableEq, Inhabited

/-- What a character does to an escape. -/
inductive EscapeStep where
  /-- The escape goes on. -/
  | more (escape : Escape)
  /-- The escape ends with this character. -/
  | done (code : Nat)
  /-- The character cannot stand in the escape. -/
  | broken
deriving Repr, DecidableEq, Inhabited

/-- Read one character of an escape. Braces hold no surrogates. -/
def Escape.step (c : Char) : Escape → EscapeStep
  | .fixed missing value =>
    if c == '_' then .more (.fixed missing value)
    else
      match hexDigit? c, missing with
      | some digit, 0 => .done (value * 16 + digit)
      | some digit, missing + 1 => .more (.fixed missing (value * 16 + digit))
      | none, _ => .broken
  | .braced value =>
    if c == '_' then .more (.braced value)
    else if c == '\x7d' then
      match value with
      | some code => if isSurrogate code then .broken else .done code
      | none => .broken
    else
      match hexDigit? c with
      | some digit =>
        let longer := value.getD 0 * 16 + digit
        if longer ≤ 0x10FFFF then .more (.braced (some longer)) else .broken
      | none => .broken

/-! ## Words -/

/-- A word as it is spelled. -/
structure Spelling where
  /-- The characters, last one first. -/
  chars : List Char
  /-- Whether escapes spell some of them. -/
  escaped : Bool
deriving Repr, Inhabited

/-- The text of a word. -/
def Spelling.text (word : Spelling) : String := String.ofList word.chars.reverse

/-- Add a character that an escape spells. -/
def Spelling.addEscaped (word : Spelling) (code : Nat) : Spelling :=
  ⟨Char.ofNat code :: word.chars, true⟩

/-- Read the rest of a word, whose characters satisfy `isPart` unless they are escaped: the word,
the offset and what follows. -/
def readWord (isPart : Char → Bool) (word : Spelling) (offset : Nat) :
    Option Escape → List Char → Option (Spelling × Nat × List Char)
  | some escape, c :: rest =>
    match escape.step c with
    | .more escape => readWord isPart word (offset + 1) (some escape) rest
    | .done code =>
      if isSurrogate code then none
      else readWord isPart (word.addEscaped code) (offset + 1) none rest
    | .broken => none
  | some _, [] => none
  | none, '\\' :: 'u' :: '\x7b' :: rest =>
    readWord isPart word (offset + 3) (some (.braced none)) rest
  | none, '\\' :: 'u' :: rest => readWord isPart word (offset + 2) (some (.fixed 3 0)) rest
  | none, c :: rest =>
    if isPart c then
      readWord isPart { word with chars := c :: word.chars } (offset + c.utf8Size) none rest
    else if c == '\\' then none
    else some (word, offset, c :: rest)
  | none, [] => some (word, offset, [])

/-- The token of a word. A keyword cannot be spelled with escapes. -/
def Spelling.token (word : Spelling) : Token :=
  if !word.escaped then .word word.text
  else if isRestricted word.text then .unreadable
  else .escapedWord word.text

/-- Whether a word can start with `c`. -/
def startsWord (c : Char) : Bool := isNameStart c || c == '\\'

/-! ## Strings -/

/-- The code point of a one-letter escape. -/
def simpleEscape (c : Char) : Nat :=
  match c with
  | 'n' => 10
  | 't' => 9
  | 'r' => 13
  | 'b' => 8
  | 'f' => 12
  | 'v' => 11
  | c => c.toNat

/-- Read the rest of a string literal: its units backwards, the offset and what follows. A line
that ends before the closing quote ends the literal. -/
def readString (quote : Char) (units : List Nat) (offset : Nat) :
    Option Escape → List Char → Option (List Nat × Nat × List Char)
  | some escape, c :: rest =>
    match escape.step c with
    | .more escape => readString quote units (offset + 1) (some escape) rest
    | .done code => readString quote (code :: units) (offset + 1) none rest
    | .broken => none
  | some _, [] => none
  | none, '\\' :: 'x' :: rest => readString quote units (offset + 2) (some (.fixed 1 0)) rest
  | none, '\\' :: 'u' :: '\x7b' :: rest =>
    readString quote units (offset + 3) (some (.braced none)) rest
  | none, '\\' :: 'u' :: rest => readString quote units (offset + 2) (some (.fixed 3 0)) rest
  | none, '\\' :: '\r' :: '\n' :: rest => readString quote units (offset + 3) none rest
  | none, '\\' :: a :: b :: c :: rest =>
    if isLineEnd a then readString quote units (offset + 1 + a.utf8Size) none (b :: c :: rest)
    else
      match octalDigit? a, octalDigit? b, octalDigit? c with
      | some x, some y, some z =>
        if x < 4 then readString quote ((x * 64 + y * 8 + z) :: units) (offset + 4) none rest
        else readString quote ((x * 8 + y) :: units) (offset + 3) none (c :: rest)
      | some x, some y, none =>
        readString quote ((x * 8 + y) :: units) (offset + 3) none (c :: rest)
      | some x, none, _ => readString quote (x :: units) (offset + 2) none (b :: c :: rest)
      | none, _, _ =>
        readString quote (simpleEscape a :: units) (offset + 1 + a.utf8Size) none (b :: c :: rest)
  | none, '\\' :: a :: rest =>
    if isLineEnd a then readString quote units (offset + 1 + a.utf8Size) none rest
    else
      match octalDigit? a with
      | some x => readString quote (x :: units) (offset + 2) none rest
      | none => readString quote (simpleEscape a :: units) (offset + 1 + a.utf8Size) none rest
  | none, ['\\'] => none
  | none, c :: rest =>
    if c == quote then some (units, offset + 1, rest)
    else if c == '\n' || c == '\r' then some (units, offset, c :: rest)
    else readString quote (c.toNat :: units) (offset + c.utf8Size) none rest
  | none, [] => some (units, offset, [])

/-! ## Numbers -/

/-- The leading characters in a class of ASCII characters, and what follows them. -/
def spanDigits (p : Char → Bool) (chars : List Char) : List Char × List Char :=
  chars.span fun c => p c || c == '_'

/-- Whether a run of digits and separators holds a digit. -/
def holdsDigit (digits : List Char) : Bool := digits.any fun c => c != '_'

/-- Read the digits of a number after a base mark. -/
def readBased (digit : Char → Bool) (chars : List Char) : Option (Token × Nat × List Char) :=
  let (digits, rest) := spanDigits digit chars
  if holdsDigit digits then
    match rest with
    | 'n' :: rest => some (.bigNumber, digits.length + 3, rest)
    | rest => some (.number, digits.length + 2, rest)
  else none

/-- Read the exponent of a number, if there is one. -/
def readExponent (count : Nat) (chars : List Char) : Option (Token × Nat × List Char) :=
  match chars with
  | e :: rest =>
    if e == 'e' || e == 'E' then
      let (sign, rest) :=
        match rest with
        | c :: tail => if c == '+' || c == '-' then (1, tail) else (0, rest)
        | [] => (0, rest)
      let (digits, rest) := spanDigits Char.isDigit rest
      if holdsDigit digits then some (.number, count + 1 + sign + digits.length, rest) else none
    else some (.number, count, e :: rest)
  | [] => some (.number, count, [])

/-- Whether a run of digits is an octal number: it starts with a zero, goes on, and has no digit
above seven. -/
def isOctal (digits : List Char) : Bool :=
  digits.head? == some '0' && digits.length > 1 && digits.all fun c => c != '8' && c != '9'

/-- Read a decimal number. An octal number ends with its digits. -/
def readDecimal (chars : List Char) : Option (Token × Nat × List Char) :=
  let (digits, rest) := spanDigits Char.isDigit chars
  let padded := digits.head? == some '0' && digits.length > 1
  match rest with
  | 'n' :: rest => if padded then none else some (.bigNumber, digits.length + 1, rest)
  | '.' :: fraction =>
    if isOctal digits then some (.number, digits.length, rest)
    else
      let (decimals, rest) := spanDigits Char.isDigit fraction
      readExponent (digits.length + 1 + decimals.length) rest
  | rest =>
    if isOctal digits then some (.number, digits.length, rest)
    else readExponent digits.length rest

/-- Whether a name that starts with `c` cannot follow a number directly. -/
def clashesWithNumber (c : Char) : Bool := c.isAlpha || c == '_' || c == '$'

/-- Read a number: the token, its length and what follows. -/
def readNumber (chars : List Char) : Option (Token × Nat × List Char) :=
  let number :=
    match chars with
    | '0' :: c :: rest =>
      if c == 'x' || c == 'X' then readBased (fun d => (hexDigit? d).isSome) rest
      else if c == 'o' || c == 'O' then readBased (fun d => (octalDigit? d).isSome) rest
      else if c == 'b' || c == 'B' then readBased (fun d => d == '0' || d == '1') rest
      else readDecimal chars
    | _ => readDecimal chars
  match number with
  | some (.number, count, rest) =>
    if rest.head?.any clashesWithNumber then none else some (.number, count, rest)
  | number => number

/-! ## Marks -/

/-- The punctuator at the start of `chars`. -/
def readMark (chars : List Char) : Option String :=
  marks.find? fun symbol => symbol.toList.isPrefixOf chars

/-- The operator that starts with the angle bracket at the start of `chars`. -/
def readAngleOperator (chars : List Char) : Option String :=
  angleOperators.find? fun symbol => symbol.toList.isPrefixOf chars

/-! ## Readings that depend on the grammar -/

/-- Read the rest of a regular expression behind its opening slash; `inClass` says whether a
bracketed class is open. -/
def patternBody (offset : Nat) : Bool → List Char → Option (Nat × List Char)
  | inClass, '\\' :: c :: rest =>
    if c == '\n' || c == '\r' then none else patternBody (offset + 1 + c.utf8Size) inClass rest
  | inClass, c :: rest =>
    if c == '\n' || c == '\r' then none
    else if c == '/' && !inClass then some (offset + 1, rest)
    else
      patternBody (offset + c.utf8Size)
        (if c == '[' then true else if c == ']' then false else inClass) rest
  | _, [] => none

/-- What a part of a template is. -/
structure TemplatePart where
  /-- The characters as they are spelled, last one first. -/
  chars : List Char
  /-- Whether the template ends behind it, and not a placeholder begins. -/
  ended : Bool
  /-- The offset behind it. -/
  stop : Nat
  /-- What follows it. -/
  rest : List Char
deriving Repr, Inhabited

/-- Read the characters of a template up to its end or up to a placeholder. -/
def templateBody (chars : List Char) (offset : Nat) : List Char → Option TemplatePart
  | '\\' :: c :: rest => templateBody (c :: '\\' :: chars) (offset + 1 + c.utf8Size) rest
  | '$' :: '\x7b' :: rest => some ⟨chars, false, offset + 2, rest⟩
  | c :: rest =>
    if c == '\x60' then some ⟨chars, true, offset + 1, rest⟩
    else templateBody (c :: chars) (offset + c.utf8Size) rest
  | [] => none

/-- Whether all escapes in the characters of a template are well formed, and none is octal. -/
def validEscapes : Option Escape → List Char → Bool
  | some escape, c :: rest =>
    match escape.step c with
    | .more escape => validEscapes (some escape) rest
    | .done _ => validEscapes none rest
    | .broken => false
  | some _, [] => false
  | none, '\\' :: 'x' :: rest => validEscapes (some (.fixed 1 0)) rest
  | none, '\\' :: 'u' :: '\x7b' :: rest => validEscapes (some (.braced none)) rest
  | none, '\\' :: 'u' :: rest => validEscapes (some (.fixed 3 0)) rest
  | none, '\\' :: '0' :: rest =>
    !(rest.head?.any fun c => (octalDigit? c).isSome) && validEscapes none rest
  | none, '\\' :: c :: rest => (octalDigit? c).isNone && validEscapes none rest
  | none, _ :: rest => validEscapes none rest
  | none, [] => true

/-- Whether all escapes of a part of a template are well formed. -/
def TemplatePart.isValid (part : TemplatePart) : Bool := validEscapes none part.chars.reverse

/-- Read a run of text in markup up to the brace or bracket that ends it. -/
def markupBody (offset : Nat) : List Char → Option (Nat × List Char)
  | c :: rest =>
    if c == '\x7b' || c == '<' then some (offset, c :: rest)
    else markupBody (offset + c.utf8Size) rest
  | [] => none

/-- Read the rest of a string in markup, which knows no escapes. -/
def markupQuoted (quote : Char) (offset : Nat) : List Char → Option (Nat × List Char)
  | c :: rest =>
    if c == quote then some (offset + 1, rest)
    else markupQuoted quote (offset + c.utf8Size) rest
  | [] => none

end Phrasebook.Source
