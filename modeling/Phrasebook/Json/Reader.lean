import Phrasebook.Json.Fault
import Phrasebook.Text.Lines

/-!
# Reading JSON

The parts that every JSON text is made of, read from the front of a list of characters.

- `Json.Reading`: a step that reads something and leaves the rest, or fails at a place;
- `Json.readText`: a string;
- `Json.Numeral`, `Json.readNumeral`: a number;
- `Json.skipValue`: any value, unread.
-/

namespace Phrasebook.Json

/-- A step that reads from the front of a text. -/
abbrev Reading := StateT (List Char) (Except Fault)

/-! ### Places of failure -/

/-- Fail at the character that comes next, which belongs to the problem. -/
def refuseNext {α : Type} (problem : Problem) : Reading α := fun text =>
  .error ⟨problem, text, 1⟩

/-- Fail after what was read so far. -/
def refuse {α : Type} (problem : Problem) : Reading α := fun text => .error ⟨problem, text, 0⟩

/-! ### Single characters -/

/-- Whether `c` may stand between the parts of a text. -/
def isBlank (c : Char) : Bool := c = ' ' || c = '\n' || c = '\t' || c = '\r'

/-- The character that comes next. -/
def next? : Reading (Option Char) := do return (← get).head?

/-- The character that comes next after blanks, which are passed. -/
def nextVisible? : Reading (Option Char) := do
  modify (·.dropWhile isBlank)
  next?

/-- Pass one character. -/
def advance : Reading Unit := modify List.tail

/-- Pass the characters of a word whose first character is already known to come next. -/
def passWord : List Char → Reading Unit
  | [] => pure ()
  | c :: rest => do
    match ← next? with
    | none => refuse .endInValue
    | some found =>
      if found = c then
        advance
        passWord rest
      else refuseNext .expectedWord

/-! ### Strings -/

/-- The value of a hexadecimal digit. -/
def hexValue? (c : Char) : Option Nat :=
  if '0' ≤ c ∧ c ≤ '9' then some (c.toNat - '0'.toNat)
  else if 'a' ≤ c ∧ c ≤ 'f' then some (c.toNat - 'a'.toNat + 10)
  else if 'A' ≤ c ∧ c ≤ 'F' then some (c.toNat - 'A'.toNat + 10)
  else none

/-- The value of four hexadecimal digits at the front of a text, and what follows them. -/
def hexUnit (text : List Char) :
    Except Fault (Nat × { rest : List Char // rest.length < text.length }) :=
  match text with
  | a :: b :: c :: d :: rest =>
    match hexValue? a, hexValue? b, hexValue? c, hexValue? d with
    | some a', some b', some c', some d' =>
      .ok (((a' * 16 + b') * 16 + c') * 16 + d', ⟨rest, by simp only [List.length_cons]; omega⟩)
    | _, _, _, _ => .error ⟨.invalidEscape, text, 4⟩
  | short =>
    if Text.byteLength short < 4 then .error ⟨.endInString, [], 0⟩
    else .error ⟨.invalidEscape, short, 4⟩

/-- A character read from the front of `text`, and the shorter text after it. -/
abbrev Letter (text : List Char) := Char × { rest : List Char // rest.length < text.length }

/-- The character that a backslash and the given one stand for. -/
def simpleEscape? (c : Char) : Option Char :=
  match c with
  | '"' => some '"'
  | '\\' => some '\\'
  | '/' => some '/'
  | 'b' => some '\x08'
  | 'f' => some '\x0c'
  | 'n' => some '\n'
  | 'r' => some '\r'
  | 't' => some '\t'
  | _ => none

/-- The character that two halves of a surrogate pair stand for. -/
def joinSurrogates (high low : Nat) : Char :=
  Char.ofNat ((high - 0xD800) * 0x400 + (low - 0xDC00) + 0x10000)

/-- Read the second half of a surrogate pair, with its backslash and `u`. -/
def readLowSurrogate (high : Nat) (text : List Char) : Except Fault (Letter text) :=
  match text with
  | [] => .error ⟨.endInString, [], 0⟩
  | '\\' :: [] => .error ⟨.endInString, [], 0⟩
  | '\\' :: 'u' :: rest => do
    let (low, ⟨after, shorter⟩) ← hexUnit rest
    if low < 0xDC00 ∨ 0xDFFF < low then .error ⟨.loneSurrogate, after, 0⟩
    else
      return (joinSurrogates high low, ⟨after, by simp only [List.length_cons]; omega⟩)
  | '\\' :: rest => .error ⟨.unfinishedSurrogate, rest, 1⟩
  | other => .error ⟨.unfinishedSurrogate, other, 1⟩

/-- Read what follows a backslash. -/
def readEscape (text : List Char) : Except Fault (Letter text) :=
  match text with
  | [] => .error ⟨.endInString, [], 0⟩
  | 'u' :: rest => do
    let (unit, ⟨after, shorter⟩) ← hexUnit rest
    if 0xDC00 ≤ unit ∧ unit ≤ 0xDFFF then .error ⟨.loneSurrogate, after, 0⟩
    else if unit < 0xD800 ∨ 0xDBFF < unit then
      return (Char.ofNat unit, ⟨after, by simp only [List.length_cons]; omega⟩)
    else
      let (letter, ⟨final, shorter'⟩) ← readLowSurrogate unit after
      return (letter, ⟨final, by simp only [List.length_cons]; omega⟩)
  | c :: rest =>
    match simpleEscape? c with
    | some letter => .ok (letter, ⟨rest, by simp⟩)
    | none => .error ⟨.invalidEscape, c :: rest, 1⟩

/-- Read up to and with the closing quote. -/
def readLetters (text : List Char) : Except Fault (List Char × List Char) :=
  match text with
  | [] => .error ⟨.endInString, [], 0⟩
  | '"' :: rest => .ok ([], rest)
  | '\\' :: rest =>
    match readEscape rest with
    | .error fault => .error fault
    | .ok (letter, ⟨after, _⟩) => do
      let (letters, final) ← readLetters after
      return (letter :: letters, final)
  | c :: rest =>
    if c.toNat < 0x20 then .error ⟨.controlCharacter, c :: rest, 1⟩
    else do
      let (letters, final) ← readLetters rest
      return (c :: letters, final)
termination_by text.length
decreasing_by all_goals simp only [List.length_cons]; omega

/-- Read a string whose opening quote comes next. -/
def readText : Reading String := do
  advance
  let (letters, rest) ← readLetters (← get)
  set rest
  return String.ofList letters

/-! ### Numbers -/

/-- What a number says. -/
inductive Numeral where
  | natural (value : Nat)
  /-- Minus the given number, which is not zero. -/
  | negative (value : Nat)
  | decimal (value : Float)
deriving Inhabited

/-- The shape of a number. -/
def Numeral.shape : Numeral → Shape
  | .natural value => .integer value
  | .negative value => .integer (-value)
  | .decimal value => .decimal value

/-- The value of a decimal digit. -/
def digit? (c : Char) : Option Nat :=
  if '0' ≤ c ∧ c ≤ '9' then some (c.toNat - '0'.toNat) else none

/-- The digits at the front of a text, and what follows them. -/
def takeDigits : List Char → List Nat × List Char
  | [] => ([], [])
  | c :: rest =>
    match digit? c with
    | none => ([], c :: rest)
    | some value =>
      let (digits, after) := takeDigits rest
      (value :: digits, after)

/-- The largest machine word. -/
def wordLimit : Nat := UInt64.size - 1

/-- The value of as many digits as fit into a word after `start`, and how many were left over. -/
def significand (start : Nat) : List Nat → Nat × Nat
  | [] => (start, 0)
  | digit :: rest =>
    let value := start * 10 + digit
    if wordLimit < value then (start, rest.length + 1) else significand value rest

/-- Ten to a power, as a floating point number. -/
def power (exponent : Nat) : Float := Float.ofScientific 1 false exponent

/-- Divide by `10 ^ exponent`, in steps that stay finite; the first argument bounds them. -/
def divideByPower : Nat → Float → Nat → Float
  | 0, value, _ => value
  | steps + 1, value, exponent =>
    if exponent ≤ 308 then value / power exponent
    else if value == 0 then value
    else divideByPower steps (value / power 308) (exponent - 308)

/-- The number `value * 10 ^ exponent` in double precision; none if it is too large. -/
def scale? (value : Nat) (exponent : Int) : Option Float :=
  let base := value.toUInt64.toFloat
  if exponent < 0 then
    some (divideByPower (exponent.natAbs / 308 + 1) base exponent.natAbs)
  else if exponent ≤ 308 then
    let scaled := base * power exponent.toNat
    if scaled.isInf then none else some scaled
  else if value = 0 then some base
  else none

/-- The largest exponent that is computed with. -/
def exponentLimit : Nat := 0x7FFFFFFF

/-- A scaled number with its sign. -/
def scaled (isNegative : Bool) (value : Nat) (exponent : Int) : Reading Numeral :=
  match scale? value exponent with
  | none => refuse .numberTooLarge
  | some magnitude => return .decimal (if isNegative then -magnitude else magnitude)

/-- Read the digits of an exponent, one at a time as long as its value is computed with. -/
def readExponentDigits (value : Nat) : List Char → Option Nat × List Char
  | [] => (some value, [])
  | c :: rest =>
    match digit? c with
    | none => (some value, c :: rest)
    | some digit =>
      let next := value * 10 + digit
      if exponentLimit < next then (none, rest) else readExponentDigits next rest

/-- Read the digits of an exponent whose sign, if any, was passed. -/
def readExponentSize (isNegative down : Bool) (value : Nat) (exponent : Int) : Reading Numeral := do
  match ← next? with
  | none => refuse .endInValue
  | some c =>
    match digit? c with
    | none => refuseNext .invalidNumber
    | some first =>
      advance
      let (size?, rest) := readExponentDigits first (← get)
      set rest
      match size? with
      | some size => scaled isNegative value (if down then exponent - size else exponent + size)
      | none =>
        if value ≠ 0 ∧ ¬ down then refuse .numberTooLarge
        else
          set (takeDigits rest).2
          return .decimal (if isNegative then -0.0 else 0.0)

/-- Read the `e` that comes next and the exponent after it. -/
def readExponent (isNegative : Bool) (value : Nat) (exponent : Int) : Reading Numeral := do
  advance
  match ← next? with
  | some '+' =>
    advance
    readExponentSize isNegative false value exponent
  | some '-' =>
    advance
    readExponentSize isNegative true value exponent
  | _ => readExponentSize isNegative false value exponent

/-- Read what may follow the digits of a number: an exponent. -/
def readScale (isNegative : Bool) (value : Nat) (exponent : Int) : Reading Numeral := do
  match ← next? with
  | some 'e' | some 'E' => readExponent isNegative value exponent
  | _ => scaled isNegative value exponent

/-- Read the point that comes next, the digits after it, and an exponent. -/
def readFraction (isNegative : Bool) (value : Nat) (exponent : Int) : Reading Numeral := do
  advance
  let (digits, rest) := takeDigits (← get)
  set rest
  if digits.isEmpty then
    if rest.isEmpty then refuseNext .endInValue else refuseNext .invalidNumber
  else
    let (whole, left) := significand value digits
    readScale isNegative whole (exponent - (digits.length - left : Nat))

/-- Read a number whose sign, if any, was passed. -/
def readNumeral (isNegative : Bool) : Reading Numeral := do
  match takeDigits (← get) with
  | ([], []) => refuse .endInValue
  | ([], _) => refuseNext .invalidNumber
  | (0 :: _ :: _, _) =>
    advance
    refuseNext .invalidNumber
  | (digits, rest) =>
    set rest
    let (value, left) := significand 0 digits
    match rest with
    | '.' :: _ => readFraction isNegative value left
    | 'e' :: _ | 'E' :: _ => readExponent isNegative value left
    | _ =>
      if left ≠ 0 then scaled isNegative value left
      else if ¬ isNegative then return .natural value
      else if value = 0 ∨ 0x8000000000000000 < value then return .decimal (-value.toUInt64.toFloat)
      else return .negative value

/-- Read a number that comes next, with its sign. -/
def readSigned : Reading Numeral := do
  match ← next? with
  | some '-' =>
    advance
    readNumeral true
  | _ => readNumeral false

/-! ### Lists and objects -/

/-- Whether another item follows in a list whose bracket is open. -/
def hasItem (isFirst : Bool) : Reading Bool := do
  match ← nextVisible? with
  | none => refuseNext .endInList
  | some ']' => return false
  | some c =>
    if isFirst then return true
    else if c = ',' then
      advance
      match ← nextVisible? with
      | none => refuseNext .endInValue
      | some ']' => refuseNext .trailingComma
      | some _ => return true
    else refuseNext .expectedListEnd

/-- Whether another member follows in an object whose brace is open; its name comes next then. -/
def hasMember (isFirst : Bool) : Reading Bool := do
  match ← nextVisible? with
  | none => refuseNext .endInObject
  | some '\x7d' => return false
  | some c =>
    if isFirst then
      if c = '"' then return true else refuseNext .keyNotString
    else if c = ',' then
      advance
      match ← nextVisible? with
      | none => refuseNext .endInValue
      | some '"' => return true
      | some '\x7d' => refuseNext .trailingComma
      | some _ => refuseNext .keyNotString
    else refuseNext .expectedObjectEnd

/-- Pass the colon between a name and its value. -/
def passColon : Reading Unit := do
  match ← nextVisible? with
  | none => refuseNext .endInObject
  | some ':' => advance
  | some _ => refuseNext .expectedColon

/-- Pass the bracket that ends a list of known length. -/
def passListEnd : Reading Unit := do
  match ← nextVisible? with
  | none => refuseNext .endInList
  | some ']' => advance
  | some ',' =>
    advance
    match ← nextVisible? with
    | some ']' => refuseNext .trailingComma
    | _ => refuseNext .trailingCharacters
  | some _ => refuseNext .trailingCharacters

/-- Read the items of a list whose bracket is open, and the bracket that closes it. The number
bounds the items. -/
def readItems {α : Type} (item : Reading α) : Nat → Bool → Reading (List α)
  | 0, _ => refuse .expectedValue
  | bound + 1, isFirst => do
    if ← hasItem isFirst then
      let value ← item
      let rest ← readItems item bound false
      return value :: rest
    else
      advance
      return []

/-- Read the members of an object whose brace is open, and the brace that closes it. The number
bounds the members. -/
def readMembers {α : Type} (value : Reading α) : Nat → Bool → Reading (List (String × α))
  | 0, _ => refuse .expectedValue
  | bound + 1, isFirst => do
    if ← hasMember isFirst then
      let name ← readText
      passColon
      let found ← value
      let rest ← readMembers value bound false
      return (name, found) :: rest
    else
      advance
      return []

/-- A bound on the number of items in what is left of the text. -/
def itemBound : Reading Nat := do return (← get).length + 1

/-! ### Values that nobody asks for -/

/-- Pass the rest of a string; escapes are not decoded. -/
def skipLetters : List Char → Except Fault (List Char)
  | [] => .error ⟨.endInString, [], 0⟩
  | '"' :: rest => .ok rest
  | '\\' :: 'u' :: a :: b :: c :: d :: rest =>
    if (hexValue? a).isSome ∧ (hexValue? b).isSome ∧ (hexValue? c).isSome ∧
        (hexValue? d).isSome then
      skipLetters rest
    else .error ⟨.invalidEscape, a :: b :: c :: d :: rest, 4⟩
  | '\\' :: 'u' :: short =>
    if Text.byteLength short < 4 then .error ⟨.endInString, [], 0⟩
    else .error ⟨.invalidEscape, short, 4⟩
  | '\\' :: [] => .error ⟨.endInString, [], 0⟩
  | '\\' :: c :: rest =>
    if (simpleEscape? c).isSome then skipLetters rest
    else .error ⟨.invalidEscape, c :: rest, 1⟩
  | c :: rest =>
    if c.toNat < 0x20 then .error ⟨.controlCharacter, c :: rest, 0⟩ else skipLetters rest

/-- Pass a string whose opening quote comes next. -/
def skipText : Reading Unit := do
  advance
  set (← skipLetters (← get))

/-- Pass at least one digit. -/
def skipDigits (missing : Reading Unit) : Reading Unit := do
  let (digits, rest) := takeDigits (← get)
  if digits.isEmpty then missing else set rest

/-- Pass a number; its size does not matter. -/
def skipNumber : Reading Unit := do
  if (← next?) = some '-' then advance
  match takeDigits (← get) with
  | ([], []) => refuse .invalidNumber
  | ([], _) => refuseNext .invalidNumber
  | (0 :: _ :: _, _) =>
    advance
    refuseNext .invalidNumber
  | (_, rest) => set rest
  if (← next?) = some '.' then
    advance
    skipDigits (refuseNext .invalidNumber)
  match ← next? with
  | some 'e' | some 'E' =>
    advance
    match ← next? with
    | some '+' | some '-' => advance
    | _ => pure ()
    skipDigits (refuseNext .invalidNumber)
  | _ => pure ()

/-- Pass the items of a list, or the members of an object, after the opening bracket. -/
def skipItems (value : Reading Unit) (isObject : Bool) : Nat → Bool → Reading Unit
  | 0, _ => refuse .expectedValue
  | bound + 1, isFirst => do
    let closing := if isObject then '\x7d' else ']'
    match ← nextVisible? with
    | none => refuseNext (if isObject then .endInObject else .endInList)
    | some c =>
      if c = closing then advance
      else if !isFirst && c != ',' then
        refuseNext (if isObject then .expectedObjectEnd else .expectedListEnd)
      else
        if !isFirst then advance
        if isObject then
          match ← nextVisible? with
          | none => refuseNext .endInObject
          | some '"' => skipText
          | some _ => refuseNext .keyNotString
          passColon
        value
        skipItems value isObject bound false

/-- Pass any value; the number bounds its depth. -/
def skipValue : Nat → Reading Unit
  | 0 => refuse .expectedValue
  | depth + 1 => do
    match ← nextVisible? with
    | none => refuseNext .endInValue
    | some 'n' => passWord ['n', 'u', 'l', 'l']
    | some 't' => passWord ['t', 'r', 'u', 'e']
    | some 'f' => passWord ['f', 'a', 'l', 's', 'e']
    | some '"' => skipText
    | some '[' =>
      advance
      skipItems (skipValue depth) false (← itemBound) true
    | some '\x7b' =>
      advance
      skipItems (skipValue depth) true (← itemBound) true
    | some c => if c = '-' ∨ (digit? c).isSome then skipNumber else refuseNext .expectedValue

/-! ### Whole texts -/

/-- Read a whole text: what `reading` reads, and blanks. -/
def readAll {α : Type} (reading : Reading α) (text : String) : Except Fault α := do
  let step : Reading α := do
    let value ← reading
    match ← nextVisible? with
    | none => return value
    | some _ => refuseNext .trailingCharacters
  return (← step.run text.toList).1

end Phrasebook.Json
