import Phrasebook.Text.Picture

/-!
# Width of texts

The number of terminal columns that a text takes. A text is as wide as its characters, except that a
line break counts once and that some characters are shown together: pictures that are joined, flags,
and letters that scripts join to one. A text is read backwards, so that what stands behind a
character decides how that character is shown.

- `Sign`, `Behind`: what stands behind a character;
- `measure`: the columns that a character adds in front of what stands behind it;
- `width`: the number of columns of a text.
-/

namespace Phrasebook.Text

/-! ## Signs -/

/-- The letters that may be one with letters in front of them. -/
inductive Ligature where
  /-- An Arabic alef, which is one with a lam. -/
  | alef
  /-- A Hebrew lamed; a joined one is one with an alef. -/
  | lamed (isJoined : Bool)
  /-- A Khmer letter that a coeng can put below the letter before. -/
  | subjoined
  /-- The Buginese letter ya. -/
  | ya (isJoined : Bool)
  /-- The Buginese letter ya behind a vowel sign, with which it is one with an a. -/
  | yaBehindSign
  /-- A Tifinagh consonant; a joined one is one with another consonant. -/
  | consonant (isJoined : Bool)
  /-- A Tifinagh consonant behind a joiner of its own. -/
  | consonantBehindJoiner
  /-- A Lisu tone letter that is one with another tone letter. -/
  | tone
  /-- The Old Turkic letter i; a joined one is one with an ec. -/
  | orkhonI (isJoined : Bool)
  /-- The Kirat Rai vowel sign e. -/
  | vowelE
  /-- The Kirat Rai vowel sign ai. -/
  | vowelAi
deriving Repr, DecidableEq, Inhabited

/-- The end of a picture that the joiner before it joins on to another one. -/
inductive JoinedEnd where
  /-- The joiner stands in front of it. -/
  | whole
  /-- A keycap. -/
  | keycap
  /-- One letter of a flag. -/
  | indicator
  /-- An even number of letters of flags. -/
  | indicatorPairs
  /-- An odd number of letters of flags. -/
  | unpairedIndicators
  /-- The tags at the end of a flag: so many letters, and digits in front of them. -/
  | tags (letters digits : Nat)
deriving Repr, DecidableEq, Inhabited

/-- What stands behind a character. -/
inductive Sign where
  | plain
  | lineFeed
  /-- A modifier that sets the colour of a picture. -/
  | modifier
  /-- One letter of a flag. -/
  | indicator
  /-- Several letters of flags. -/
  | indicators
  | picture
  | joined (part : JoinedEnd)
  | ligature (letter : Ligature)
deriving Repr, DecidableEq, Inhabited

/-- What stands behind a character, and the selectors in front of that. -/
structure Behind where
  sign : Sign
  /-- Whether a selector asks for a picture. -/
  asPicture : Bool := false
  /-- Whether a selector asks for a text. -/
  asText : Bool := false
deriving Repr, DecidableEq, Inhabited

namespace Behind

/-- What stands behind the last character. -/
def nothing : Behind := { sign := .plain }

/-- A selector for a picture stands in front. -/
def beforePictureSelector (behind : Behind) : Behind :=
  match behind.sign with
  | .ligature _ | .joined .whole | .joined .keycap => { behind with asPicture := true }
  | _ => { sign := .plain, asPicture := true }

/-- A selector for a text stands in front. -/
def beforeTextSelector (behind : Behind) : Behind :=
  match behind.sign with
  | .ligature _ => { behind with asText := true }
  | _ => { sign := .plain, asText := true }

/-- What stands behind a character that has no picture for the selector to ask for. -/
def withoutPicture (behind : Behind) : Behind :=
  if behind.asPicture then
    match behind.sign with
    | .ligature _ => { behind with asPicture := false }
    | _ => nothing
  else behind

/-- Whether a picture in front is joined to another one. -/
def joinsPicture (behind : Behind) : Bool :=
  match behind.sign with
  | .joined _ => true
  | _ => false

end Behind

/-! ## Characters -/

/-- The joiner. -/
def joiner : Char := '\u200d'

/-- Whether `c` is a letter of a flag. -/
def isIndicator (c : Char) : Bool := 0x1F1E6 ≤ c.toNat && c.toNat ≤ 0x1F1FF

/-- Whether `c` sets the colour of a picture. -/
def isModifier (c : Char) : Bool := 0x1F3FB ≤ c.toNat && c.toNat ≤ 0x1F3FF

/-- Whether `c` is a letter among the tags of a flag. -/
def isTagLetter (c : Char) : Bool := 0xE0061 ≤ c.toNat && c.toNat ≤ 0xE007A

/-- Whether `c` is a digit among the tags of a flag. -/
def isTagDigit (c : Char) : Bool := 0xE0030 ≤ c.toNat && c.toNat ≤ 0xE0039

/-- Whether `c` is an Arabic lam. -/
def isLam (c : Char) : Bool :=
  let code := c.toNat
  [0x644, 0x76A, 0x8A6, 0x8C7].contains code || (0x6B5 ≤ code && code ≤ 0x6B8)

/-- Whether `c` is an Arabic alef. -/
def isAlef (c : Char) : Bool :=
  let code := c.toNat
  [0x622, 0x623, 0x625, 0x627, 0x671, 0x672, 0x673, 0x675, 0x773, 0x774].contains code ||
    (0x870 ≤ code && code ≤ 0x882)

/-- Whether `c` is a Tifinagh consonant. -/
def isTifinagh (c : Char) : Bool :=
  let code := c.toNat
  (0x2D31 ≤ code && code ≤ 0x2D65) || code == 0x2D6F

/-- The Khmer letters that a coeng can put below the letter before. -/
def subjoinedLetters : Array Range :=
  #[(0x1780, 0x1782), (0x1784, 0x1787), (0x1789, 0x178C), (0x178E, 0x1793), (0x1795, 0x1798),
    (0x179B, 0x179D), (0x17A0, 0x17A0), (0x17A2, 0x17A2), (0x17A7, 0x17A7), (0x17AB, 0x17AC),
    (0x17AF, 0x17AF)]

/-- The code points without columns that letters of one word do not join through. -/
def separating : Array Range :=
  #[(0x605, 0x605), (0x890, 0x891), (0x8E2, 0x8E2), (0x9BE, 0x9BE), (0x9D7, 0x9D7), (0xB3E, 0xB3E),
    (0xB57, 0xB57), (0xBBE, 0xBBE), (0xBD7, 0xBD7), (0xCC0, 0xCC0), (0xCC2, 0xCC2), (0xCC7, 0xCC8),
    (0xCCA, 0xCCB), (0xCD5, 0xCD6), (0xD3E, 0xD3E), (0xD4E, 0xD4E), (0xD57, 0xD57), (0xDCF, 0xDCF),
    (0xDDF, 0xDDF), (0x1160, 0x11FF), (0x1715, 0x1715), (0x1734, 0x1734), (0x180E, 0x180E),
    (0x1B35, 0x1B35), (0x1B3B, 0x1B3B), (0x1B3D, 0x1B3D), (0x1B43, 0x1B44), (0x1BAA, 0x1BAA),
    (0x1BF2, 0x1BF3), (0x200C, 0x200D), (0x2065, 0x2069), (0x302E, 0x302F), (0x3164, 0x3164),
    (0xA8FA, 0xA8FA), (0xA953, 0xA953), (0xA9C0, 0xA9C0), (0xD7B0, 0xD7C6), (0xD7CB, 0xD7FB),
    (0xFF9E, 0xFFA0), (0xFFF0, 0xFFF8), (0x111C0, 0x111C0), (0x11235, 0x11235), (0x1133E, 0x1133E),
    (0x1134D, 0x1134D), (0x11357, 0x11357), (0x113B8, 0x113B8), (0x113C2, 0x113C2),
    (0x113C5, 0x113C5), (0x113C7, 0x113C9), (0x113CF, 0x113CF), (0x114B0, 0x114B0),
    (0x114BD, 0x114BD), (0x115AF, 0x115AF), (0x116B6, 0x116B6), (0x1171E, 0x1171E),
    (0x11930, 0x11930), (0x1193D, 0x1193D), (0x11F41, 0x11F41), (0x16FF0, 0x16FF1),
    (0x1D165, 0x1D166), (0x1D16D, 0x1D172), (0xE0000, 0xE0000), (0xE0002, 0xE001F),
    (0xE0080, 0xE00FF), (0xE01F0, 0xE0FFF)]

/-- Whether Arabic letters join through `c`. -/
def isTransparent (c : Char) : Bool :=
  Range.covers zeroColumns c.toNat && !Range.covers separating c.toNat

/-- Whether letters that are shown as one may have `c` between them: a mark that is ignored. -/
def isIgnored (c : Char) : Bool :=
  let code := c.toNat
  code == 0x34F || (0x180B ≤ code && code ≤ 0x180D) || code == 0x180F ||
    (0xFE00 ≤ code && code ≤ 0xFE0F) || (0xE0100 ≤ code && code ≤ 0xE01EF)

/-- The letter that `c` is for the letters in front of it. -/
def ligatureLetter? (c : Char) : Option Ligature :=
  let code := c.toNat
  if isAlef c then some .alef
  else if code == 0x5DC then some (.lamed false)
  else if Range.covers subjoinedLetters code then some .subjoined
  else if code == 0x1A10 then some (.ya false)
  else if isTifinagh c then some (.consonant false)
  else if code == 0xA4FC || code == 0xA4FD then some .tone
  else if code == 0x10C03 then some (.orkhonI false)
  else if code == 0x16D67 then some .vowelE
  else if code == 0x16D68 then some .vowelAi
  else none

/-- The columns of a character that is not shown together with those behind it, and what it is for
those in front of it. -/
def alone (c : Char) : Int × Behind :=
  let code := c.toNat
  match ligatureLetter? c with
  | some letter => (1, { sign := .ligature letter })
  | none =>
    if code == 0xFE0E then (0, { sign := .plain, asText := true })
    else if code == 0xFE0F then (0, { sign := .plain, asPicture := true })
    else if isIndicator c then (1, { sign := .indicator })
    else if isModifier c then (2, { sign := .modifier })
    else if isPicture c then (2, { sign := .picture })
    else (columns c, .nothing)

/-! ## Letters that are one -/

namespace Ligature

/-- The letter behind a joiner. -/
def beforeJoiner : Ligature → Option Ligature
  | .lamed _ => some (.lamed true)
  | .ya _ => some (.ya true)
  | .consonant _ => some (.consonant true)
  | .orkhonI _ => some (.orkhonI true)
  | .subjoined => some .subjoined
  | .yaBehindSign => some .yaBehindSign
  | .consonantBehindJoiner => some .consonantBehindJoiner
  | .tone => some .tone
  | .alef | .vowelE | .vowelAi => none

/-- The columns that `c` adds in front of a letter with which it is shown as one. -/
def combine? (letter : Ligature) (c : Char) : Option (Int × Behind) :=
  let code := c.toNat
  let one := some (0, Behind.nothing)
  match letter with
  | .alef =>
    if isLam c then one
    else if isTransparent c then some (0, { sign := .ligature .alef })
    else none
  | .lamed true => if code == 0x5D0 then one else none
  | .subjoined => if code == 0x17D2 then some (-1, .nothing) else none
  | .ya true => if code == 0x1A17 then some (0, { sign := .ligature .yaBehindSign }) else none
  | .yaBehindSign => if code == 0x1A15 then one else none
  | .consonant isJoined =>
    if code == 0x2D7F then some (1, { sign := .ligature .consonantBehindJoiner })
    else if isJoined && isTifinagh c then one
    else none
  | .consonantBehindJoiner => if isTifinagh c then some (-1, .nothing) else none
  | .tone => if 0xA4F8 ≤ code && code ≤ 0xA4FB then one else none
  | .orkhonI true => if code == 0x10C32 then one else none
  | .vowelE =>
    if code == 0x16D63 || code == 0x16D69 then one
    else if code == 0x16D67 then some (0, { sign := .ligature .vowelAi })
    else if code == 0x16D68 then some (1, { sign := .ligature .vowelE })
    else none
  | .vowelAi => if code == 0x16D63 then one else none
  | .lamed false | .ya false | .orkhonI false => none

/-- The columns that `c` adds in front of a letter. Joiners and ignored marks add none, and change
nothing about the letter but that it is joined. -/
def measure? (letter : Ligature) (c : Char) : Option (Int × Behind) :=
  match letter.beforeJoiner with
  | some joined =>
    if c = joiner then some (0, { sign := .ligature joined })
    else if isIgnored c then some (0, { sign := .ligature letter })
    else letter.combine? c
  | none => letter.combine? c

end Ligature

/-! ## Pictures that are one -/

namespace JoinedEnd

/-- The tags in front of which `c` is one more tag, or a flag that the tags belong to. -/
def combineTags? (letters digits : Nat) (c : Char) : Option (Int × Behind) :=
  if isTagLetter c && digits == 0 && letters < 6 then
    some (0, { sign := .joined (.tags (letters + 1) 0) })
  else if isTagDigit c && digits < 3 && letters < 5 then
    some (0, { sign := .joined (.tags letters (digits + 1)) })
  else if c.toNat == 0x1F3F4 && (digits == 3 || (digits == 0 && 3 ≤ letters)) then
    some (0, { sign := .picture })
  else none

/-- The columns that `c` adds in front of the end of a joined picture to which it belongs. -/
def combine? (part : JoinedEnd) (c : Char) : Option (Int × Behind) :=
  match part with
  | .whole =>
    if c.toNat == 0x20E3 then some (0, { sign := .joined .keycap })
    else if isIndicator c then some (1, { sign := .joined .indicator })
    else if isModifier c then some (0, { sign := .modifier })
    else if c.toNat == 0xE007F then some (0, { sign := .joined (.tags 0 0) })
    else if isPicture c then some (0, { sign := .picture })
    else none
  | .keycap => none
  | .indicator | .unpairedIndicators =>
    if isIndicator c then some (-1, { sign := .joined .indicatorPairs })
    else if c = joiner && part = .unpairedIndicators then some (0, { sign := .joined .whole })
    else none
  | .indicatorPairs =>
    if isIndicator c then some (3, { sign := .joined .unpairedIndicators })
    else if c = joiner then some (0, { sign := .joined .whole })
    else none
  | .tags letters digits => combineTags? letters digits c

end JoinedEnd

/-! ## Texts -/

/-- The columns that `c` adds in front of a sign with which it is shown together. -/
def Sign.measure? (sign : Sign) (c : Char) : Option (Int × Behind) :=
  match sign with
  | .ligature letter => letter.measure? c
  | .joined part => part.combine? c
  | .modifier =>
    if isColourable c then some (0, { sign := .picture })
    else if c = joiner then some (0, { sign := .joined .whole })
    else none
  | .indicator => if isIndicator c then some (1, { sign := .indicators }) else none
  | .indicators =>
    if isIndicator c then some (1, { sign := .indicators })
    else if c = joiner then some (0, { sign := .joined .whole })
    else none
  | .picture => if c = joiner then some (0, { sign := .joined .whole }) else none
  | .plain | .lineFeed => none

/-- The columns that a character up to U+00A0 adds, control characters included. -/
def measureLatin (c : Char) (sign : Sign) : Int × Behind :=
  if c = '\n' then (1, { sign := .lineFeed })
  else if c = '\r' ∧ sign = .lineFeed then (0, .nothing)
  else (1, .nothing)

/-- The columns that `c` adds, and what stands behind a character in front of it. -/
def measure (c : Char) (behind : Behind) : Int × Behind :=
  if behind.asPicture && hasPictureForm c then
    (if behind.joinsPicture then 0 else 2, { sign := .picture })
  else
    let behind := behind.withoutPicture
    if c.toNat ≤ 0xA0 then measureLatin c behind.sign
    else if behind = .nothing then alone c
    else if c.toNat == 0xFE0F then (0, behind.beforePictureSelector)
    else if c.toNat == 0xFE0E then (0, behind.beforeTextSelector)
    else if behind.asText && hasTextForm c then (1, .nothing)
    else (behind.sign.measure? c).getD (alone c)

/-- The number of columns of a text. -/
def width (text : List Char) : Nat :=
  (text.foldr (fun c (total, behind) =>
    let (added, behind) := measure c behind
    (total + added, behind)) (0, .nothing)).1.toNat

end Phrasebook.Text
