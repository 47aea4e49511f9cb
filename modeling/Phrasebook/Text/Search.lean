/-!
# Words in a text

- `occursIn`: whether a word occurs;
- `splitAtWord?`: what stands before and after its first occurrence;
- `splitAtLast?`: what stands before and after the last occurrence of a character;
- `withoutEnding?`: what stands before an ending.
-/

namespace Phrasebook.Text

/-- Whether `word` occurs in a text. -/
def occursIn (word : List Char) : List Char → Bool
  | [] => word.isEmpty
  | c :: rest => word.isPrefixOf (c :: rest) || occursIn word rest

/-- What stands before and after the first occurrence of `word`. -/
def splitAtWord? (word : List Char) : List Char → Option (List Char × List Char)
  | [] => if word.isEmpty then some ([], []) else none
  | c :: rest =>
    if word.isPrefixOf (c :: rest) then some ([], (c :: rest).drop word.length)
    else (splitAtWord? word rest).map fun (before, after) => (c :: before, after)

/-- What stands before and after the last occurrence of `mark`. -/
def splitAtLast? (mark : Char) : List Char → Option (List Char × List Char)
  | [] => none
  | c :: rest =>
    match splitAtLast? mark rest with
    | some (before, after) => some (c :: before, after)
    | none => if c = mark then some ([], rest) else none

/-- What stands before `ending` at the end of a text. -/
def withoutEnding? (ending text : List Char) : Option (List Char) :=
  if ending.isSuffixOf text then some (text.take (text.length - ending.length)) else none

end Phrasebook.Text
