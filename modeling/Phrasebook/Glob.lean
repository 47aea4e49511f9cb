/-!
# Glob patterns

Patterns for file names: `?` stands for any character, `*` for any text, `[…]` for one of the listed
characters and `**`, as a whole path component, for any number of components.

- `Glob`: a pattern as a list of tokens;
- `Glob.parse`: reads a pattern, or says what is wrong with it;
- `Glob.matchesText`: whether a whole text fits the pattern; slashes are characters like others.
-/

namespace Phrasebook

namespace Glob

/-- Characters that a bracket lists: from the first to the last. -/
structure Span where
  first : Char
  last : Char
deriving Repr, DecidableEq

/-- A part of a pattern. -/
inductive Token where
  | letter (c : Char)
  | anyLetter
  | anyText
  /-- Any number of whole path components. -/
  | anyComponents
  | oneOf (spans : List Span)
  | noneOf (spans : List Span)
deriving Repr, DecidableEq

/-- The only character that the token fits, if there is but one. -/
def Token.letter? : Token → Option Char
  | .letter c => some c
  | _ => none

/-- What is wrong with a pattern. -/
inductive Problem where
  | wildcards
  | recursiveWildcards
  | bracket
deriving Repr, DecidableEq

/-- The words for a problem. -/
def Problem.describe : Problem → String
  | .wildcards => "wildcards are either regular \x60*\x60 or recursive \x60**\x60"
  | .recursiveWildcards => "recursive wildcards must form a single path component"
  | .bracket => "invalid range pattern"

/-- A problem and the number of characters before it. -/
structure Fault where
  problem : Problem
  position : Nat
deriving Repr, DecidableEq

/-- The words for a fault. -/
def Fault.message (fault : Fault) : String :=
  "Pattern syntax error near position " ++ toString fault.position ++ ": " ++
    fault.problem.describe

/-- Whether a text holds `*` or `?`, which makes it a pattern and not the name of a place. -/
def isPattern (text : String) : Bool := text.toList.any fun c => c == '*' || c == '?'

/-! ### Reading -/

/-- The characters that a bracket with the given content lists. -/
def spans : List Char → List Span
  | [] => []
  | a :: '-' :: b :: rest => ⟨a, b⟩ :: spans rest
  | a :: rest => ⟨a, a⟩ :: spans rest

/-- The content of a bracket up to a closing bracket after the first character, and what follows;
the first character may itself be a closing bracket. -/
def bracketContent? : List Char → Option (List Char × List Char)
  | [] => none
  | first :: rest =>
    match rest.dropWhile (· ≠ ']') with
    | [] => none
    | _ :: after => some (first :: rest.takeWhile (· ≠ ']'), after)

/-- The token of a bracket whose opening was passed, and what follows it. -/
def bracket? : List Char → Option (Token × List Char)
  | '!' :: rest =>
    (bracketContent? rest).map fun (content, after) => (.noneOf (spans content), after)
  | rest => (bracketContent? rest).map fun (content, after) => (.oneOf (spans content), after)

/-- The tokens read so far, last first, followed by any number of components. A second such token in
a row is left out, except at the very start. -/
def addComponents (tokens : List Token) : List Token :=
  match tokens with
  | .anyComponents :: _ :: _ => tokens
  | _ => .anyComponents :: tokens

/-- Read the rest of a pattern, given the tokens so far, last first, the number of characters so
far, and the last of them. The first argument bounds the number of steps. -/
def readTokens : Nat → List Token → Nat → Option Char → List Char → Except Fault (List Token)
  | 0, tokens, _, _, _ => .ok tokens.reverse
  | _, tokens, _, _, [] => .ok tokens.reverse
  | steps + 1, tokens, position, before, c :: rest =>
    if c = '?' then readTokens steps (.anyLetter :: tokens) (position + 1) (some c) rest
    else if c = '[' then
      match bracket? rest with
      | none => .error ⟨.bracket, position⟩
      | some (token, after) =>
        readTokens steps (token :: tokens) (position + 1 + (rest.length - after.length)) (some ']')
          after
    else if c = '*' then
      match rest with
      | '*' :: '*' :: _ => .error ⟨.wildcards, position + 2⟩
      | '*' :: after =>
        if before = none ∨ before = some '/' then
          match after with
          | [] => readTokens steps (addComponents tokens) (position + 2) (some c) []
          | '/' :: others =>
            readTokens steps (addComponents tokens) (position + 3) (some '/') others
          | _ => .error ⟨.recursiveWildcards, position + 2⟩
        else .error ⟨.recursiveWildcards, position - 1⟩
      | _ => readTokens steps (.anyText :: tokens) (position + 1) (some c) rest
    else readTokens steps (.letter c :: tokens) (position + 1) (some c) rest

end Glob

/-- A pattern. -/
structure Glob where
  tokens : List Glob.Token
deriving Repr, DecidableEq

namespace Glob

/-- Read a pattern. -/
def parse (text : String) : Except Fault Glob := do
  return ⟨← readTokens text.length [] 0 none text.toList⟩

/-- Whether the pattern holds a token for any number of components. -/
def isRecursive (glob : Glob) : Bool := glob.tokens.contains .anyComponents

/-- The only text that a pattern without special tokens fits. -/
def literal? (glob : Glob) : Option String :=
  (glob.tokens.mapM Token.letter?).map String.ofList

/-! ### Matching -/

/-- How the attempt to match a text ends. -/
inductive Outcome where
  | matched
  | mismatched
  /-- The text ended early, so that no longer part of it can match either. -/
  | exhausted
deriving Repr, DecidableEq

/-- Whether one of the spans holds `c`. -/
def covers (spans : List Span) (c : Char) : Bool :=
  spans.any fun span => span.first ≤ c && c ≤ span.last

/-- Whether a token for a single character fits `c`. -/
def Token.accepts (token : Token) (c : Char) : Bool :=
  match token with
  | .letter expected => c == expected
  | .anyLetter | .anyText | .anyComponents => true
  | .oneOf spans => covers spans c
  | .noneOf spans => !covers spans c

/-- Give up more and more of a text to a token for any text, and match what is left. If `whole`,
only whole components are given up, or all. -/
def spread (whole : Bool) (next : List Char → Outcome) : List Char → Outcome
  | [] => next []
  | c :: rest =>
    if whole && c != '/' then spread whole next rest
    else
      match next rest with
      | .mismatched => spread whole next rest
      | outcome => outcome

/-- Match a whole text. -/
def run : List Token → List Char → Outcome
  | [], [] => .matched
  | [], _ :: _ => .mismatched
  | token :: tokens, text =>
    match token with
    | .anyText | .anyComponents =>
      match run tokens text with
      | .mismatched => spread (token == .anyComponents) (run tokens) text
      | outcome => outcome
    | _ =>
      match text with
      | [] => .exhausted
      | c :: rest => if token.accepts c then run tokens rest else .mismatched

/-- Whether the pattern fits the whole text. -/
def matchesText (glob : Glob) (text : String) : Bool := run glob.tokens text.toList == .matched

end Glob

end Phrasebook
