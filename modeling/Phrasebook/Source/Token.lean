import Phrasebook.Source.Literal

/-!
# Tokens

What the lexemes of a script are, and the classes of words and marks that its grammar tells apart.

- `Token`: a word, literal or mark;
- `isReserved`, `isRestricted`: the words that are not names;
- `precedence?`: the binary operators;
- `Token.startsExpression`, `Token.joinsOperands`: what can start or continue an expression.
-/

namespace Phrasebook.Source

/-- What a lexeme is. -/
inductive Token where
  /-- A name or keyword. -/
  | word (id : String)
  /-- A name that is spelled with escapes, decoded. It is never a keyword. -/
  | escapedWord (id : String)
  /-- A private name, without its number sign. -/
  | privateWord (id : String)
  /-- A string literal. -/
  | text (literal : Literal)
  /-- A number. -/
  | number
  /-- An integer of unlimited size. -/
  | bigNumber
  /-- A punctuator. -/
  | mark (symbol : String)
  /-- The end of the script. -/
  | finish
  /-- Characters that start no token. -/
  | unreadable
deriving Repr, DecidableEq, Inhabited

/-! ## Words -/

/-- The words that are never names. -/
def reservedWords : List String :=
  ["break", "case", "catch", "class", "const", "continue", "debugger", "default", "delete", "do",
    "else", "export", "extends", "false", "finally", "for", "function", "if", "import", "in",
    "instanceof", "new", "null", "return", "super", "switch", "this", "throw", "true", "try",
    "typeof", "var", "void", "while", "with"]

/-- Whether `id` cannot be a name. -/
def isReserved (id : String) : Bool := reservedWords.contains id

/-- The words that modules keep back where a name may also be left out. -/
def restrictedWords : List String :=
  ["let", "yield", "await", "enum", "implements", "package", "protected", "interface", "private",
    "public"]

/-- Whether `id` cannot be a name where a name may also be left out. -/
def isRestricted (id : String) : Bool := isReserved id || restrictedWords.contains id

/-- The text of a name or keyword. -/
def Token.word? : Token → Option String
  | .word id | .escapedWord id => some id
  | _ => none

/-- Whether a token is a name or keyword. -/
def Token.isWord (token : Token) : Bool := token.word?.isSome

/-- Whether a token is a name even where a name may be left out. -/
def Token.isName : Token → Bool
  | .word id => !isRestricted id
  | .escapedWord _ => true
  | _ => false

/-! ## Marks -/

/-- The punctuators, longer ones first. Those that start with an angle bracket are read one
bracket at a time, because type arguments close with single ones. -/
def marks : List String :=
  ["...", "===", "!==", "**=", "&&=", "||=", "??=",
    "=>", "==", "!=", "++", "--", "+=", "-=", "*=", "/=", "%=", "&=", "|=", "^=", "&&", "||", "??",
    "**",
    "\x7b", "\x7d", "(", ")", "[", "]", ";", ",", "<", ">", "+", "-", "*", "/", "%", "&", "|", "^",
    "!", "~", "?", ":", "=", ".", "@", "`"]

/-- The operators that start with an angle bracket, longer ones first. -/
def angleOperators : List String :=
  [">>>=", ">>>", ">>=", "<<=", "<<", ">>", "<=", ">=", "<", ">"]

/-- The assignment operators other than `=`. -/
def compoundOperators : List String :=
  ["+=", "-=", "*=", "/=", "%=", "**=", "&=", "|=", "^=", "&&=", "||=", "??=", ">>>=", ">>=",
    "<<="]

/-- How tightly the mark `symbol` binds its operands, if it is a binary operator. -/
def precedence? (symbol : String) : Option Nat :=
  if symbol == "??" || symbol == "||" then some 1
  else if symbol == "&&" then some 2
  else if symbol == "|" then some 3
  else if symbol == "^" then some 4
  else if symbol == "&" then some 5
  else if ["==", "!=", "===", "!=="].contains symbol then some 6
  else if ["<", ">", "<=", ">="].contains symbol then some 7
  else if ["<<", ">>", ">>>"].contains symbol then some 8
  else if symbol == "+" || symbol == "-" then some 9
  else if symbol == "*" || symbol == "/" || symbol == "%" then some 10
  else if symbol == "**" then some 11
  else none

/-- How tightly the operators that are words bind their operands. -/
def wordPrecedence : Nat := 7

/-! ## Expressions -/

/-- Whether `token` joins two operands. -/
def Token.joinsOperands : Token → Bool
  | .mark symbol => (precedence? symbol).isSome
  | .word id => ["in", "instanceof", "as", "satisfies"].contains id
  | _ => false

/-- Whether an expression can start with `token`. -/
def Token.startsExpression : Token → Bool
  | .word id => !isReserved id || ["this", "null", "true", "false", "super", "function", "class",
      "new", "import", "typeof", "void", "delete"].contains id
  | .escapedWord _ | .privateWord _ | .text _ | .number | .bigNumber => true
  | .mark symbol =>
    ["(", "[", "\x7b", "/", "/=", "+", "-", "!", "~", "++", "--", "<", "`", "@"].contains symbol
  | .finish | .unreadable => false

end Phrasebook.Source
