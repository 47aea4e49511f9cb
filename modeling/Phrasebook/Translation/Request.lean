/-!
# Requests for translations

- `TranslationRequest`: what is asked;
- `Translator`: who answers.
-/

namespace Phrasebook

/-- A text to translate into a language, and the sources around its calls. -/
structure TranslationRequest where
  text : String
  contexts : List String
  language : String
deriving Repr, DecidableEq, Inhabited

/-- Answers requests, each with the translation or the words for what went wrong. -/
abbrev Translator := TranslationRequest → Except String String

end Phrasebook
