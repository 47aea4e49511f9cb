import Phrasebook.Identity

/-!
# Translation jobs

- `TranslationJob`: a text to translate into a language;
- `CompletedTranslation`: a job with its translation.
-/

namespace Phrasebook

/-- A text to translate into a language. -/
structure TranslationJob where
  identity : Identity
  language : String
  /-- The number of calls that look the text up. -/
  occurrences : Nat
deriving Repr, DecidableEq, Inhabited

/-- A job and its translation. -/
structure CompletedTranslation where
  job : TranslationJob
  text : String
deriving Repr, DecidableEq, Inhabited

end Phrasebook
