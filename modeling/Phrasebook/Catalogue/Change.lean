/-!
# Changes of table files

- `FileChange`: what is done to a table file.
-/

namespace Phrasebook

/-- Whether a table file is new. -/
inductive ChangeKind where
  | created
  | updated
deriving Repr, DecidableEq

/-- What is done to a table file: how many keys are added and how many are translated. -/
structure FileChange where
  /-- The file, as it is shown. -/
  path : String
  kind : ChangeKind
  added : Nat
  translated : Nat
deriving Repr, DecidableEq

end Phrasebook
