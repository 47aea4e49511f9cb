import Phrasebook.Text.Search

/-!
# Markers

Sentinel words in comments that give a declaration its role.

- `Marker`: the roles;
- `Marker.ofComment?`: the role that a comment gives.
-/

namespace Phrasebook

/-- The role of a marked declaration. -/
inductive Marker where
  /-- Creates the catalogue; its arguments list the supported languages. -/
  | constructor
  /-- Looks a key up in the default namespace. -/
  | lookup
  /-- Looks a key up in the namespace given before it. -/
  | namespacedLookup
deriving Repr, DecidableEq, Inhabited

namespace Marker

/-- The word that marks a constructor. -/
def constructorWord : String := "I18NCONSTRUCTORSYMBOL"

/-- The word that marks a lookup in the default namespace. -/
def lookupWord : String := "I18NLOCTEXTSYMBOL"

/-- The word that marks a lookup in a given namespace. -/
def namespacedLookupWord : String := "I18NNSLOCTEXTSYMBOL"

/-- The role that a comment gives. Of several words the one for a given namespace counts first,
then the one for the default namespace. -/
def ofComment? (comment : String) : Option Marker :=
  let marks := fun (word : String) => Text.occursIn word.toList comment.toList
  if marks namespacedLookupWord then some .namespacedLookup
  else if marks lookupWord then some .lookup
  else if marks constructorWord then some .constructor
  else none

/-- Whether the role is to look keys up. -/
def isLookup : Marker → Bool
  | .constructor => false
  | .lookup | .namespacedLookup => true

end Marker

end Phrasebook
