import Phrasebook.Text.Search

/-!
# Identities of texts

A translatable text is known by a key inside a namespace and written `namespace.key`.

- `Identity`: the pair;
- `Identity.parse?`: reads the written form.
-/

namespace Phrasebook

/-- A key inside a namespace. -/
structure Identity where
  /-- The namespace, called `space` for short. -/
  space : String
  key : String
deriving Repr, DecidableEq, Inhabited, Hashable

namespace Identity

/-- The namespace of lookups that name none. -/
def defaultSpace : String := "default"

/-- Read `namespace.key`. The first dot separates, since a namespace holds none but a key may; a
namespace is not empty. -/
def parse? (text : String) : Option Identity :=
  match Text.splitAtWord? ['.'] text.toList with
  | none | some ([], _) => none
  | some (space, key) => some ⟨String.ofList space, String.ofList key⟩

/-- The written form. -/
def toText (identity : Identity) : String := identity.space ++ "." ++ identity.key

end Identity

end Phrasebook
