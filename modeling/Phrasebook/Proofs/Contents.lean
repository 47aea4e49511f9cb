import Phrasebook.Proofs.FileActions

/-!
# Contents that are written

No action on table files removes a file or changes one but by a text that it writes, wherever the
paths lead and however the action ends.

- `FileTree.Rewritten`: every file holds what it held, or a text of a kind;
- `FileTree.rewrites_writeFile`: writing a file leaves its text and no other.
-/

namespace Phrasebook.FileTree

variable {allowed : String → Prop} {tree middle after : FileTree} {location : Location}

/-- Every location holds what it held, or a text of the allowed kind. -/
def Rewritten (allowed : String → Prop) (tree after : FileTree) : Prop :=
  ∀ location, after.contentAt? location = tree.contentAt? location ∨
    ∃ text, allowed text ∧ after.contentAt? location = some (.text text)

theorem Rewritten.trans (first : Rewritten allowed tree middle)
    (second : Rewritten allowed middle after) : Rewritten allowed tree after := by
  intro location
  rcases second location with same | written
  · rw [same]
    exact first location
  · exact .inr written

instance : Std.Refl (Rewritten allowed) := ⟨fun _ _ => .inl rfl⟩

instance : Trans (Rewritten allowed) (Rewritten allowed) (Rewritten allowed) := ⟨Rewritten.trans⟩

/-! ## Single entries -/

theorem contentAt?_of_file {content : Content}
    (h : tree.entryAt? location = some (.file content)) :
    tree.contentAt? location = some content := by
  unfold entryAt? at h
  split at h
  · cases h
  · unfold contentAt?
    rw [h]

theorem contentAt?_putAt {entry : Entry} {other : Location} :
    (tree.putAt location entry).contentAt? other =
      if location = other then
        match entry with
        | .file content => some content
        | .folder => none
      else tree.contentAt? other := by
  unfold contentAt? putAt
  rw [OrderedMap.get?_insert]
  by_cases same : location = other
  · rw [if_pos same, if_pos same]
    cases entry <;> rfl
  · rw [if_neg same, if_neg same]

/-- A new folder holds no text, and neither did the free place. -/
theorem rewritten_putAt_folder (free : tree.entryAt? location = none) :
    Rewritten allowed tree (tree.putAt location .folder) := by
  intro other
  rw [contentAt?_putAt]
  by_cases same : location = other
  · have empty : tree.contentAt? other = none := by
      rw [← same]
      unfold entryAt? at free
      split at free
      · cases free
      · unfold contentAt?
        rw [free]
    rw [if_pos same, empty]
    exact .inl rfl
  · rw [if_neg same]
    exact .inl rfl

theorem rewritten_putAt_text {text : String} (fits : allowed text) :
    Rewritten allowed tree (tree.putAt location (.file (.text text))) := by
  intro other
  rw [contentAt?_putAt]
  by_cases same : location = other
  · rw [if_pos same]
    exact .inr ⟨text, fits, rfl⟩
  · rw [if_neg same]
    exact .inl rfl

/-! ## Actions -/

/-- Whatever the action does, it writes only texts of the allowed kind, and removes none. -/
abbrev Rewrites {ε α : Type} (allowed : String → Prop) (action : FileAction ε α) : Prop :=
  Action.Leads (Rewritten allowed) action

/-- Writing a file puts its text somewhere, or nowhere, and changes no other file. -/
theorem rewrites_writeFile {path : Path} {shown text : String} (fits : allowed text) :
    Rewrites allowed (writeFile path shown text) :=
  leads_writeFile (fun _ _ _ _ free => rewritten_putAt_folder free)
    (fun _ _ _ _ _ => rewritten_putAt_text fits) path shown

end Phrasebook.FileTree
