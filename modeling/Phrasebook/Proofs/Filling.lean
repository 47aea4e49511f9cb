import Phrasebook.Catalogue.Fill
import Phrasebook.Proofs.Reconciling

/-!
# Filled tables

Filling completes a table with placeholders and then gives open entries their translations.

- `FillOptions.textOf`: what a text becomes;
- `get?_translate`: every key gets what its text becomes, and nothing else changes;
- `Filled`: a table after it was filled;
- `change_fillTable`, `local_fillTable`: what is written, and that only its own file matters.
-/

namespace Phrasebook.Catalogue

variable {catalogue : Catalogue} {options : FillOptions} {tree : FileTree} {need : Need}

/-! ## Single texts -/

/-- What a text becomes: its translation, if there is one and the text may be replaced. -/
def FillOptions.textOf (options : FillOptions) (identity : Identity) (language current : String) :
    String :=
  match options.translations.get? (identity, language) with
  | some value => if isOpen options.targets identity current then value else current
  | none => current

theorem FillOptions.textOf_of_none {identity : Identity} {language current : String}
    (h : options.translations.get? (identity, language) = none) :
    options.textOf identity language current = current := by
  unfold textOf
  rw [h]

theorem FillOptions.textOf_of_some {identity : Identity} {language current value : String}
    (h : options.translations.get? (identity, language) = some value) :
    options.textOf identity language current =
      if isOpen options.targets identity current then value else current := by
  unfold textOf
  rw [h]

/-- A text that has become what it is to become stays as it is. -/
theorem FillOptions.textOf_textOf {identity : Identity} {language current : String} :
    options.textOf identity language (options.textOf identity language current) =
      options.textOf identity language current := by
  cases found : options.translations.get? (identity, language) with
  | none => rw [textOf_of_none found]
  | some value =>
    rw [textOf_of_some found, textOf_of_some found]
    by_cases reopened : isOpen options.targets identity current
    · rw [if_pos reopened, ite_self]
    · rw [if_neg reopened, if_neg reopened]

/-! ## Translating -/

/-- The table with the translation of one key, if there is one to be put in. -/
def translateOne (options : FillOptions) (space language : String) (table : Table) (key : String) :
    Table :=
  (translateKey options space language table key).getD table

theorem translateKey_eq {space language key : String} {table : Table} :
    translateKey options space language table key =
      match options.translations.get? (⟨space, key⟩, language) with
      | some value =>
        if isOpen options.targets ⟨space, key⟩ ((table.get? key).getD "") &&
            (table.get? key).getD "" != value then
          some (table.insert key value)
        else none
      | none => none := by
  unfold translateKey
  dsimp only
  cases options.translations.get? (⟨space, key⟩, language) <;> rfl

/-- A key that the table knows gets what its text becomes; no other key changes. -/
theorem get?_translateOne {space language key other : String} {table : Table} {current : String}
    (known : table.get? key = some current) :
    (translateOne options space language table key).get? other =
      if key = other then some (options.textOf ⟨space, key⟩ language current)
      else table.get? other := by
  have kept : table.get? other = if key = other then some current else table.get? other := by
    split
    · rename_i same
      rw [← same, known]
    · rfl
  unfold translateOne
  rw [translateKey_eq, known, Option.getD_some]
  cases found : options.translations.get? (⟨space, key⟩, language) with
  | none =>
    rw [FillOptions.textOf_of_none found]
    exact kept
  -- There is a text for the key, which replaces one that is open and differs.
  | some value =>
    rw [FillOptions.textOf_of_some found]
    dsimp only
    by_cases reopened : isOpen options.targets ⟨space, key⟩ current = true
    · rw [reopened, Bool.true_and, if_pos rfl]
      by_cases same : current = value
      · rw [same, bne_self_eq_false, if_neg Bool.false_ne_true, ← same]
        exact kept
      · rw [if_pos (by simpa using same)]
        exact OrderedMap.get?_insert
    · rw [if_neg reopened, if_neg (by simp [reopened])]
      exact kept

theorem keys_translateOne {space language key : String} {table : Table} (known : key ∈ table.keys) :
    (translateOne options space language table key).keys = table.keys := by
  unfold translateOne
  rw [translateKey_eq]
  split
  · split
    · rw [Option.getD_some, OrderedMap.keys_insert, if_pos known]
    · rfl
  · rfl

/-- One step of `translate`. -/
def translateStep (options : FillOptions) (space language : String) (progress : Table × Nat)
    (key : String) : Table × Nat :=
  match translateKey options space language progress.1 key with
  | some table => (table, progress.2 + 1)
  | none => progress

theorem translate_eq (space language : String) (table : Table) (keys : List String) :
    translate options space language table keys =
      keys.foldl (translateStep options space language) (table, 0) := rfl

theorem fst_translateStep {space language key : String} {progress : Table × Nat} :
    (translateStep options space language progress key).1 =
      translateOne options space language progress.1 key := by
  unfold translateStep translateOne
  cases translateKey options space language progress.1 key <;> rfl

/-- Keys that the table knows get what their texts become, whether they are listed once or more. -/
theorem get?_foldl_translateStep {space language other : String} {keys : List String}
    {progress : Table × Nat} (known : ∀ key ∈ keys, key ∈ progress.1.keys) :
    (keys.foldl (translateStep options space language) progress).1.keys = progress.1.keys ∧
      (keys.foldl (translateStep options space language) progress).1.get? other =
        if other ∈ keys then
          (progress.1.get? other).map (options.textOf ⟨space, other⟩ language)
        else progress.1.get? other := by
  induction keys generalizing progress with
  | nil => exact ⟨rfl, (if_neg nofun).symm⟩
  | cons key rest ih =>
    obtain ⟨here, later⟩ := List.forall_mem_cons.mp known
    obtain ⟨current, has⟩ := OrderedMap.mem_keys_iff.mp here
    have same : (translateStep options space language progress key).1.keys = progress.1.keys := by
      rw [fst_translateStep, keys_translateOne here]
    obtain ⟨keys, texts⟩ := ih fun other h => same ▸ later other h
    rw [List.foldl_cons, keys, texts, same, fst_translateStep, get?_translateOne has]
    refine ⟨rfl, ?_⟩
    by_cases first : key = other
    · subst first
      -- A key that is listed again has already become what it is to become.
      rw [if_pos rfl, if_pos List.mem_cons_self, has, Option.map_some, Option.map_some,
        FillOptions.textOf_textOf, ite_self]
    · simp [first, Ne.symm first]

theorem snd_foldl_translateStep {space language : String} {keys : List String}
    {progress : Table × Nat} :
    progress.2 ≤ (keys.foldl (translateStep options space language) progress).2 ∧
      ((keys.foldl (translateStep options space language) progress).2 = progress.2 →
        (keys.foldl (translateStep options space language) progress).1 = progress.1) := by
  induction keys generalizing progress with
  | nil => exact ⟨Nat.le_refl _, fun _ => rfl⟩
  | cons key rest ih =>
    rw [List.foldl_cons]
    obtain ⟨grown, same⟩ := @ih (translateStep options space language progress key)
    unfold translateStep at grown same ⊢
    cases done : translateKey options space language progress.1 key with
    | none =>
      rw [done] at grown same
      exact ⟨grown, same⟩
    | some table =>
      rw [done] at grown
      dsimp only at grown ⊢
      exact ⟨by omega, fun none => by omega⟩

/-! ## One table -/

/-- The table with placeholders, and then with translations. -/
def filledTable (options : FillOptions) (need : Need) (table : Table) : Table :=
  (translate options need.space need.language (addMissing table need.keys).1 need.keys).1

/-- A table that was filled: a required key has what its text becomes, where a key without a text
stands for itself; new keys follow the others in the order in which they are first required. -/
structure Filled (options : FillOptions) (need : Need) (table filled : Table) : Prop where
  keys : filled.keys =
    table.keys ++ (need.keys.filter fun key => key ∉ table.keys).eraseDups
  empty : ∀ key ∈ need.keys, hasText table key = false →
    filled.get? key = some (options.textOf ⟨need.space, key⟩ need.language key)
  text : ∀ key ∈ need.keys, ∀ value, table.get? key = some value → value ≠ "" →
    filled.get? key = some (options.textOf ⟨need.space, key⟩ need.language value)
  others : ∀ key, key ∉ need.keys → filled.get? key = table.get? key

theorem filled_filledTable (options : FillOptions) (need : Need) (table : Table) :
    Filled options need table (filledTable options need table) := by
  have completed := (completed_addMissing table need.keys).1
  have known (key : String) (needed : key ∈ need.keys) :
      key ∈ (addMissing table need.keys).1.keys := by
    rw [completed.keys, List.mem_append, List.mem_eraseDups, List.mem_filter]
    by_cases old : key ∈ table.keys
    · exact .inl old
    · exact .inr ⟨needed, by simpa using old⟩
  have spec (key : String) := @get?_foldl_translateStep options need.space need.language key
    need.keys ((addMissing table need.keys).1, 0) known
  unfold filledTable
  rw [translate_eq]
  refine ⟨(spec "").1.trans completed.keys, fun key needed empty => ?_,
    fun key needed value has filled => ?_, fun key other => ?_⟩
  · rw [(spec key).2, if_pos needed, completed.filled key needed empty, Option.map_some]
  · have kept := completed.kept key (.inr (hasText_iff.mpr ⟨value, has, filled⟩))
    rw [(spec key).2, if_pos needed, kept, has, Option.map_some]
  · rw [(spec key).2, if_neg other, completed.kept key (.inl other)]

/-- A completed table is filled as it would have been before. -/
theorem filledTable_addMissing (options : FillOptions) (need : Need) (table : Table) :
    filledTable options need (addMissing table need.keys).1 = filledTable options need table := by
  unfold filledTable
  rw [addMissing_addMissing]

/-- A filled table is written if a key was added or a text was translated. -/
theorem change_fillTable :
    (catalogue.fillTable options tree need).change =
      match catalogue.openTable tree (need.path catalogue) with
      | .error _ => none
      | .ok (file, kind) =>
        let completed := addMissing file.table need.keys
        let result := translate options need.space need.language completed.1 need.keys
        if completed.2 = 0 ∧ result.2 = 0 then none
        else some (⟨catalogue.display (need.path catalogue), kind, completed.2, result.2⟩,
          need.path catalogue, file.renderWith (filledTable options need file.table)) := by
  unfold fillTable Need.path
  dsimp only
  rcases catalogue.openTable tree (catalogue.filePath need.space need.language) with
    fault | ⟨file, kind⟩
  · rfl
  · dsimp only
    unfold updateOf filledTable
    by_cases none : (addMissing file.table need.keys).2 = 0 ∧
        (translate options need.space need.language (addMissing file.table need.keys).1
          need.keys).2 = 0
    · rw [if_pos none, if_pos (by simpa using none)]
    · rw [if_neg none, if_neg (by simpa using none)]
      rfl

theorem change_fillTable_eq_some {change : FileChange} {path : Path} {text : String}
    (h : (catalogue.fillTable options tree need).change = some (change, path, text)) :
    ∃ file kind, catalogue.openTable tree (need.path catalogue) = .ok (file, kind) ∧
      path = need.path catalogue ∧
        text = file.renderWith (filledTable options need file.table) := by
  rw [change_fillTable] at h
  rcases opened : catalogue.openTable tree (need.path catalogue) with fault | ⟨file, kind⟩
  · rw [opened] at h
    cases h
  · rw [opened] at h
    dsimp only at h
    split at h
    · cases h
    · cases h
      exact ⟨file, kind, rfl, rfl, rfl⟩

/-- Nothing is added to a table that has a text for every key. -/
theorem addMissing_of_complete {table : Table} {keys : List String}
    (all : ∀ key ∈ keys, hasText table key = true) : addMissing table keys = (table, 0) := by
  rw [addMissing_eq]
  induction keys with
  | nil => rfl
  | cons key rest ih =>
    obtain ⟨has, others⟩ := List.forall_mem_cons.mp all
    rw [List.foldl_cons, addKey, if_pos has]
    exact ih others

/-- A table that is not written is already as it is to be. -/
theorem filledTable_of_unwritten {file : TableFile} {kind : ChangeKind}
    (opened : catalogue.openTable tree (need.path catalogue) = .ok (file, kind))
    (none : (catalogue.fillTable options tree need).change = none) :
    filledTable options need file.table = file.table := by
  rw [change_fillTable, opened] at none
  dsimp only at none
  split at none
  · rename_i idle
    unfold filledTable
    rw [translate_eq, snd_foldl_translateStep.2 idle.2,
      addMissing_of_complete ((completed_addMissing _ _).2.mp idle.1)]
  · cases none

theorem local_fillTable : Local catalogue (catalogue.fillTable options) := by
  refine ⟨fun tree other need same => ?_, fun tree need change path text h => ?_⟩
  · have opened : catalogue.openTable tree (need.path catalogue) =
        catalogue.openTable other (need.path catalogue) := by
      rw [openTable_eq, openTable_eq, same]
    unfold Need.path at opened
    unfold fillTable
    dsimp only
    rw [opened]
  · obtain ⟨file, kind, -, same, -⟩ := change_fillTable_eq_some h
    exact same

end Phrasebook.Catalogue
