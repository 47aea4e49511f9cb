import Phrasebook.Catalogue.Update
import Phrasebook.Proofs.Updates

/-!
# Needed tables

Which tables a program needs, and what a table holds once every key that it needs has a text.

- `mem_needs_iff`, `pairwise_needs`: the needed tables are the namespaces in the languages, each
  once;
- `Completed`: a table with placeholders for the keys that had no text;
- `completed_addMissing`: such a table comes out.
-/

namespace Phrasebook.Catalogue

/-! ## The tables -/

/-- The keys of a namespace that are looked up, in order. -/
def keysIn (identities : List Identity) (space : String) : List String :=
  (identities.filter fun identity => identity.space = space).map Identity.key

theorem keysIn_ne_nil_iff {identities : List Identity} {space : String} :
    keysIn identities space ≠ [] ↔ ∃ identity ∈ identities, identity.space = space := by
  unfold keysIn
  simp

theorem get?_groups (identities : List Identity) (space : String) :
    (groups identities).get? space =
      if keysIn identities space = [] then none else some (keysIn identities space) := by
  have gathered : groups identities =
      (identities.map fun identity => (identity.space, identity.key)).foldl
        OrderedMap.push .empty := by
    rw [List.foldl_map]
    rfl
  have keys : OrderedMap.valuesOf space (identities.map fun identity =>
      (identity.space, identity.key)) = keysIn identities space := by
    simp [OrderedMap.valuesOf, keysIn, List.filter_map, Function.comp_def]
  rw [gathered, OrderedMap.get?_foldl_push, keys]
  rfl

theorem mem_groups_iff {identities : List Identity} {space : String} {keys : List String} :
    (space, keys) ∈ (groups identities).entries ↔
      (∃ identity ∈ identities, identity.space = space) ∧ keys = keysIn identities space := by
  rw [OrderedMap.mem_entries_iff, get?_groups, ← keysIn_ne_nil_iff]
  split
  · rename_i none
    simp [none]
  · rename_i some
    simp [some, eq_comm]

theorem mem_keys_groups_iff {identities : List Identity} {space : String} :
    space ∈ (groups identities).keys ↔ ∃ identity ∈ identities, identity.space = space := by
  rw [OrderedMap.mem_keys_iff]
  constructor
  · rintro ⟨keys, found⟩
    exact (mem_groups_iff.mp (OrderedMap.mem_entries_iff.mpr found)).1
  · intro used
    exact ⟨_, OrderedMap.mem_entries_iff.mp (mem_groups_iff.mpr ⟨used, rfl⟩)⟩

theorem mem_needs_iff {identities : List Identity} {languages : List String} {need : Need} :
    need ∈ needs identities languages ↔
      ((∃ identity ∈ identities, identity.space = need.space) ∧ need.language ∈ languages) ∧
        need.keys = keysIn identities need.space := by
  obtain ⟨space, language, keys⟩ := need
  unfold needs
  rw [List.mem_flatMap]
  constructor
  · rintro ⟨⟨space', keys'⟩, group, h⟩
    obtain ⟨language', known, same⟩ := List.mem_map.mp h
    cases same
    obtain ⟨used, keys⟩ := mem_groups_iff.mp group
    exact ⟨⟨used, known⟩, keys⟩
  · rintro ⟨⟨used, known⟩, keys⟩
    exact ⟨(space, _), mem_groups_iff.mpr ⟨used, keys⟩, List.mem_map.mpr ⟨language, known, rfl⟩⟩

theorem keys_ne_nil_of_mem_needs {identities : List Identity} {languages : List String}
    {need : Need} (h : need ∈ needs identities languages) : need.keys ≠ [] := by
  obtain ⟨⟨used, -⟩, keys⟩ := mem_needs_iff.mp h
  rw [keys]
  exact keysIn_ne_nil_iff.mpr used

theorem known_of_mem_needs {known : String → Prop} {identities : List Identity}
    {languages : List String} {need : Need} (keys : ∀ identity ∈ identities, known identity.key)
    (here : need ∈ needs identities languages) : ∀ key ∈ need.keys, known key := by
  intro key needed
  rw [(mem_needs_iff.mp here).2] at needed
  obtain ⟨identity, used, rfl⟩ := List.mem_map.mp needed
  exact keys identity (List.mem_filter.mp used).1

/-- A statement about all needed tables is one about all namespaces in all languages. -/
theorem forall_needs_iff {catalogue : Catalogue} {identities : List Identity}
    {languages : List String} {property : Path → List String → Prop} :
    (∀ need ∈ needs identities languages, property (need.path catalogue) need.keys) ↔
      ∀ identity ∈ identities, ∀ language ∈ languages,
        property (catalogue.filePath identity.space language)
          (keysIn identities identity.space) := by
  constructor
  · intro all identity used language known
    exact all ⟨identity.space, language, keysIn identities identity.space⟩
      (mem_needs_iff.mpr ⟨⟨⟨identity, used, rfl⟩, known⟩, rfl⟩)
  · intro all need h
    obtain ⟨⟨⟨identity, used, same⟩, known⟩, keys⟩ := mem_needs_iff.mp h
    have here := all identity used need.language known
    rwa [same, ← keys] at here

/-- No table is needed twice. -/
theorem pairwise_needs {identities : List Identity} {languages : List String}
    (distinct : languages.Nodup) : (needs identities languages).Pairwise Need.Apart := by
  unfold needs
  rw [List.pairwise_flatMap]
  constructor
  · rintro ⟨space, keys⟩ -
    rw [List.pairwise_map]
    exact distinct.imp fun other same => other same.2
  · have apart := (groups identities).distinct
    unfold List.Nodup at apart
    rw [List.pairwise_map] at apart
    refine apart.imp fun {first second} other need h need' h' same => ?_
    obtain ⟨language, -, rfl⟩ := List.mem_map.mp h
    obtain ⟨language', -, rfl⟩ := List.mem_map.mp h'
    exact other same.1

/-! ## Their keys -/

/-- The table with every required key that had no text standing for itself. New keys follow the
others in the order in which they are first required. -/
structure Completed (table : Table) (required : List String) (completed : Table) : Prop where
  keys : completed.keys =
    table.keys ++ (required.filter fun key => key ∉ table.keys).eraseDups
  filled : ∀ key ∈ required, hasText table key = false → completed.get? key = some key
  kept : ∀ key, key ∉ required ∨ hasText table key = true →
    completed.get? key = table.get? key

theorem hasText_iff {table : Table} {key : String} :
    hasText table key = true ↔ ∃ value, table.get? key = some value ∧ value ≠ "" := by
  unfold hasText
  cases table.get? key with
  | none => simp
  | some value => simp

theorem text_eq_empty_of_hasText {table : Table} {key : String} (h : hasText table key = false) :
    (table.get? key).getD "" = "" := by
  unfold hasText at h
  cases found : table.get? key with
  | none => rfl
  | some value =>
    rw [found] at h
    simpa using h

theorem mem_keys_of_hasText {table : Table} {key : String} (h : hasText table key = true) :
    key ∈ table.keys := by
  obtain ⟨value, found, -⟩ := hasText_iff.mp h
  exact OrderedMap.mem_keys_iff.mpr ⟨value, found⟩

theorem hasText_congr {table other : Table} {key : String} (h : table.get? key = other.get? key) :
    hasText table key = hasText other key := by
  unfold hasText
  rw [h]

/-- Only the empty key lacks a text in a completed table: it stands for itself. -/
theorem Completed.lacks_iff {table completed : Table} {required : List String}
    (h : Completed table required completed) :
    (∃ key ∈ required, hasText completed key = false) ↔
      "" ∈ required ∧ hasText table "" = false := by
  constructor
  · rintro ⟨key, needed, empty⟩
    cases has : hasText table key with
    | true =>
      rw [hasText_congr (h.kept key (.inr has)), has] at empty
      cases empty
    | false =>
      -- A key is its own placeholder, which is empty only for the empty key.
      have none : key = "" := by
        unfold hasText at empty
        rw [h.filled key needed has] at empty
        simpa using empty
      exact none ▸ ⟨needed, has⟩
  · rintro ⟨needed, empty⟩
    refine ⟨"", needed, ?_⟩
    unfold hasText
    rw [h.filled "" needed empty]
    rfl

/-- All texts of a completed table are known if those of the table and the keys are. -/
theorem Completed.all_known {known : String → Prop} {table completed : Table}
    {required : List String} (h : Completed table required completed)
    (before : ∀ entry ∈ table.entries, known entry.1 ∧ known entry.2)
    (keys : ∀ key ∈ required, known key) :
    ∀ entry ∈ completed.entries, known entry.1 ∧ known entry.2 := by
  rintro ⟨key, value⟩ here
  have found := OrderedMap.mem_entries_iff.mp here
  by_cases new : key ∈ required ∧ hasText table key = false
  · rw [h.filled key new.1 new.2] at found
    cases found
    exact ⟨keys key new.1, keys key new.1⟩
  · have old := h.kept key (by
      by_cases needed : key ∈ required
      · exact .inr (by simpa using mt (And.intro needed) new)
      · exact .inl needed)
    rw [old] at found
    exact before (key, value) (OrderedMap.mem_entries_iff.mpr found)

/-- A key that has a text needs no placeholder. -/
theorem Completed.cons_of_hasText {table completed : Table} {key : String} {rest : List String}
    (has : hasText table key = true) (h : Completed table rest completed) :
    Completed table (key :: rest) completed := by
  refine ⟨?_, fun other needed empty => ?_, fun other untouched => ?_⟩
  · rw [List.filter_cons, if_neg (by simpa using mem_keys_of_hasText has)]
    exact h.keys
  · rcases List.mem_cons.mp needed with rfl | later
    · rw [has] at empty
      cases empty
    · exact h.filled other later empty
  · exact h.kept other (untouched.imp_left fun new later => new (List.mem_cons_of_mem _ later))

/-- A key without a text stands for itself, and is known to the keys that follow. -/
theorem Completed.cons_of_empty {table completed : Table} {key : String} {rest : List String}
    (empty : hasText table key = false) (h : Completed (table.insert key key) rest completed) :
    Completed table (key :: rest) completed := by
  have others {other : String} (apart : other ≠ key) :
      (table.insert key key).get? other = table.get? other :=
    OrderedMap.get?_insert_of_ne (Ne.symm apart)
  refine ⟨?_, fun other needed none => ?_, fun other untouched => ?_⟩
  · -- The keys are those of the table, and behind them the new ones in their order.
    rw [h.keys, OrderedMap.keys_insert, List.filter_cons]
    by_cases known : key ∈ table.keys
    · rw [if_pos known, if_neg (by simpa using known)]
    · rw [if_neg known, if_pos (by simpa using known), List.eraseDups_cons, List.filter_filter,
        List.append_assoc, List.singleton_append]
      congr 4
      funext other
      rw [Bool.eq_iff_iff]
      simp [not_or, and_comm]
  · -- A key that lacks its text still is filled by a later step; another was filled by this one.
    by_cases refilled : other ∈ rest ∧ hasText (table.insert key key) other = false
    · exact h.filled other refilled.1 refilled.2
    · have kept := h.kept other (by
        by_cases later : other ∈ rest
        · exact .inr (by simpa using mt (And.intro later) refilled)
        · exact .inl later)
      rw [kept]
      rcases List.mem_cons.mp needed with rfl | later
      · exact OrderedMap.get?_insert_self
      · by_cases same : other = key
        · rw [same]
          exact OrderedMap.get?_insert_self
        · rw [hasText_congr (others same)] at refilled
          exact absurd ⟨later, none⟩ refilled
  · -- A key that is not touched is not the one that was filled.
    have apart : other ≠ key := by
      rintro rfl
      rcases untouched with new | has
      · exact new List.mem_cons_self
      · rw [has] at empty
        cases empty
    rw [← others apart]
    refine h.kept other ?_
    rw [hasText_congr (others apart)]
    exact untouched.imp_left fun new later => new (List.mem_cons_of_mem _ later)

/-- One step of `addMissing`. -/
def addKey (progress : Table × Nat) (key : String) : Table × Nat :=
  if hasText progress.1 key then progress else (progress.1.insert key key, progress.2 + 1)

theorem addMissing_eq (table : Table) (keys : List String) :
    addMissing table keys = keys.foldl addKey (table, 0) := rfl

theorem completed_foldl_addKey (required : List String) (progress : Table × Nat) :
    Completed progress.1 required (required.foldl addKey progress).1 ∧
      progress.2 ≤ (required.foldl addKey progress).2 ∧
        ((required.foldl addKey progress).2 = progress.2 ↔
          ∀ key ∈ required, hasText progress.1 key = true) := by
  induction required generalizing progress with
  | nil =>
    refine ⟨⟨(List.append_nil _).symm, nofun, fun _ _ => rfl⟩, Nat.le_refl _, ?_⟩
    simp
  | cons key rest ih =>
    rw [List.foldl_cons, List.forall_mem_cons, addKey]
    by_cases has : hasText progress.1 key = true
    · obtain ⟨completed, grown, count⟩ := ih progress
      rw [if_pos has, and_iff_right has]
      exact ⟨completed.cons_of_hasText has, grown, count⟩
    · -- A placeholder is set and counted, and the count never falls again.
      obtain ⟨completed, grown, -⟩ := ih (progress.1.insert key key, progress.2 + 1)
      rw [if_neg has]
      dsimp only at grown
      refine ⟨completed.cons_of_empty (by simpa using has), by omega, ?_⟩
      constructor
      · intro same
        omega
      · intro all
        exact absurd all.1 has

/-- Keys that have no text get one, and they are counted. -/
theorem completed_addMissing (table : Table) (required : List String) :
    Completed table required (addMissing table required).1 ∧
      ((addMissing table required).2 = 0 ↔ ∀ key ∈ required, hasText table key = true) := by
  obtain ⟨completed, -, count⟩ := completed_foldl_addKey required (table, 0)
  rw [addMissing_eq]
  exact ⟨completed, count⟩

theorem fst_foldl_addKey_of_present {table : Table} {required : List String} {count : Nat}
    (present : ∀ key ∈ required, hasText table key = true ∨ table.get? key = some key) :
    (required.foldl addKey (table, count)).1 = table := by
  induction required generalizing count with
  | nil => rfl
  | cons key rest ih =>
    obtain ⟨here, later⟩ := List.forall_mem_cons.mp present
    rw [List.foldl_cons, addKey]
    split
    · exact ih later
    · rename_i empty
      rw [OrderedMap.insert_of_get? (here.resolve_left empty)]
      exact ih later

/-- A completed table stays as it is when it is completed again, even if the empty key counts as
missing again. -/
theorem addMissing_addMissing (table : Table) (required : List String) :
    (addMissing (addMissing table required).1 required).1 = (addMissing table required).1 := by
  have completed := (completed_addMissing table required).1
  rw [addMissing_eq (addMissing table required).1]
  refine fst_foldl_addKey_of_present fun key needed => ?_
  cases has : hasText table key with
  | true => exact .inl ((hasText_congr (completed.kept key (.inr has))).trans has)
  | false => exact .inr (completed.filled key needed has)

end Phrasebook.Catalogue
