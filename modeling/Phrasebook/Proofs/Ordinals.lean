import Mathlib
import Phrasebook.Numbering
import Phrasebook.Proofs.OrderedMap

/-!
# Ordinals

The numbers that `Numbering.assign` gives to texts. In each namespace they grow, and none reads like
a key that calls use as it is.

- `firstFree_steps`: the search for a free number ends at the first one;
- `pairwise_assign`: the numbers of a namespace grow in the order of its texts;
- `assigned_or_literal`: only numbers that read like such keys are left out;
- `keyOf_inj`: two known texts of a namespace are never written alike.
-/

namespace Phrasebook.Numbering

/-! ## Free numbers -/

/-- Among one number more than there are keys, one does not read like a key. -/
theorem exists_free (keys : List String) (start : Nat) :
    ∃ number ∈ List.range' start (keys.length + 1), toString number ∉ keys := by
  refine Decidable.byContradiction fun none => ?_
  have taken : (List.range' start (keys.length + 1)).map toString ⊆ keys := by
    intro text h
    obtain ⟨number, inRange, rfl⟩ := List.mem_map.mp h
    exact Decidable.byContradiction fun free => none ⟨number, inRange, free⟩
  have distinct : ((List.range' start (keys.length + 1)).map toString).Nodup := by
    refine List.pairwise_map.mpr (List.Pairwise.imp (fun differ same => ?_) List.nodup_range')
    exact differ (Nat.repr_inj.mp same)
  have tooMany := distinct.length_le_of_subset taken
  rw [List.length_map, List.length_range'] at tooMany
  exact Nat.not_succ_le_self _ tooMany

/-- The search goes so many steps: it ends at the first number that does not read like a key, and no
key stops it twice. -/
theorem firstFree_steps (keys : List String) (start : Nat) :
    ∃ steps ≤ keys.length, firstFree keys start = start + steps ∧
      toString (start + steps) ∉ keys ∧ ∀ earlier < steps, toString (start + earlier) ∈ keys := by
  unfold firstFree
  cases found : (List.range' start (keys.length + 1)).find? fun number =>
      !keys.contains (toString number) with
  | none =>
    obtain ⟨number, inRange, free⟩ := exists_free keys start
    have taken := List.find?_eq_none.mp found number inRange
    exact absurd (by simpa using taken) free
  | some number =>
    obtain ⟨free, inRange, before⟩ := List.find?_range'_eq_some.mp found
    obtain ⟨low, high⟩ := List.mem_range'_1.mp inRange
    obtain ⟨steps, rfl⟩ := Nat.exists_eq_add_of_le low
    refine ⟨steps, by omega, rfl, by simpa using free, fun earlier early => ?_⟩
    simpa using before (start + earlier) (Nat.le_add_right _ _) (Nat.add_lt_add_left early start)

/-- The number that is found is not below the one at which the search starts. -/
theorem le_firstFree (keys : List String) (start : Nat) : start ≤ firstFree keys start := by
  obtain ⟨steps, -, found, -⟩ := firstFree_steps keys start
  exact found ▸ Nat.le_add_right _ _

/-- The number that is found does not read like a key. -/
theorem firstFree_not_mem (keys : List String) (start : Nat) :
    toString (firstFree keys start) ∉ keys := by
  obtain ⟨steps, -, found, free, -⟩ := firstFree_steps keys start
  exact found ▸ free

/-- All numbers before the one that is found read like keys. -/
theorem mem_of_lt_firstFree {keys : List String} {start number : Nat} (low : start ≤ number)
    (before : number < firstFree keys start) : toString number ∈ keys := by
  obtain ⟨steps, -, found, -, taken⟩ := firstFree_steps keys start
  obtain ⟨earlier, rfl⟩ := Nat.exists_eq_add_of_le low
  exact taken earlier (by omega)

/-! ## Numbers one by one -/

section Assign

variable {literal : String → List String}

theorem map_fst_assign (next : OrderedMap String Nat) (texts : List (Identity × List String)) :
    (assign literal next texts).map Prod.fst = texts.map Prod.fst := by
  induction texts generalizing next with
  | nil => rfl
  | cons text rest ih =>
    obtain ⟨identity, known⟩ := text
    rw [assign, List.map_cons, ih, List.map_cons]

/-- Numbers come with the languages of their texts. -/
theorem translatedIn_assign (next : OrderedMap String Nat)
    (texts : List (Identity × List String)) :
    (assign literal next texts).map (fun text => (text.1, text.2.translatedIn)) = texts := by
  induction texts generalizing next with
  | nil => rfl
  | cons text rest ih =>
    obtain ⟨identity, known⟩ := text
    rw [assign, List.map_cons, ih]

theorem not_literal_of_mem_assign {next : OrderedMap String Nat}
    {texts : List (Identity × List String)} {text : Identity × NumberedText}
    (h : text ∈ assign literal next texts) :
    toString text.2.ordinal ∉ literal text.1.space := by
  induction texts generalizing next with
  | nil => cases h
  | cons first rest ih =>
    obtain ⟨identity, known⟩ := first
    rw [assign] at h
    rcases List.mem_cons.mp h with rfl | later
    · exact firstFree_not_mem _ _
    · exact ih later

/-- No number is below the next one of its namespace. -/
theorem next_le_of_mem_assign {next : OrderedMap String Nat}
    {texts : List (Identity × List String)} {text : Identity × NumberedText}
    (h : text ∈ assign literal next texts) :
    (next.get? text.1.space).getD 0 ≤ text.2.ordinal := by
  induction texts generalizing next with
  | nil => cases h
  | cons first rest ih =>
    obtain ⟨identity, known⟩ := first
    rw [assign] at h
    rcases List.mem_cons.mp h with rfl | later
    · exact le_firstFree _ _
    · have bound := ih later
      by_cases same : identity.space = text.1.space
      · rw [same, OrderedMap.get?_insert_self, Option.getD_some] at bound
        exact Nat.le_trans (le_firstFree _ _) (Nat.le_of_succ_le bound)
      · rwa [OrderedMap.get?_insert_of_ne same] at bound

/-- The numbers of a namespace grow in the order of its texts. -/
theorem pairwise_assign (next : OrderedMap String Nat) (texts : List (Identity × List String)) :
    (assign literal next texts).Pairwise fun text later =>
      text.1.space = later.1.space → text.2.ordinal < later.2.ordinal := by
  induction texts generalizing next with
  | nil => exact .nil
  | cons first rest ih =>
    obtain ⟨identity, known⟩ := first
    rw [assign]
    refine .cons (fun later h same => ?_) (ih _)
    have bound := next_le_of_mem_assign h
    rw [← same, OrderedMap.get?_insert_self, Option.getD_some] at bound
    exact bound

/-- A number that is passed over on the way to a text of its namespace reads like a key that is left
out. -/
theorem assigned_or_literal {next : OrderedMap String Nat}
    {texts : List (Identity × List String)} {text : Identity × NumberedText}
    (h : text ∈ assign literal next texts) {number : Nat}
    (low : (next.get? text.1.space).getD 0 ≤ number) (before : number < text.2.ordinal) :
    (∃ other ∈ assign literal next texts,
        other.1.space = text.1.space ∧ other.2.ordinal = number) ∨
      toString number ∈ literal text.1.space := by
  induction texts generalizing next with
  | nil => cases h
  | cons first rest ih =>
    obtain ⟨identity, known⟩ := first
    rw [assign] at h ⊢
    rcases List.mem_cons.mp h with rfl | later
    · exact .inr (mem_of_lt_firstFree low before)
    · by_cases same : identity.space = text.1.space
      · -- The number lies before that of the first text, is that number, or lies behind it.
        rcases Nat.lt_trichotomy number
            (firstFree (literal identity.space) ((next.get? identity.space).getD 0)) with
          less | equal | more
        · exact .inr (same ▸ mem_of_lt_firstFree (same ▸ low) less)
        · exact .inl ⟨_, List.mem_cons_self, same, equal.symm⟩
        · refine (ih later ?_).imp_left
            (Exists.imp fun other => And.imp_left (List.mem_cons_of_mem _))
          rw [same, OrderedMap.get?_insert_self, Option.getD_some, ← same]
          exact more
      · refine (ih later ?_).imp_left
          (Exists.imp fun other => And.imp_left (List.mem_cons_of_mem _))
        rw [OrderedMap.get?_insert_of_ne same]
        exact low

end Assign

/-! ## Texts of a coverage -/

variable {coverage : Coverage} {languages : List String}

theorem entries_ofCoverage :
    (ofCoverage coverage languages).texts.entries =
      assign (literalKeys coverage languages) .empty coverage.entries := by
  refine OrderedMap.entries_ofList ?_
  rw [map_fst_assign]
  exact coverage.distinct

theorem keys_ofCoverage : (ofCoverage coverage languages).texts.keys = coverage.keys := by
  rw [OrderedMap.keys, entries_ofCoverage, map_fst_assign]
  rfl

theorem mem_literalKeys_iff {space key : String} :
    key ∈ literalKeys coverage languages space ↔
      ∃ known, coverage.get? ⟨space, key⟩ = some known ∧ known.length ≠ languages.length := by
  unfold literalKeys
  rw [List.mem_filterMap]
  constructor
  · rintro ⟨⟨identity, known⟩, entry, found⟩
    obtain ⟨here, same⟩ := Option.ite_none_right_eq_some.mp found
    cases same
    simp only [Bool.and_eq_true, decide_eq_true_eq] at here
    exact ⟨known, here.1 ▸ OrderedMap.mem_entries_iff.mp entry, here.2⟩
  · rintro ⟨known, entry, short⟩
    exact ⟨(⟨space, key⟩, known), OrderedMap.mem_entries_iff.mpr entry, by simp [short]⟩

/-- A text has the languages that its coverage tells. -/
theorem get?_translatedIn {identity : Identity} {text : NumberedText}
    (h : (ofCoverage coverage languages).texts.get? identity = some text) :
    coverage.get? identity = some text.translatedIn := by
  have entry := OrderedMap.mem_entries_iff.mpr h
  rw [entries_ofCoverage] at entry
  have known := List.mem_map_of_mem (f := fun text => (text.1, text.2.translatedIn)) entry
  rw [translatedIn_assign] at known
  exact OrderedMap.mem_entries_iff.mp known

/-- No two texts of a namespace have the same number. -/
theorem nodup_ordinals :
    ((ofCoverage coverage languages).texts.entries.map fun text =>
      (text.1.space, text.2.ordinal)).Nodup := by
  rw [entries_ofCoverage]
  refine List.pairwise_map.mpr (List.Pairwise.imp (fun grows same => ?_) (pairwise_assign _ _))
  obtain ⟨here, equal⟩ := Prod.ext_iff.mp same
  exact Nat.ne_of_lt (grows here) equal

theorem ordinal_inj {space key other : String} {text found : NumberedText}
    (h : (ofCoverage coverage languages).texts.get? ⟨space, key⟩ = some text)
    (h' : (ofCoverage coverage languages).texts.get? ⟨space, other⟩ = some found)
    (same : text.ordinal = found.ordinal) : key = other := by
  have entry := OrderedMap.mem_entries_iff.mpr h
  have entry' := OrderedMap.mem_entries_iff.mpr h'
  have equal := List.inj_on_of_nodup_map nodup_ordinals entry entry' (by rw [same])
  exact congrArg (fun text => text.1.key) equal

/-- The number of a text does not read like a key of its namespace that calls use as it is. -/
theorem ordinal_ne_literal {space key other : String} {text found : NumberedText}
    (h : (ofCoverage coverage languages).texts.get? ⟨space, key⟩ = some text)
    (h' : (ofCoverage coverage languages).texts.get? ⟨space, other⟩ = some found)
    (short : found.translatedIn.length ≠ languages.length) : toString text.ordinal ≠ other := by
  rintro rfl
  have entry := OrderedMap.mem_entries_iff.mpr h
  rw [entries_ofCoverage] at entry
  exact not_literal_of_mem_assign entry
    (mem_literalKeys_iff.mpr ⟨_, get?_translatedIn h', short⟩)

/-! ## What calls write -/

section Find

variable {numbering : Numbering} {identity : Identity}

theorem find_eq_missing_iff :
    numbering.find identity = .missing ↔ identity ∉ numbering.texts.keys := by
  rw [← OrderedMap.get?_eq_none_iff, find]
  cases numbering.texts.get? identity with
  | none => exact ⟨fun _ => rfl, fun _ => rfl⟩
  | some text =>
    refine ⟨fun h => ?_, nofun⟩
    by_cases full : text.translatedIn.length = numbering.languages.length <;> simp [full] at h

theorem find_eq_mature_iff {ordinal : Nat} :
    numbering.find identity = .mature ordinal ↔
      ∃ text, numbering.texts.get? identity = some text ∧
        text.translatedIn.length = numbering.languages.length ∧ text.ordinal = ordinal := by
  rw [find]
  cases numbering.texts.get? identity with
  | none => simp
  | some text =>
    by_cases full : text.translatedIn.length = numbering.languages.length <;> simp [full]

theorem find_eq_immature_iff {text : NumberedText} :
    numbering.find identity = .immature text ↔
      numbering.texts.get? identity = some text ∧
        text.translatedIn.length ≠ numbering.languages.length := by
  rw [find]
  cases numbering.texts.get? identity with
  | none => simp
  | some found =>
    by_cases full : found.translatedIn.length = numbering.languages.length
    · simp only [full, if_true]
      refine ⟨nofun, fun h => ?_⟩
      cases h.1
      exact absurd full h.2
    · simp only [full, if_false]
      constructor
      · rintro ⟨⟩
        exact ⟨rfl, full⟩
      · rintro ⟨⟨⟩, -⟩
        rfl

theorem keyOf_mature {ordinal : Nat} (h : numbering.find identity = .mature ordinal) :
    numbering.keyOf identity = toString ordinal := by
  rw [keyOf, h]

theorem keyOf_literal (h : ∀ ordinal, numbering.find identity ≠ .mature ordinal) :
    numbering.keyOf identity = identity.key := by
  rw [keyOf]
  cases found : numbering.find identity with
  | missing => rfl
  | immature text => rfl
  | mature ordinal => exact absurd found (h ordinal)

end Find

/-- Two known texts of a namespace are never written alike. -/
theorem keyOf_inj {space key other : String}
    (known : (ofCoverage coverage languages).find ⟨space, key⟩ ≠ .missing)
    (known' : (ofCoverage coverage languages).find ⟨space, other⟩ ≠ .missing)
    (same : (ofCoverage coverage languages).keyOf ⟨space, key⟩ =
      (ofCoverage coverage languages).keyOf ⟨space, other⟩) : key = other := by
  cases found : (ofCoverage coverage languages).find ⟨space, key⟩ with
  | missing => exact absurd found known
  | immature text =>
    obtain ⟨h, short⟩ := find_eq_immature_iff.mp found
    cases found' : (ofCoverage coverage languages).find ⟨space, other⟩ with
    | missing => exact absurd found' known'
    | immature text' => simpa [keyOf, found, found'] using same
    | mature ordinal =>
      obtain ⟨text', h', -, rfl⟩ := find_eq_mature_iff.mp found'
      -- An ordinal never reads like a key that calls use as it is.
      refine absurd ?_ (ordinal_ne_literal h' h short)
      simpa [keyOf, found, found'] using same.symm
  | mature ordinal =>
    obtain ⟨text, h, -, rfl⟩ := find_eq_mature_iff.mp found
    cases found' : (ofCoverage coverage languages).find ⟨space, other⟩ with
    | missing => exact absurd found' known'
    | immature text' =>
      obtain ⟨h', short⟩ := find_eq_immature_iff.mp found'
      refine absurd ?_ (ordinal_ne_literal h h' short)
      simpa [keyOf, found, found'] using same
    | mature ordinal' =>
      obtain ⟨text', h', -, rfl⟩ := find_eq_mature_iff.mp found'
      rw [keyOf_mature found, keyOf_mature found'] at same
      exact ordinal_inj h h' (Nat.repr_inj.mp same)

end Phrasebook.Numbering
