import Phrasebook.OrderedMap

/-!
# Lookups in ordered maps

What `get?` finds in a map, and how `insert` and `ofList` change it.

- `get?_insert`, `keys_insert`: an insertion changes the value of its own key, and adds the key at
  the end if it is new;
- `mem_entries_iff`: the entries are the pairs that `get?` finds;
- `entries_ofList`: pairs with distinct keys are kept as they are;
- `push`, `pairs`: maps that gather all values of a key; `get?_foldl_push` and
  `perm_pairs_foldl_push` say what they hold once all values are in.
-/

namespace Phrasebook.OrderedMap

variable {κ ν : Type}

theorem ext_entries {map other : OrderedMap κ ν} (h : map.entries = other.entries) :
    map = other := by
  cases map
  cases other
  cases h
  rfl

@[simp] theorem keys_empty : (empty : OrderedMap κ ν).keys = [] := rfl

variable [DecidableEq κ]

/-! ## Pairs -/

theorem find?_eq_none_iff {key : κ} {entries : List (κ × ν)} :
    find? key entries = none ↔ key ∉ entries.map Prod.fst := by
  induction entries with
  | nil => simp [find?]
  | cons entry rest ih =>
    obtain ⟨known, value⟩ := entry
    by_cases h : known = key
    · simp [find?, h]
    · simp [find?, h, ih, Ne.symm h]

theorem mem_of_find? {key : κ} {value : ν} {entries : List (κ × ν)}
    (h : find? key entries = some value) : (key, value) ∈ entries := by
  induction entries with
  | nil => cases h
  | cons entry rest ih =>
    obtain ⟨known, old⟩ := entry
    by_cases same : known = key
    · rw [find?, if_pos same] at h
      cases h
      exact same ▸ List.mem_cons_self
    · rw [find?, if_neg same] at h
      exact List.mem_cons_of_mem _ (ih h)

/-- With distinct keys a pair is found under its key. -/
theorem find?_of_mem {key : κ} {value : ν} {entries : List (κ × ν)}
    (distinct : (entries.map Prod.fst).Nodup) (h : (key, value) ∈ entries) :
    find? key entries = some value := by
  induction entries with
  | nil => cases h
  | cons entry rest ih =>
    obtain ⟨known, old⟩ := entry
    obtain ⟨fresh, distinct⟩ := List.nodup_cons.mp distinct
    rcases List.mem_cons.mp h with same | later
    · cases same
      exact if_pos rfl
    · have other : known ≠ key := fun same =>
        fresh (same ▸ List.mem_map.mpr ⟨_, later, rfl⟩)
      rw [find?, if_neg other]
      exact ih distinct later

theorem find?_put {key other : κ} {value : ν} {entries : List (κ × ν)} :
    find? other (put key value entries) =
      if key = other then some value else find? other entries := by
  induction entries with
  | nil => simp [put, find?]
  | cons entry rest ih =>
    obtain ⟨known, old⟩ := entry
    by_cases same : known = key
    · subst same
      by_cases h : known = other
      · simp [put, find?, h]
      · simp [put, find?, h]
    · rw [put, if_neg same]
      by_cases h : known = other
      · have new : key ≠ other := fun eq => same (h.trans eq.symm)
        rw [find?, if_pos h, if_neg new, find?, if_pos h]
      · rw [find?, if_neg h, ih, find?, if_neg h]

theorem map_fst_put {key : κ} {value : ν} {entries : List (κ × ν)} :
    (put key value entries).map Prod.fst =
      if key ∈ entries.map Prod.fst then entries.map Prod.fst
      else entries.map Prod.fst ++ [key] := by
  induction entries with
  | nil => simp [put]
  | cons entry rest ih =>
    obtain ⟨known, old⟩ := entry
    by_cases same : known = key
    · simp [put, same]
    · simp only [put, if_neg same, List.map_cons, ih, List.mem_cons, Ne.symm same, false_or]
      split
      · rfl
      · rw [List.cons_append]

theorem put_of_new {key : κ} {value : ν} {entries : List (κ × ν)}
    (new : key ∉ entries.map Prod.fst) : put key value entries = entries ++ [(key, value)] := by
  induction entries with
  | nil => rfl
  | cons entry rest ih =>
    obtain ⟨known, old⟩ := entry
    simp only [List.map_cons, List.mem_cons, not_or] at new
    rw [put, if_neg (Ne.symm new.1), ih new.2, List.cons_append]

/-! ## Maps -/

/-- The entries are the pairs that are found. -/
theorem mem_entries_iff {map : OrderedMap κ ν} {key : κ} {value : ν} :
    (key, value) ∈ map.entries ↔ map.get? key = some value :=
  ⟨find?_of_mem map.distinct, mem_of_find?⟩

theorem mem_keys_iff {map : OrderedMap κ ν} {key : κ} :
    key ∈ map.keys ↔ ∃ value, map.get? key = some value := by
  rw [← Option.isSome_iff_exists, Option.isSome_iff_ne_none, ne_eq, get?, find?_eq_none_iff]
  exact Decidable.not_not.symm

theorem get?_eq_none_iff {map : OrderedMap κ ν} {key : κ} :
    map.get? key = none ↔ key ∉ map.keys := find?_eq_none_iff

theorem get?_insert {map : OrderedMap κ ν} {key other : κ} {value : ν} :
    (map.insert key value).get? other = if key = other then some value else map.get? other :=
  find?_put

@[simp] theorem get?_insert_self {map : OrderedMap κ ν} {key : κ} {value : ν} :
    (map.insert key value).get? key = some value := by
  rw [get?_insert, if_pos rfl]

theorem get?_insert_of_ne {map : OrderedMap κ ν} {key other : κ} {value : ν} (h : key ≠ other) :
    (map.insert key value).get? other = map.get? other := by
  rw [get?_insert, if_neg h]

theorem keys_insert {map : OrderedMap κ ν} {key : κ} {value : ν} :
    (map.insert key value).keys = if key ∈ map.keys then map.keys else map.keys ++ [key] :=
  map_fst_put

theorem mem_keys_insert {map : OrderedMap κ ν} {key other : κ} {value : ν} :
    other ∈ (map.insert key value).keys ↔ other = key ∨ other ∈ map.keys :=
  mem_map_fst_put

theorem put_of_known {key : κ} {value : ν} {entries : List (κ × ν)}
    (h : find? key entries = some value) : put key value entries = entries := by
  induction entries with
  | nil => cases h
  | cons entry rest ih =>
    obtain ⟨known, old⟩ := entry
    rw [find?] at h
    rw [put]
    split at h
    · cases h
      rw [if_pos (by assumption)]
    · rw [if_neg (by assumption), ih h]

/-- Nothing changes when a key gets the value that it has. -/
theorem insert_of_get? {map : OrderedMap κ ν} {key : κ} {value : ν}
    (h : map.get? key = some value) : map.insert key value = map :=
  ext_entries (put_of_known h)

/-- Where items set keys one after the other, the keys are those that the map had and then each
other one, where it comes first. -/
theorem keys_foldl_set {α : Type} (keyOf : α → κ) (valueOf : OrderedMap κ ν → α → ν)
    (items : List α) (map : OrderedMap κ ν) :
    (items.foldl (fun map item => map.insert (keyOf item) (valueOf map item)) map).keys =
      map.keys ++ ((items.map keyOf).filter fun key => key ∉ map.keys).eraseDups := by
  induction items generalizing map with
  | nil => exact (List.append_nil _).symm
  | cons item rest ih =>
    rw [List.foldl_cons, ih, keys_insert, List.map_cons]
    by_cases known : keyOf item ∈ map.keys
    · rw [if_pos known, List.filter_cons_of_neg (by simpa using known)]
    · rw [if_neg known, List.filter_cons_of_pos (by simpa using known), List.eraseDups_cons,
        List.append_assoc, List.singleton_append, List.filter_filter]
      -- Among the later keys those that are neither known nor the new one are left.
      congr 4
      funext key
      by_cases same : key = keyOf item <;> simp [same]

/-! ## Maps of given pairs -/

/-- Inserting pairs with new and distinct keys appends them. -/
theorem entries_foldl_insert (pairs : List (κ × ν)) (map : OrderedMap κ ν)
    (h : (map.keys ++ pairs.map Prod.fst).Nodup) :
    (pairs.foldl (fun map pair => map.insert pair.1 pair.2) map).entries =
      map.entries ++ pairs := by
  induction pairs generalizing map with
  | nil => exact (List.append_nil _).symm
  | cons pair rest ih =>
    have new : pair.1 ∉ map.keys := fun known =>
      (List.nodup_append.mp h).2.2 pair.1 known pair.1 List.mem_cons_self rfl
    have entries : (map.insert pair.1 pair.2).entries = map.entries ++ [pair] := put_of_new new
    have keys : (map.insert pair.1 pair.2).keys = map.keys ++ [pair.1] := by
      rw [keys_insert, if_neg new]
    rw [List.foldl_cons, ih _ (by rwa [keys, List.append_assoc]), entries, List.append_assoc]
    rfl

/-- Pairs with distinct keys are kept as they are. -/
theorem entries_ofList {pairs : List (κ × ν)} (h : (pairs.map Prod.fst).Nodup) :
    (ofList pairs).entries = pairs :=
  entries_foldl_insert pairs empty h

theorem mem_keys_ofList {pairs : List (κ × ν)} {key : κ} :
    key ∈ (ofList pairs).keys ↔ key ∈ pairs.map Prod.fst := by
  have keys := keys_foldl_set Prod.fst (fun _ pair => pair.2) pairs (empty : OrderedMap κ ν)
  rw [keys_empty, List.nil_append] at keys
  show key ∈ (pairs.foldl _ empty).keys ↔ _
  rw [keys, List.mem_eraseDups, List.mem_filter]
  simp

/-- A key for which all pairs agree gets their value; one that has no pair keeps its own. -/
theorem get?_foldl_insert {pairs : List (κ × ν)} {key : κ} {value : ν} (map : OrderedMap κ ν)
    (one : ∀ value other, (key, value) ∈ pairs → (key, other) ∈ pairs → value = other) :
    (pairs.foldl (fun map pair => map.insert pair.1 pair.2) map).get? key = some value ↔
      (key, value) ∈ pairs ∨ key ∉ pairs.map Prod.fst ∧ map.get? key = some value := by
  induction pairs generalizing map with
  | nil => simp
  | cons pair rest ih =>
    obtain ⟨known, first⟩ := pair
    rw [List.foldl_cons, ih _ fun value other h h' =>
      one value other (List.mem_cons_of_mem _ h) (List.mem_cons_of_mem _ h'), get?_insert]
    by_cases same : known = key
    · subst same
      have agree {other : ν} (h : (known, other) ∈ rest) : first = other :=
        one first other List.mem_cons_self (List.mem_cons_of_mem _ h)
      by_cases again : known ∈ rest.map Prod.fst
      · -- The key comes again, with the same value.
        obtain ⟨⟨_, other⟩, among, rfl⟩ := List.mem_map.mp again
        obtain rfl := agree among
        simp only [List.map_cons, List.mem_cons, Prod.mk.injEq, true_and, again, not_true,
          or_true, false_and, or_false]
        exact ⟨.inr, fun h => h.elim (fun same => same ▸ among) id⟩
      · -- The key comes only here, so the value stays.
        have none (value : ν) : (known, value) ∉ rest := fun h =>
          again (List.mem_map_of_mem h)
        simp [again, none, eq_comm]
    · simp [same, Ne.symm same]

/-- Where all pairs agree on the value of a key, the map holds the pairs for it. -/
theorem get?_ofList_eq_some_iff {pairs : List (κ × ν)} {key : κ} {value : ν}
    (one : ∀ value other, (key, value) ∈ pairs → (key, other) ∈ pairs → value = other) :
    (ofList pairs).get? key = some value ↔ (key, value) ∈ pairs :=
  (get?_foldl_insert empty one).trans (or_iff_left fun h => nomatch h.2)

/-! ## Maps of lists -/

/-- The map with one more value at the end of those of a key. -/
def push (map : OrderedMap κ (List ν)) (pair : κ × ν) : OrderedMap κ (List ν) :=
  map.insert pair.1 ((map.get? pair.1).getD [] ++ [pair.2])

/-- Every value with its key. -/
def pairs (map : OrderedMap κ (List ν)) : List (κ × ν) :=
  map.entries.flatMap fun entry => entry.2.map (entry.1, ·)

/-- The values of a key among some pairs, in order. -/
def valuesOf (key : κ) (pairs : List (κ × ν)) : List ν :=
  (pairs.filter fun pair => pair.1 = key).map Prod.snd

theorem valuesOf_cons {key : κ} {pair : κ × ν} {rest : List (κ × ν)} :
    valuesOf key (pair :: rest) =
      if pair.1 = key then pair.2 :: valuesOf key rest else valuesOf key rest := by
  unfold valuesOf
  split
  · rw [List.filter_cons_of_pos (by simpa), List.map_cons]
  · rw [List.filter_cons_of_neg (by simpa)]

/-- Under each key that it is given a map gathers the values, behind those that it has. -/
theorem get?_foldl_push (added : List (κ × ν)) (map : OrderedMap κ (List ν)) (key : κ) :
    (added.foldl push map).get? key =
      if valuesOf key added = [] then map.get? key
      else some ((map.get? key).getD [] ++ valuesOf key added) := by
  induction added generalizing map with
  | nil => rfl
  | cons pair rest ih =>
    rw [List.foldl_cons, ih, push, valuesOf_cons]
    by_cases here : pair.1 = key
    · subst here
      by_cases last : valuesOf pair.1 rest = []
      · simp [last]
      · simp [last]
    · rw [get?_insert_of_ne here, if_neg here]

theorem mem_keys_foldl_push {added : List (κ × ν)} {map : OrderedMap κ (List ν)} {key : κ} :
    key ∈ (added.foldl push map).keys ↔ key ∈ map.keys ∨ key ∈ added.map Prod.fst := by
  induction added generalizing map with
  | nil => simp
  | cons pair rest ih =>
    rw [List.foldl_cons, ih, push, mem_keys_insert, List.map_cons, List.mem_cons]
    exact or_assoc.trans or_left_comm

theorem perm_flatMap_put {key : κ} {value : ν} {entries : List (κ × List ν)} :
    ((put key ((find? key entries).getD [] ++ [value]) entries).flatMap
        fun entry => entry.2.map (entry.1, ·)).Perm
      ((entries.flatMap fun entry => entry.2.map (entry.1, ·)) ++ [(key, value)]) := by
  induction entries with
  | nil => exact .refl _
  | cons entry rest ih =>
    obtain ⟨known, values⟩ := entry
    by_cases same : known = key
    · subst same
      rw [put, if_pos rfl, find?, if_pos rfl]
      simp only [Option.getD_some, List.flatMap_cons, List.map_append, List.append_assoc]
      exact List.perm_append_comm.append_left _
    · rw [put, if_neg same, find?, if_neg same]
      simp only [List.flatMap_cons, List.append_assoc]
      exact ih.append_left _

/-- A map that gathers values holds each pair that it is given, just as often. -/
theorem perm_pairs_foldl_push (added : List (κ × ν)) (map : OrderedMap κ (List ν)) :
    (added.foldl push map).pairs.Perm (map.pairs ++ added) := by
  induction added generalizing map with
  | nil => rw [List.append_nil]; exact .refl _
  | cons pair rest ih =>
    rw [List.foldl_cons, List.append_cons]
    exact (ih _).trans (perm_flatMap_put.append_right _)

end Phrasebook.OrderedMap
