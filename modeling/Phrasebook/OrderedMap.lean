/-!
# Ordered maps

A map that remembers the order in which its keys were first inserted.

- `OrderedMap`: pairs of distinct keys and values;
- `OrderedMap.insert`: a known key keeps its place, a new one goes to the end;
- `OrderedMap.get?`, `OrderedMap.contains`, `OrderedMap.keys`: views.
-/

namespace Phrasebook

/-- Pairs of distinct keys and values, in insertion order. -/
structure OrderedMap (κ ν : Type) where
  entries : List (κ × ν)
  distinct : (entries.map Prod.fst).Nodup
deriving Repr

namespace OrderedMap

variable {κ ν : Type} [DecidableEq κ]

/-- The map without entries. -/
def empty : OrderedMap κ ν := ⟨[], by simp⟩

instance : Inhabited (OrderedMap κ ν) := ⟨empty⟩

/-- The keys in insertion order. -/
def keys (map : OrderedMap κ ν) : List κ := map.entries.map Prod.fst

/-- The number of entries. -/
def size (map : OrderedMap κ ν) : Nat := map.entries.length

/-- Whether there are no entries. -/
def isEmpty (map : OrderedMap κ ν) : Bool := map.entries.isEmpty

/-- The value of `key` in a list of pairs. -/
def find? (key : κ) : List (κ × ν) → Option ν
  | [] => none
  | (known, value) :: rest => if known = key then some value else find? key rest

/-- The value of `key`. -/
def get? (map : OrderedMap κ ν) (key : κ) : Option ν := find? key map.entries

/-- Whether `key` has a value. -/
def contains (map : OrderedMap κ ν) (key : κ) : Bool := (map.get? key).isSome

/-- The pairs with the value of `key` set: in place if there is one, at the end otherwise. -/
def put (key : κ) (value : ν) : List (κ × ν) → List (κ × ν)
  | [] => [(key, value)]
  | (known, old) :: rest =>
    if known = key then (known, value) :: rest else (known, old) :: put key value rest

theorem mem_map_fst_put {key other : κ} {value : ν} {entries : List (κ × ν)} :
    other ∈ (put key value entries).map Prod.fst ↔ other = key ∨ other ∈ entries.map Prod.fst := by
  induction entries with
  | nil => simp [put]
  | cons entry rest ih =>
    obtain ⟨known, old⟩ := entry
    by_cases h : known = key
    · subst h
      simp [put]
    · simp only [put, h, if_false, List.map_cons, List.mem_cons, ih]
      constructor
      · rintro (rfl | rfl | h')
        · exact .inr (.inl rfl)
        · exact .inl rfl
        · exact .inr (.inr h')
      · rintro (rfl | rfl | h')
        · exact .inr (.inl rfl)
        · exact .inl rfl
        · exact .inr (.inr h')

theorem nodup_put {key : κ} {value : ν} {entries : List (κ × ν)}
    (h : (entries.map Prod.fst).Nodup) : ((put key value entries).map Prod.fst).Nodup := by
  induction entries with
  | nil => simp [put]
  | cons entry rest ih =>
    obtain ⟨known, old⟩ := entry
    simp only [List.map_cons, List.nodup_cons] at h
    by_cases same : known = key
    · simp only [put, same, if_true, List.map_cons, List.nodup_cons]
      exact ⟨same ▸ h.1, h.2⟩
    · rw [put, if_neg same, List.map_cons, List.nodup_cons, mem_map_fst_put]
      exact ⟨fun other => other.elim same h.1, ih h.2⟩

/-- Set the value of `key`: in place if there is one, at the end otherwise. -/
def insert (map : OrderedMap κ ν) (key : κ) (value : ν) : OrderedMap κ ν :=
  ⟨put key value map.entries, nodup_put map.distinct⟩

/-- The map of a list of pairs; a later pair overwrites the value of an earlier one in place. -/
def ofList (pairs : List (κ × ν)) : OrderedMap κ ν :=
  pairs.foldl (fun map pair => map.insert pair.1 pair.2) empty

instance [DecidableEq ν] : DecidableEq (OrderedMap κ ν) := fun a b =>
  if h : a.entries = b.entries then
    isTrue (by cases a; cases b; simp_all)
  else isFalse (fun same => h (same ▸ rfl))

end OrderedMap

end Phrasebook
