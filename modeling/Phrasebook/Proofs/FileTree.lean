import Mathlib.Data.List.Induction
import Phrasebook.Files.Difference
import Phrasebook.Proofs.OrderedMap
import Phrasebook.Proofs.Paths

/-!
# Where paths lead

A path leads to one location at most, and that location can be told from the path and the current
folder. The tree only decides whether the path leads there.

- `FileTree.WellFormed`: everything stands in a folder;
- `Path.destination`: the location that a path can lead to;
- `find_congr`: in two trees that agree there, a direct path finds the same.
-/

namespace Phrasebook

namespace Path

/-- One step further from a location. -/
def advance (location : Location) (piece : List Char) : Location :=
  if piece = ['.', '.'] then location.dropLast else location ++ [String.ofList piece]

/-- The location that a path can lead to, from the given current folder. -/
def destination (path : Path) (here : Location) : Location :=
  path.steps.foldl advance (if path.isAbsolute then [] else here)

theorem advance_up {location : Location} : advance location ['.', '.'] = location.dropLast :=
  if_pos rfl

theorem advance_name {location : Location} {piece : List Char} (h : piece ≠ ['.', '.']) :
    advance location piece = location ++ [String.ofList piece] := if_neg h

theorem prefix_of_forward {steps : List (List Char)} {location : Location}
    (forward : ['.', '.'] ∉ steps) : location <+: steps.foldl advance location := by
  induction steps generalizing location with
  | nil => exact List.prefix_refl _
  | cons piece rest ih =>
    obtain ⟨other, later⟩ := not_or.mp (mt List.mem_cons.mpr forward)
    refine List.IsPrefix.trans ?_ (ih later)
    rw [advance_name (Ne.symm other)]
    exact List.prefix_append _ _

theorem prefix_of_upward {steps : List (List Char)} {location : Location}
    (upward : ∀ piece ∈ steps, piece = ['.', '.']) : steps.foldl advance location <+: location := by
  induction steps generalizing location with
  | nil => exact List.prefix_refl _
  | cons piece rest ih =>
    rw [List.foldl_cons, upward piece List.mem_cons_self, advance_up]
    exact (ih fun piece h => upward piece (List.mem_cons_of_mem _ h)).trans
      (List.dropLast_prefix _)

/-- The folders on a direct way lie above the current folder or above its end. -/
theorem destination_above {path base : Path} (direct : base.Direct) {here : Location}
    (start : path.isAbsolute = base.isAbsolute) (h : path.steps <+: base.steps) :
    path.destination here <+: here ∨ path.destination here <+: base.destination here := by
  obtain ⟨rest, whole⟩ := h
  unfold destination
  rw [start, ← whole, List.foldl_append]
  by_cases up : ['.', '.'] ∈ rest
  · left
    unfold Direct at direct
    rw [← whole, List.pairwise_append] at direct
    refine (prefix_of_upward fun piece h => direct.2.2 piece h _ up rfl).trans ?_
    split
    · exact List.nil_prefix
    · exact List.prefix_refl _
  · exact .inr (prefix_of_forward up)

/-- A name in a folder leads to the entry of that name. -/
theorem destination_join {folder : Path} {name : String} (clean : '/' ∉ name.toList)
    (said : isBlank name.toList = false) (forward : name.toList ≠ ['.', '.']) (here : Location) :
    (folder.join name).destination here = folder.destination here ++ [name] := by
  unfold destination
  rw [(steps_join clean said).1, (steps_join clean said).2, List.foldl_append, List.foldl_cons,
    List.foldl_nil, advance_name forward, String.ofList_toList]

end Path

namespace FileTree

/-! ## Well-formed trees -/

/-- The current folder is there, and everything but the root stands in a folder. -/
structure WellFormed (tree : FileTree) : Prop where
  root : [] ∉ tree.entries.keys
  here : tree.entryAt? tree.here = some .folder
  above : ∀ location entry, tree.entryAt? location = some entry →
    tree.entryAt? location.dropLast = some .folder

theorem wellFormed_iff {tree : FileTree} :
    tree.WellFormed ↔ tree.entryAt? tree.here = some .folder ∧
      ∀ pair ∈ tree.entries.entries, pair.1 ≠ [] ∧
        tree.entryAt? pair.1.dropLast = some .folder := by
  have filled {location : Location} {entry : Entry} (some : location ≠ []) :
      tree.entryAt? location = .some entry ↔ (location, entry) ∈ tree.entries.entries := by
    rw [OrderedMap.mem_entries_iff, entryAt?, if_neg (by simpa using some)]
  constructor
  · rintro ⟨root, here, above⟩
    refine ⟨here, fun ⟨location, entry⟩ h => ?_⟩
    have proper : location ≠ [] := by
      rintro rfl
      exact root (List.mem_map.mpr ⟨_, h, rfl⟩)
    exact ⟨proper, above location entry ((filled proper).mpr h)⟩
  · rintro ⟨here, pairs⟩
    refine ⟨fun root => ?_, here, fun location entry h => ?_⟩
    · obtain ⟨pair, h, empty⟩ := List.mem_map.mp root
      exact (pairs pair h).1 empty
    · -- The root is its own parent, as `dropLast` has it.
      by_cases proper : location = []
      · rw [proper]
        rfl
      · exact (pairs _ ((filled proper).mp h)).2

instance (tree : FileTree) : Decidable tree.WellFormed := decidable_of_iff _ wellFormed_iff.symm

theorem entryAt?_putAt {tree : FileTree} {location other : Location} {entry : Entry}
    (h : location ≠ []) :
    (tree.putAt location entry).entryAt? other =
      if location = other then some entry else tree.entryAt? other := by
  unfold entryAt? putAt
  by_cases root : other = []
  · subst root
    exact (if_neg h).symm
  · have filled : other.isEmpty = false := by simpa using root
    rw [filled]
    exact OrderedMap.get?_insert

theorem WellFormed.folder_of_prefix {tree : FileTree} (wf : tree.WellFormed)
    {location above : Location} {entry : Entry} (h : tree.entryAt? location = some entry)
    (below : above <+: location) (proper : above ≠ location) :
    tree.entryAt? above = some .folder := by
  induction location using List.reverseRecOn generalizing entry with
  | nil => exact absurd (List.prefix_nil.mp below) proper
  | append_singleton names name ih =>
    have parent := wf.above _ _ h
    rw [List.dropLast_concat] at parent
    rcases List.prefix_concat_iff.mp below with same | inside
    · exact absurd same proper
    · by_cases same : above = names
      · exact same ▸ parent
      · exact ih parent inside same

theorem WellFormed.folder_of_here {tree : FileTree} (wf : tree.WellFormed) {above : Location}
    (h : above <+: tree.here) : tree.entryAt? above = some .folder := by
  by_cases same : above = tree.here
  · exact same ▸ wf.here
  · exact wf.folder_of_prefix wf.here h same

/-! ## Following pieces -/

theorem follow_of_folder {tree : FileTree} {location : Location} (piece : List Char)
    (h : tree.entryAt? location = some .folder) :
    tree.follow location piece =
      if Path.isBlank piece then .ok location
      else if piece = ['.', '.'] then .ok location.dropLast
      else if nameLimit < Text.byteLength piece then .error .nameTooLong
      else .ok (location ++ [String.ofList piece]) := by
  unfold follow
  rw [h]

/-- A piece is only followed from a folder, and leads where it says. -/
theorem follow_eq_ok {tree : FileTree} {location next : Location} {piece : List Char}
    (h : tree.follow location piece = .ok next) :
    tree.entryAt? location = some .folder ∧
      next = if Path.isBlank piece then location else Path.advance location piece := by
  have folder : tree.entryAt? location = some .folder := by
    unfold follow at h
    split at h
    · cases h
    · cases h
    · assumption
  refine ⟨folder, ?_⟩
  rw [follow_of_folder piece folder] at h
  split at h
  case isTrue blank =>
    cases h
    rw [if_pos blank]
  case isFalse said =>
    rw [if_neg said]
    split at h
    case isTrue up =>
      cases h
      rw [up, Path.advance_up]
    case isFalse name =>
      rw [Path.advance_name name]
      split at h
      · cases h
      · cases h
        rfl

theorem foldlM_follow_eq_ok {tree : FileTree} {pieces : List (List Char)}
    {location reached : Location} (h : pieces.foldlM tree.follow location = .ok reached) :
    reached = (pieces.filter fun piece => !Path.isBlank piece).foldl Path.advance location := by
  induction pieces generalizing location with
  | nil => cases h; rfl
  | cons piece rest ih =>
    rw [List.foldlM_cons] at h
    cases step : tree.follow location piece with
    | error error =>
      rw [step] at h
      cases h
    | ok next =>
      rw [step] at h
      have later := ih h
      rw [(follow_eq_ok step).2] at later
      rw [later, List.filter_cons]
      by_cases blank : Path.isBlank piece
      · simp [blank]
      · simp [blank]

theorem locate_eq_ok_iff {tree : FileTree} {path : Path} {location : Location} :
    tree.locate path = .ok location ↔
      (path.text.toList ≠ [] ∧ '\x00' ∉ path.text.toList) ∧
        (Path.pieces path.text.toList).foldlM tree.follow
          (if path.isAbsolute then [] else tree.here) = .ok location := by
  simp only [locate]
  by_cases empty : path.text.toList = []
  · simp [empty]
  · rw [if_neg (by simpa using empty)]
    by_cases nul : '\x00' ∈ path.text.toList
    · simp [nul]
    · rw [if_neg (by simpa using nul)]
      exact (and_iff_right ⟨empty, nul⟩).symm

/-- A path leads nowhere but to its destination. -/
theorem locate_eq_ok {tree : FileTree} {path : Path} {location : Location}
    (h : tree.locate path = .ok location) : location = path.destination tree.here :=
  foldlM_follow_eq_ok (locate_eq_ok_iff.mp h).2

theorem find_eq_ok_iff {tree : FileTree} {path : Path} {entry : Entry} :
    tree.find path = .ok entry ↔
      ∃ location, tree.locate path = .ok location ∧ tree.entryAt? location = some entry := by
  unfold find
  cases located : tree.locate path with
  | error error => simp [bind, Except.bind]
  | ok location =>
    cases present : tree.entryAt? location <;> simp [bind, Except.bind, present]

/-- What a path leads to stands in a folder. -/
theorem WellFormed.folder_of_locate {tree : FileTree} (wf : tree.WellFormed) {path : Path}
    {location : Location} (h : tree.locate path = .ok location) :
    tree.entryAt? location.dropLast = some .folder := by
  -- The parent of what is reached is a folder all along the way.
  have followed {pieces : List (List Char)} {start reached : Location}
      (above : tree.entryAt? start.dropLast = some .folder)
      (h : pieces.foldlM tree.follow start = .ok reached) :
      tree.entryAt? reached.dropLast = some .folder := by
    induction pieces generalizing start with
    | nil =>
      cases h
      exact above
    | cons piece rest ih =>
      rw [List.foldlM_cons] at h
      cases step : tree.follow start piece with
      | error error =>
        rw [step] at h
        cases h
      | ok next =>
        rw [step] at h
        obtain ⟨folder, reached⟩ := follow_eq_ok step
        refine ih ?_ h
        rw [reached, Path.advance]
        split
        · exact above
        · split
          · exact wf.above _ _ above
          · rw [List.dropLast_concat]
            exact folder
  refine followed ?_ (locate_eq_ok_iff.mp h).2
  split
  · rfl
  · exact wf.above _ _ wf.here

/-- A way stays open while its folders stay. -/
theorem locate_of_folders {tree other : FileTree} (here : other.here = tree.here)
    (kept : ∀ location, tree.entryAt? location = some .folder →
      other.entryAt? location = some .folder) {path : Path} {location : Location}
    (h : tree.locate path = .ok location) : other.locate path = .ok location := by
  have followed {pieces : List (List Char)} {start reached : Location}
      (h : pieces.foldlM tree.follow start = .ok reached) :
      pieces.foldlM other.follow start = .ok reached := by
    induction pieces generalizing start with
    | nil => exact h
    | cons piece rest ih =>
      rw [List.foldlM_cons] at h ⊢
      cases step : tree.follow start piece with
      | error error =>
        rw [step] at h
        cases h
      | ok next =>
        have folder := (follow_eq_ok step).1
        rw [step] at h
        rw [follow_of_folder piece (kept _ folder), ← follow_of_folder piece folder, step]
        exact ih h
  obtain ⟨written, h⟩ := locate_eq_ok_iff.mp h
  exact locate_eq_ok_iff.mpr ⟨written, here ▸ followed h⟩

/-! ## The way through a folder -/

theorem folder_of_followed {tree : FileTree} {pieces : List (List Char)}
    {location reached : Location} (folder : tree.entryAt? reached = some .folder)
    (h : pieces.foldlM tree.follow location = .ok reached) :
    tree.entryAt? location = some .folder := by
  cases pieces with
  | nil =>
    cases h
    exact folder
  | cons piece rest =>
    rw [List.foldlM_cons] at h
    cases step : tree.follow location piece with
    | error error =>
      rw [step] at h
      cases h
    | ok next => exact (follow_eq_ok step).1

theorem foldlM_follow_steps {tree : FileTree} {pieces : List (List Char)}
    {location reached : Location} (h : pieces.foldlM tree.follow location = .ok reached) :
    (pieces.filter fun piece => !Path.isBlank piece).foldlM tree.follow location = .ok reached := by
  induction pieces generalizing location with
  | nil => exact h
  | cons piece rest ih =>
    rw [List.foldlM_cons] at h
    cases step : tree.follow location piece with
    | error error =>
      rw [step] at h
      cases h
    | ok next =>
      rw [step] at h
      have led := (follow_eq_ok step).2
      by_cases blank : Path.isBlank piece = true
      · rw [List.filter_cons, if_neg (by simp [blank])]
        rw [if_pos blank] at led
        exact led ▸ ih h
      · rw [List.filter_cons, if_pos (by simpa using blank), List.foldlM_cons, step]
        exact ih h

/-- Blank pieces do not matter on the way to a folder. -/
theorem foldlM_follow_of_steps {tree : FileTree} {pieces : List (List Char)}
    {location reached : Location} (folder : tree.entryAt? reached = some .folder)
    (h : (pieces.filter fun piece => !Path.isBlank piece).foldlM tree.follow location =
      .ok reached) : pieces.foldlM tree.follow location = .ok reached := by
  induction pieces generalizing location with
  | nil => exact h
  | cons piece rest ih =>
    rw [List.filter_cons] at h
    rw [List.foldlM_cons]
    by_cases blank : Path.isBlank piece = true
    · rw [if_neg (by simp [blank])] at h
      rw [follow_of_folder piece (folder_of_followed folder h), if_pos blank]
      exact ih h
    · rw [if_pos (by simpa using blank), List.foldlM_cons] at h
      cases step : tree.follow location piece with
      | error error =>
        rw [step] at h
        cases h
      | ok next =>
        rw [step] at h
        exact ih h

/-- A path leads through the folder that has all steps but the last one. -/
theorem WellFormed.locate_above {tree : FileTree} (wf : tree.WellFormed) {path above : Path}
    (steps : above.steps = path.steps.dropLast) (start : above.isAbsolute = path.isAbsolute)
    (written : above.text.toList ≠ [] ∧ '\x00' ∉ above.text.toList) {location : Location}
    (h : tree.locate path = .ok location) : tree.find above = .ok .folder := by
  obtain ⟨-, followed⟩ := locate_eq_ok_iff.mp h
  have followed := foldlM_follow_steps followed
  have reached {folder : Location} (present : tree.entryAt? folder = some .folder)
      (h : above.steps.foldlM tree.follow (if path.isAbsolute then [] else tree.here) =
        .ok folder) : tree.find above = .ok .folder := by
    refine find_eq_ok_iff.mpr ⟨folder, locate_eq_ok_iff.mpr ⟨written, ?_⟩, present⟩
    exact foldlM_follow_of_steps present (start ▸ h)
  change path.steps.foldlM tree.follow _ = _ at followed
  rcases List.eq_nil_or_concat path.steps with none | ⟨before, last, whole⟩
  · -- Without steps, both paths stay where they start.
    rw [none] at steps
    have present : tree.entryAt? (if path.isAbsolute then [] else tree.here) = some .folder := by
      split
      · rfl
      · exact wf.here
    exact reached present (by rw [steps]; rfl)
  · rw [whole, List.concat_eq_append] at steps followed
    rw [List.dropLast_concat] at steps
    rw [List.foldlM_append] at followed
    cases way : before.foldlM tree.follow (if path.isAbsolute then [] else tree.here) with
    | error error =>
      rw [way] at followed
      cases followed
    | ok folder =>
      rw [way] at followed
      change [last].foldlM tree.follow folder = _ at followed
      rw [List.foldlM_cons] at followed
      cases step : tree.follow folder last with
      | error error =>
        rw [step] at followed
        cases followed
      | ok next => exact reached (follow_eq_ok step).1 (steps ▸ way)

/-! ## Contents -/

theorem WellFormed.contentAt?_eq_some_iff {tree : FileTree} (wf : tree.WellFormed)
    {location : Location} {content : Content} :
    tree.contentAt? location = some content ↔
      tree.entryAt? location = some (.file content) := by
  unfold contentAt? entryAt?
  by_cases root : location = []
  · rw [root, OrderedMap.get?_eq_none_iff.mpr wf.root]
    simp
  · rw [if_neg (by simpa using root)]
    rcases tree.entries.get? location with _ | _ | other <;> simp

/-- What the file holds that a path leads to. -/
def contentOf? (tree : FileTree) (path : Path) : Option Content :=
  match tree.find path with
  | .ok (.file content) => some content
  | _ => none

theorem contentOf?_eq_some_iff {tree : FileTree} {path : Path} {content : Content} :
    tree.contentOf? path = some content ↔ tree.find path = .ok (.file content) := by
  unfold contentOf?
  split
  · rename_i found
    simp [found]
  · rename_i other
    exact iff_of_false nofun fun found => other _ found

theorem contentOf?_congr {tree other : FileTree} {path : Path}
    (h : ∀ entry, tree.find path = .ok entry ↔ other.find path = .ok entry) :
    tree.contentOf? path = other.contentOf? path := by
  refine Option.ext fun content => ?_
  rw [contentOf?_eq_some_iff, contentOf?_eq_some_iff]
  exact h _

/-! ## Trees that agree -/

/-- A way that leads to an entry in one tree leads there in every tree that has the entry. Its
folders stand above the current folder, as far as the way goes up, and above the entry. -/
theorem foldlM_follow_congr {tree other : FileTree} (wf : tree.WellFormed)
    {pieces : List (List Char)} {location reached : Location} {entry : Entry}
    (direct : (pieces.filter fun piece => !Path.isBlank piece).Pairwise fun earlier later =>
      later = ['.', '.'] → earlier = ['.', '.'])
    (start : ['.', '.'] ∈ pieces → tree.entryAt? location = some .folder)
    (here : tree.entryAt? reached = some entry)
    (same : other.entryAt? reached = some .folder → tree.entryAt? reached = some .folder)
    (h : pieces.foldlM other.follow location = .ok reached) :
    pieces.foldlM tree.follow location = .ok reached := by
  induction pieces generalizing location with
  | nil => exact h
  | cons piece rest ih =>
    have whole := foldlM_follow_eq_ok h
    rw [List.foldlM_cons] at h ⊢
    cases step : other.follow location piece with
    | error error =>
      rw [step] at h
      cases h
    | ok next =>
      rw [step] at h
      obtain ⟨folder, led⟩ := follow_eq_ok step
      -- A way that goes up starts at a folder. Any other only leads down.
      have present : tree.entryAt? location = some .folder := by
        by_cases up : ['.', '.'] ∈ piece :: rest
        · exact start up
        · have below : location <+: reached := by
            rw [whole]
            exact Path.prefix_of_forward fun h => up (List.mem_filter.mp h).1
          by_cases arrived : location = reached
          · exact arrived ▸ same (arrived ▸ folder)
          · exact wf.folder_of_prefix here below arrived
      have followed : tree.follow location piece = .ok next := by
        rw [follow_of_folder piece present, ← follow_of_folder piece folder, step]
      rw [followed]
      refine ih ?_ (fun up => ?_) h
      · exact direct.sublist ((List.sublist_cons_self piece rest).filter _)
      · -- A direct way that goes up later has only gone up so far.
        have back : Path.isBlank piece = true ∨ piece = ['.', '.'] := by
          by_cases blank : Path.isBlank piece = true
          · exact .inl blank
          · rw [List.filter_cons, if_pos (by simp [blank])] at direct
            have later : ['.', '.'] ∈ rest.filter fun piece => !Path.isBlank piece :=
              List.mem_filter.mpr ⟨up, rfl⟩
            exact .inr ((List.pairwise_cons.mp direct).1 _ later rfl)
        rw [led]
        rcases back with blank | rfl
        · rw [if_pos blank]
          exact present
        · exact wf.above _ _ present

theorem locate_congr {tree other : FileTree} (wf : tree.WellFormed) {path : Path}
    (direct : path.Direct) (here : other.here = tree.here) {location : Location} {entry : Entry}
    (present : tree.entryAt? location = some entry)
    (same : other.entryAt? location = some .folder → tree.entryAt? location = some .folder)
    (h : other.locate path = .ok location) : tree.locate path = .ok location := by
  obtain ⟨written, followed⟩ := locate_eq_ok_iff.mp h
  rw [here] at followed
  refine locate_eq_ok_iff.mpr ⟨written, ?_⟩
  refine foldlM_follow_congr wf direct (fun _ => ?_) present same followed
  split
  · rfl
  · exact wf.here

/-- In trees that agree at the destination of a direct path, the path finds the same. -/
theorem find_of_find {tree other : FileTree} (wf : tree.WellFormed) {path : Path}
    (direct : path.Direct) (here : other.here = tree.here)
    (same : tree.entryAt? (path.destination tree.here) =
      other.entryAt? (path.destination tree.here)) {entry : Entry}
    (h : other.find path = .ok entry) : tree.find path = .ok entry := by
  obtain ⟨location, located, present⟩ := find_eq_ok_iff.mp h
  rw [← here, ← locate_eq_ok located] at same
  have present' := same.trans present
  exact find_eq_ok_iff.mpr
    ⟨location, locate_congr wf direct here present' (same ▸ id) located, present'⟩

theorem find_congr {tree other : FileTree} (wf : tree.WellFormed) (wf' : other.WellFormed)
    {path : Path} (direct : path.Direct) (here : other.here = tree.here)
    (same : tree.entryAt? (path.destination tree.here) =
      other.entryAt? (path.destination tree.here)) {entry : Entry} :
    tree.find path = .ok entry ↔ other.find path = .ok entry :=
  ⟨find_of_find wf' direct here.symm (here ▸ same.symm), find_of_find wf direct here same⟩

end FileTree

end Phrasebook
