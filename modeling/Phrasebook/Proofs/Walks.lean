import Phrasebook.Proofs.FileTree

/-!
# Walks through a tree

A walk from a place lists everything below it, each entry by the names that lead there.

- `Path.Ended`: a path that is written to its last step;
- `Path.components_join`: what follows a path adds its components;
- `FileTree.Tidy`: a tree whose names can stand in paths;
- `FileTree.find_foldl_join`: names lead from a place to what stands there;
- `FileTree.mem_walk_iff`: what a walk lists.
-/

namespace Phrasebook

namespace Path

theorem mem_iff_exists_piece {cs : List Char} {c : Char} (other : c ≠ '/') :
    c ∈ cs ↔ ∃ piece ∈ pieces cs, c ∈ piece :=
  ⟨fun here => exists_mem_pieces here other,
    fun ⟨_, among, inside⟩ => mem_of_mem_pieces among inside⟩

/-- A path that is written to its last step: its last piece is not blank. -/
def Ended (path : Path) : Prop :=
  ∃ last, (pieces path.text.toList).getLast? = some last ∧ isBlank last = false

theorem Ended.steps_eq {path : Path} (ended : path.Ended) :
    ∃ last, (pieces path.text.toList).getLast? = some last ∧
      path.steps = (pieces path.text.toList).dropLast.filter (fun piece => !isBlank piece) ++
        [last] := by
  obtain ⟨last, ends, said⟩ := ended
  obtain ⟨front, cut⟩ := List.getLast?_eq_some_iff.mp ends
  refine ⟨last, ends, ?_⟩
  unfold steps
  rw [cut, List.dropLast_concat, List.filter_append]
  simp [said]

/-! ## Components -/

/-- What follows a path is written after its pieces, of which an empty last one is left out. -/
theorem pieces_join {folder : Path} {text : String} (written : folder.text ≠ "")
    (relative : (Path.mk text).isAbsolute = false) :
    ∃ front, front ≠ [] ∧ (pieces folder.text.toList = front ∨
        pieces folder.text.toList = front ++ [[]]) ∧
      pieces (folder.join text).text.toList = front ++ pieces text.toList := by
  unfold join
  rw [relative, if_neg Bool.false_ne_true]
  split
  case isTrue ends =>
    -- The folder ends in a slash, so its last piece is empty and is written over.
    have last : folder.text.toList.getLast? = some '/' := by
      simpa [String.isEmpty_iff, written] using ends
    obtain ⟨shorter, cut⟩ := List.getLast?_eq_some_iff.mp last
    refine ⟨pieces shorter, pieces_ne_nil shorter, .inr ?_, ?_⟩
    · rw [cut, pieces_append_slash]
      rfl
    · rw [String.toList_append, cut, List.append_assoc, List.singleton_append,
        pieces_append_slash]
  case isFalse inside =>
    refine ⟨pieces folder.text.toList, pieces_ne_nil _, .inl rfl, ?_⟩
    rw [String.toList_append, String.toList_append, List.append_assoc]
    exact pieces_append_slash _ _

theorem parts_start_eq (path : Path) :
    path.parts.start =
      if path.isAbsolute then some .root
      else if (pieces path.text.toList).head? = some ['.'] then some .here
      else none := by
  rw [isAbsolute_eq]
  unfold parts
  split
  case h_1 => rfl
  case h_2 rest cut => simp [cut]
  case h_3 other =>
    have relative : ¬ ((none : Option Component) == some .root) = true := by decide
    rw [if_neg relative, if_neg]
    intro here
    obtain ⟨rest, cut⟩ := List.head?_eq_some_iff.mp here
    exact other rest cut

/-- What follows a path adds the components of its steps. -/
theorem components_join {folder : Path} {text : String} (written : folder.text ≠ "")
    (relative : (Path.mk text).isAbsolute = false) :
    (folder.join text).components =
      folder.components ++ (Path.mk text).steps.map componentOf := by
  obtain ⟨steps, absolute⟩ := @steps_join_relative folder _ relative
  obtain ⟨front, some, before, after⟩ := pieces_join written relative
  have start : (folder.join text).parts.start = folder.parts.start := by
    have head : (pieces (folder.join text).text.toList).head? =
        (pieces folder.text.toList).head? := by
      obtain ⟨first, rest, rfl⟩ := List.exists_cons_of_ne_nil some
      rw [after]
      rcases before with same | same
      · rw [same]
        rfl
      · rw [same]
        rfl
    rw [parts_start_eq, parts_start_eq, absolute, head]
  rw [components_eq, components_eq, start, steps, List.map_append, List.append_assoc]

theorem text_join_ne {folder : Path} {text : String} (written : folder.text ≠ "")
    (relative : (Path.mk text).isAbsolute = false) : (folder.join text).text ≠ "" := by
  obtain ⟨front, some, -, after⟩ := pieces_join written relative
  intro none
  -- The text is cut into two pieces at least.
  have count := congrArg List.length after
  have before := List.length_pos_iff.mpr some
  have behind := List.length_pos_iff.mpr (pieces_ne_nil text.toList)
  rw [none, List.length_append] at count
  simp only [String.toList_empty, pieces, List.length_singleton] at count
  omega

/-- Names after a path add themselves. -/
theorem components_foldl_join {names : List String} (isStep : ∀ name ∈ names, IsStep name)
    {folder : Path} (written : folder.text ≠ "") :
    (names.foldl join folder).components = folder.components ++ names.map .name ∧
      (names.foldl join folder).steps = folder.steps ++ names.map String.toList := by
  induction names generalizing folder with
  | nil => simp
  | cons name rest ih =>
    obtain ⟨⟨clean, said, forward⟩, later⟩ := List.forall_mem_cons.mp isStep
    have relative := isAbsolute_of_clean clean
    have alone : (Path.mk name).steps = [name.toList] := by
      unfold steps
      rw [pieces_of_clean clean]
      simp [said]
    have component : componentOf name.toList = .name name := by
      rw [componentOf, if_neg forward, String.ofList_toList]
    obtain ⟨components, steps⟩ := ih later (text_join_ne written relative)
    rw [List.foldl_cons, components, steps, components_join written relative, alone,
      (steps_join clean said).1]
    simp [component]

/-- Steps that do not go up are names. -/
theorem map_componentOf {steps : List (List Char)} (forward : ['.', '.'] ∉ steps) :
    steps.map componentOf = (steps.map String.ofList).map .name := by
  rw [List.map_map]
  refine List.map_congr_left fun piece among => if_neg ?_
  rintro rfl
  exact forward among

/-- Names that are spelled from the current folder are the pieces, and end with the last of them. -/
theorem ended_spell {names : List String} (some : names ≠ [])
    (isStep : ∀ name ∈ names, IsStep name) :
    (spell false 0 names).Ended ∧ (spell false 0 names).steps = names.map String.toList := by
  have body : (spell false 0 names).text.toList = joinPieces (names.map String.toList) :=
    String.toList_ofList
  have cut : pieces (spell false 0 names).text.toList = names.map String.toList := by
    rw [body]
    refine pieces_joinPieces (by simpa using some) fun piece among => ?_
    exact (isStep_of_mem_map isStep among).1
  refine ⟨?_, (steps_spell isStep).1⟩
  unfold Ended
  rw [cut]
  obtain ⟨before, last, rfl⟩ := (List.eq_nil_or_concat names).resolve_left some
  exact ⟨last.toList, by simp, (isStep last (by simp)).2.1⟩

/-! ## Destinations -/

/-- Steps that do not go up add their names. -/
theorem foldl_advance {steps : List (List Char)} (forward : ['.', '.'] ∉ steps)
    (location : Location) :
    steps.foldl advance location = location ++ steps.map String.ofList := by
  induction steps generalizing location with
  | nil => simp
  | cons piece rest ih =>
    obtain ⟨other, later⟩ := not_or.mp (mt List.mem_cons.mpr forward)
    rw [List.foldl_cons, advance_name (Ne.symm other), ih later]
    simp

theorem destination_join_forward {folder : Path} {text : String}
    (relative : (Path.mk text).isAbsolute = false) (forward : ['.', '.'] ∉ (Path.mk text).steps)
    (here : Location) :
    (folder.join text).destination here =
      folder.destination here ++ (Path.mk text).steps.map String.ofList := by
  obtain ⟨steps, absolute⟩ := @steps_join_relative folder _ relative
  unfold destination
  rw [absolute, steps, List.foldl_append, foldl_advance forward]

/-- A path from the root without steps up says where it leads. -/
theorem components_of_forward {path : Path} (absolute : path.isAbsolute = true)
    (forward : ['.', '.'] ∉ path.steps) (here : Location) :
    path.components = .root :: (path.destination here).map .name := by
  rw [components_eq, parts_start_eq, if_pos absolute, destination, if_pos absolute,
    foldl_advance forward, List.nil_append, map_componentOf forward]
  rfl

theorem destination_foldl_join {names : List String} (isStep : ∀ name ∈ names, IsStep name)
    (folder : Path) (here : Location) :
    (names.foldl join folder).destination here = folder.destination here ++ names := by
  induction names generalizing folder with
  | nil => simp
  | cons name rest ih =>
    obtain ⟨⟨clean, said, forward⟩, later⟩ := List.forall_mem_cons.mp isStep
    rw [List.foldl_cons, ih later, destination_join clean said forward, List.append_assoc,
      List.singleton_append]

end Path

namespace FileTree

/-! ## Names in a tree -/

/-- A name that a folder can list. -/
structure IsName (name : String) : Prop where
  isStep : Path.IsStep name
  short : Text.byteLength name.toList ≤ nameLimit
  noNul : '\x00' ∉ name.toList

instance (name : String) : Decidable (IsName name) :=
  decidable_of_iff (Path.IsStep name ∧ Text.byteLength name.toList ≤ nameLimit ∧
      '\x00' ∉ name.toList)
    ⟨fun ⟨isStep, short, noNul⟩ => ⟨isStep, short, noNul⟩,
      fun ⟨isStep, short, noNul⟩ => ⟨isStep, short, noNul⟩⟩

/-- Folders can list all names in the tree. -/
def Tidy (tree : FileTree) : Prop :=
  ∀ location ∈ tree.entries.keys, ∀ name ∈ location, IsName name

instance (tree : FileTree) : Decidable tree.Tidy :=
  inferInstanceAs (Decidable (∀ location ∈ tree.entries.keys, ∀ name ∈ location, IsName name))

variable {tree : FileTree}

theorem mem_keys_of_entryAt? {location : Location} {entry : Entry} (some : location ≠ [])
    (h : tree.entryAt? location = .some entry) : location ∈ tree.entries.keys := by
  rw [entryAt?, if_neg (by simpa using some)] at h
  exact OrderedMap.mem_keys_iff.mpr ⟨entry, h⟩

theorem Tidy.isName (tidy : tree.Tidy) {location : Location} {entry : Entry}
    (h : tree.entryAt? location = some entry) {name : String} (among : name ∈ location) :
    IsName name :=
  tidy location (mem_keys_of_entryAt? (List.ne_nil_of_mem among) h) name among

/-! ## Following names -/

theorem text_ne_of_locate {path : Path} {location : Location}
    (h : tree.locate path = .ok location) : path.text ≠ "" := by
  rintro none
  exact (locate_eq_ok_iff.mp h).1.1 (by rw [none]; rfl)

/-- What follows the path of a folder leads on from the folder. -/
theorem locate_join_iff {folder : Path} {location reached : Location}
    (located : tree.locate folder = .ok location)
    (present : tree.entryAt? location = some .folder) {text : String}
    (relative : (Path.mk text).isAbsolute = false) :
    tree.locate (folder.join text) = .ok reached ↔
      '\x00' ∉ text.toList ∧
        (Path.pieces text.toList).foldlM tree.follow location = .ok reached := by
  have written := text_ne_of_locate located
  obtain ⟨⟨-, noNul⟩, followed⟩ := locate_eq_ok_iff.mp located
  obtain ⟨front, -, before, after⟩ := Path.pieces_join written relative
  have kept : ∀ piece ∈ front, piece ∈ Path.pieces folder.text.toList := by
    rcases before with same | same
    · exact fun _ among => same ▸ among
    · exact fun _ among => same ▸ List.mem_append_left _ among
  -- Pieces that lead nowhere apart, the front is the folder, so it leads to its location.
  have steps : front.filter (fun piece => !Path.isBlank piece) = folder.steps := by
    unfold Path.steps
    rcases before with same | same
    · rw [same]
    · rw [same, List.filter_append]
      simp [Path.isBlank]
  have way : front.foldlM tree.follow (if folder.isAbsolute then [] else tree.here) =
      .ok location :=
    foldlM_follow_of_steps present (steps ▸ foldlM_follow_steps followed)
  -- The folder has no NUL, as it can be followed.
  have nul_iff : '\x00' ∈ (folder.join text).text.toList ↔ '\x00' ∈ text.toList := by
    rw [Path.mem_iff_exists_piece (by decide), Path.mem_iff_exists_piece (by decide), after]
    constructor
    · rintro ⟨piece, among, inside⟩
      rcases List.mem_append.mp among with old | new
      · exact absurd (Path.mem_of_mem_pieces (kept piece old) inside) noNul
      · exact ⟨piece, new, inside⟩
    · rintro ⟨piece, among, inside⟩
      exact ⟨piece, List.mem_append_right _ among, inside⟩
  have some := mt String.toList_eq_nil_iff.mp (Path.text_join_ne written relative)
  rw [locate_eq_ok_iff, and_iff_right some, nul_iff, after,
    (Path.steps_join_relative relative).2, List.foldlM_append, way]
  rfl

/-- A name leads from a folder to its entry there. -/
theorem locate_join {folder : Path} {location : Location}
    (located : tree.locate folder = .ok location)
    (present : tree.entryAt? location = some .folder) {name : String} (isName : IsName name) :
    tree.locate (folder.join name) = .ok (location ++ [name]) := by
  obtain ⟨clean, said, forward⟩ := isName.isStep
  refine (locate_join_iff located present (Path.isAbsolute_of_clean clean)).mpr
    ⟨isName.noNul, ?_⟩
  have step : tree.follow location name.toList = .ok (location ++ [name]) := by
    rw [follow_of_folder _ present, if_neg (by simp [said]), if_neg forward,
      if_neg (Nat.not_lt.mpr isName.short), String.ofList_toList]
  rw [Path.pieces_of_clean clean, List.foldlM_cons, step]
  rfl

/-- Names lead from a place to what stands there. -/
theorem locate_foldl_join (wf : tree.WellFormed) (tidy : tree.Tidy) {place : Path}
    {location : Location} (located : tree.locate place = .ok location) {names : List String}
    {entry : Entry} (present : tree.entryAt? (location ++ names) = some entry) :
    tree.locate (names.foldl Path.join place) = .ok (location ++ names) := by
  induction names generalizing place location with
  | nil => simpa using located
  | cons name rest ih =>
    have folder : tree.entryAt? location = some .folder :=
      wf.folder_of_prefix present (List.prefix_append _ _) (by simp)
    have isName : IsName name := tidy.isName present (by simp)
    rw [List.append_cons] at present ⊢
    exact ih (locate_join located folder isName) present

theorem has_iff {path : Path} :
    tree.has path = true ↔ ∃ entry, tree.find path = .ok entry := by
  unfold has
  cases tree.find path <;> simp [Except.toOption]

theorem isFile_iff {path : Path} :
    tree.isFile path = true ↔ ∃ content, tree.find path = .ok (.file content) := by
  unfold isFile
  split
  · next content found => exact iff_of_true rfl ⟨content, found⟩
  · next other => exact iff_of_false nofun fun ⟨content, found⟩ => other content found

/-- What stands behind a blank last piece is a folder. -/
theorem ended_of_file {path : Path} {content : Content}
    (found : tree.find path = .ok (.file content)) : path.Ended := by
  obtain ⟨location, located, present⟩ := find_eq_ok_iff.mp found
  obtain ⟨-, followed⟩ := locate_eq_ok_iff.mp located
  obtain ⟨front, last, cut⟩ :=
    (List.eq_nil_or_concat _).resolve_left (Path.pieces_ne_nil path.text.toList)
  rw [List.concat_eq_append] at cut
  refine ⟨last, by rw [cut, List.getLast?_concat], ?_⟩
  rw [cut, List.foldlM_append] at followed
  cases way : front.foldlM tree.follow (if path.isAbsolute then [] else tree.here) with
  | error error =>
    rw [way] at followed
    cases followed
  -- Everything but the last piece leads to a folder.
  | ok before =>
    rw [way] at followed
    change [last].foldlM tree.follow before = _ at followed
    cases step : tree.follow before last with
    | error error =>
      rw [List.foldlM_cons, step] at followed
      cases followed
    | ok next =>
      rw [List.foldlM_cons, step] at followed
      cases followed
      obtain ⟨folder, led⟩ := follow_eq_ok step
      rw [← Bool.not_eq_true]
      -- A blank piece stays at that folder, where no file is.
      intro blank
      rw [led, if_pos blank, folder] at present
      cases present

/-! ## Walks -/

theorem exists_walk {place : Path} {entry : Entry} (found : tree.find place = .ok entry) :
    ∃ paths, tree.walk place = .ok paths := by
  obtain ⟨location, located, -⟩ := find_eq_ok_iff.mp found
  unfold walk
  rw [found, located]
  exact ⟨_, rfl⟩

/-- A walk lists its place, and below it each entry by the names that lead there. -/
theorem mem_walk_iff {place path : Path} {paths : List Path}
    (walked : tree.walk place = .ok paths) {location : Location}
    (located : tree.locate place = .ok location) :
    path ∈ paths ↔ ∃ names : List String,
      (names = [] ∨ location ++ names ∈ tree.entries.keys) ∧
        path = names.foldl Path.join place := by
  have listed : paths = place :: tree.entries.keys.filterMap fun other =>
      if location.isPrefixOf other && location.length < other.length then
        some ((other.drop location.length).foldl Path.join place)
      else none := by
    unfold walk at walked
    cases found : tree.find place with
    | error error => simp [found, bind, Except.bind] at walked
    | ok entry =>
      simp only [found, located, bind, Except.bind, pure, Except.pure, Except.ok.injEq] at walked
      exact walked.symm
  rw [listed, List.mem_cons, List.mem_filterMap]
  constructor
  · rintro (rfl | ⟨other, known, reached⟩)
    · exact ⟨[], .inl rfl, rfl⟩
    · obtain ⟨below, same⟩ := Option.ite_none_right_eq_some.mp reached
      obtain ⟨names, rfl⟩ := List.isPrefixOf_iff_prefix.mp (Bool.and_eq_true_iff.mp below).1
      refine ⟨names, .inr known, ?_⟩
      rw [List.drop_left] at same
      exact (Option.some.inj same).symm
  · -- Names that are not empty lead strictly below.
    rintro ⟨names, known, rfl⟩
    rcases List.eq_nil_or_concat names with rfl | ⟨_, _, rfl⟩
    · exact .inl rfl
    · refine .inr ⟨_, known.resolve_left (by simp), ?_⟩
      rw [if_pos, List.drop_left]
      simp [List.isPrefixOf_iff_prefix]

end FileTree

end Phrasebook
