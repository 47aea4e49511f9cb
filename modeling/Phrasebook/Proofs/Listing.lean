import Mathlib.Data.List.Sort
import Mathlib.Data.String.Basic
import Phrasebook.Catalogue.Reconcile
import Phrasebook.Proofs.Search
import Phrasebook.Proofs.TableFiles

/-!
# Listed table files

Table files are found again by their names: what a name tells is the namespace and the language that
it was made of, if the language holds no dot.

- `nameParts?_fileName`, `nameParts?_eq_some_iff`: what the name of a file tells;
- `FileTree.Spelled`: a tree without slashes in names;
- `mem_list_of_read`: a table that can be read at its path is listed;
- `orphans_eq_flatMap`, `flatMap_mergeSort_congr`: what is said about the tables of other namespaces
  is said file by file, in the order of the names.
-/

namespace Phrasebook

namespace FileTree

/-! ## Names in a folder -/

/-- No name in the tree holds a slash. -/
def Spelled (tree : FileTree) : Prop :=
  ∀ location ∈ tree.entries.keys, ∀ name ∈ location, '/' ∉ name.toList

instance (tree : FileTree) : Decidable tree.Spelled := by
  unfold Spelled
  infer_instance

/-- The names in a folder; none if the path leads to no folder. -/
def namesIn (tree : FileTree) (path : Path) : List String := (tree.names path).toOption.getD []

variable {tree : FileTree} {path : Path}

theorem namesIn_of_folder {location : Location} (located : tree.locate path = .ok location)
    (folder : tree.entryAt? location = some .folder) :
    tree.namesIn path = tree.entries.keys.filterMap fun other =>
      if other.dropLast = location then other.getLast? else none := by
  unfold namesIn names
  rw [located]
  dsimp only [bind, Except.bind]
  rw [folder]
  rfl

theorem folder_of_mem_namesIn {name : String} (h : name ∈ tree.namesIn path) :
    ∃ location, tree.locate path = .ok location ∧ tree.entryAt? location = some .folder := by
  unfold namesIn names at h
  cases located : tree.locate path with
  | error error =>
    rw [located] at h
    cases h
  | ok location =>
    rw [located] at h
    dsimp only [bind, Except.bind] at h
    refine ⟨location, rfl, ?_⟩
    rcases present : tree.entryAt? location with _ | _ | content
    · rw [present] at h
      cases h
    · rfl
    · rw [present] at h
      cases h

/-- An entry of a folder, by its place. -/
theorem last_of_child {other location : Location} {name : String} :
    (if other.dropLast = location then other.getLast? else none) = some name ↔
      other = location ++ [name] := by
  constructor
  · intro h
    split at h
    · rename_i folder
      rw [← folder]
      exact (List.dropLast_append_getLast? name h).symm
    · cases h
  · rintro rfl
    rw [List.dropLast_concat, if_pos rfl, List.getLast?_concat]

theorem mem_namesIn_iff (wf : tree.WellFormed) {name : String} :
    name ∈ tree.namesIn path ↔ ∃ location entry, tree.locate path = .ok location ∧
      tree.entryAt? (location ++ [name]) = some entry := by
  have known {location : Location} {entry : Entry} :
      tree.entryAt? (location ++ [name]) = some entry ↔
        tree.entries.get? (location ++ [name]) = some entry := by
    rw [entryAt?, if_neg (by simp)]
  constructor
  · intro h
    obtain ⟨location, located, folder⟩ := folder_of_mem_namesIn h
    rw [namesIn_of_folder located folder, List.mem_filterMap] at h
    obtain ⟨other, there, last⟩ := h
    rw [last_of_child.mp last] at there
    obtain ⟨entry, found⟩ := OrderedMap.mem_keys_iff.mp there
    exact ⟨location, entry, located, known.mpr found⟩
  · rintro ⟨location, entry, located, found⟩
    have folder := wf.above _ _ found
    rw [List.dropLast_concat] at folder
    rw [namesIn_of_folder located folder, List.mem_filterMap]
    exact ⟨_, OrderedMap.mem_keys_iff.mpr ⟨entry, known.mp found⟩, last_of_child.mpr rfl⟩

theorem nodup_namesIn (tree : FileTree) (path : Path) : (tree.namesIn path).Nodup := by
  by_cases some : ∃ name, name ∈ tree.namesIn path
  · obtain ⟨name, h⟩ := some
    obtain ⟨location, located, folder⟩ := folder_of_mem_namesIn h
    rw [namesIn_of_folder located folder]
    refine List.Nodup.filterMap (fun first second name here there => ?_) tree.entries.distinct
    exact (last_of_child.mp here).trans (last_of_child.mp there).symm
  · rw [List.eq_nil_iff_forall_not_mem.mpr (not_exists.mp some)]
    exact List.nodup_nil

/-- A name in a folder holds no slash. -/
theorem Spelled.notMem (spelled : tree.Spelled) (wf : tree.WellFormed) {name : String}
    (h : name ∈ tree.namesIn path) : '/' ∉ name.toList := by
  obtain ⟨location, entry, -, found⟩ := (mem_namesIn_iff wf).mp h
  rw [entryAt?, if_neg (by simp)] at found
  exact spelled _ (OrderedMap.mem_keys_iff.mpr ⟨entry, found⟩) name
    (List.mem_append_right _ (List.mem_singleton_self _))

end FileTree

namespace Catalogue

variable {catalogue : Catalogue} {tree : FileTree} {space language : String}

/-! ## What names tell -/

theorem withoutEnding?_eq_some_iff {ending text stem : List Char} :
    Text.withoutEnding? ending text = some stem ↔ text = stem ++ ending := by
  unfold Text.withoutEnding?
  by_cases ends : ending <:+ text
  · rw [if_pos (List.isSuffixOf_iff_suffix.mpr ends), Option.some_inj]
    obtain ⟨front, rfl⟩ := ends
    rw [List.length_append, Nat.add_sub_cancel_right, List.take_left]
    exact ⟨fun same => same ▸ rfl, fun same => List.append_cancel_right same⟩
  · rw [if_neg (by simpa using ends)]
    refine iff_of_false nofun ?_
    rintro rfl
    exact ends (List.suffix_append _ _)

/-- A name tells what it was made of, unless a part is empty. -/
theorem nameParts?_fileName (clean : '.' ∉ language.toList) :
    catalogue.nameParts? (catalogue.fileName space language) =
      if space = "" ∨ language = "" then none else some (space, language) := by
  have stem : Text.withoutEnding? ('.' :: catalogue.extension.toList)
      (catalogue.fileName space language).toList =
        some (space.toList ++ '.' :: language.toList) := by
    rw [withoutEnding?_eq_some_iff, toList_fileName]
    simp
  have parts : Text.splitAtLast? '.' (space.toList ++ '.' :: language.toList) =
      some (space.toList, language.toList) := Text.splitAtLast?_eq_some_iff.mpr ⟨rfl, clean⟩
  unfold nameParts?
  simp only [stem, parts, Option.bind_eq_bind, Option.bind_some, String.ofList_toList]
  simp [List.isEmpty_iff]

theorem nameParts?_eq_some_iff {name : String} :
    catalogue.nameParts? name = some (space, language) ↔
      name = catalogue.fileName space language ∧ space ≠ "" ∧ language ≠ "" ∧
        '.' ∉ language.toList := by
  constructor
  · intro h
    unfold nameParts? at h
    simp only [Option.bind_eq_bind, Option.bind_eq_some_iff] at h
    obtain ⟨stem, whole, ⟨first, last⟩, cut, h⟩ := h
    split at h
    · cases h
    · rename_i filled
      cases h
      obtain ⟨rfl, clean⟩ := Text.splitAtLast?_eq_some_iff.mp cut
      simp only [Bool.or_eq_true, List.isEmpty_iff, not_or] at filled
      have nonempty {cs : List Char} (some : cs ≠ []) : String.ofList cs ≠ "" := fun same =>
        some (by simpa using congrArg String.toList same)
      refine ⟨String.toList_inj.mp ?_, nonempty filled.1, nonempty filled.2, ?_⟩
      · rw [withoutEnding?_eq_some_iff.mp whole, toList_fileName]
        simp
      · rwa [String.toList_ofList]
  · rintro ⟨rfl, some, some', clean⟩
    rw [nameParts?_fileName clean, if_neg (not_or.mpr ⟨some, some'⟩)]

/-- The name of a table file is longer than a dot or two. -/
theorem forward_of_nameParts? {name : String}
    (h : catalogue.nameParts? name = some (space, language)) :
    Path.isBlank name.toList = false ∧ name.toList ≠ ['.', '.'] := by
  obtain ⟨rfl, some, some', -⟩ := nameParts?_eq_some_iff.mp h
  have long {text : String} (some : text ≠ "") : 0 < text.toList.length :=
    List.length_pos_iff.mpr fun none => some (String.toList_inj.mp none)
  have first := long some
  have second := long some'
  -- A name with two parts is longer than a dot or two.
  have whole : 3 < (catalogue.fileName space language).toList.length := by
    rw [toList_fileName]
    simp only [List.length_append, List.length_cons]
    omega
  constructor
  · rw [Bool.eq_false_iff]
    intro blank
    simp only [Path.isBlank, Bool.or_eq_true, List.isEmpty_iff, beq_iff_eq] at blank
    rcases blank with none | dot
    · rw [none] at whole
      cases whole
    · rw [dot] at whole
      simp at whole
  · intro dots
    rw [dots] at whole
    simp at whole

/-! ## The list -/

theorem list_eq : catalogue.list tree =
    ((tree.namesIn catalogue.folder).mergeSort fun a b => a ≤ b).filterMap
      (catalogue.stored? tree) := rfl

/-- Names that are in order already are listed as they come. -/
theorem list_of_sorted {names : List String} (h : tree.namesIn catalogue.folder = names)
    (sorted : names.Pairwise (· ≤ ·)) :
    catalogue.list tree = names.filterMap (catalogue.stored? tree) := by
  rw [list_eq, h, List.mergeSort_of_pairwise (sorted.imp fun le => decide_eq_true le)]

theorem stored?_eq_some_iff {name : String} {stored : StoredTable} :
    catalogue.stored? tree name = some stored ↔
      stored.path = catalogue.folder.join name ∧ tree.isFile stored.path = true ∧
        catalogue.nameParts? name = some (stored.space, stored.language) := by
  obtain ⟨space, language, path⟩ := stored
  unfold stored?
  dsimp only
  by_cases file : tree.isFile (catalogue.folder.join name) = true
  · rw [if_pos file, Option.bind_eq_bind, Option.bind_eq_some_iff]
    constructor
    · rintro ⟨⟨space', language'⟩, told, same⟩
      cases same
      exact ⟨rfl, file, told⟩
    · rintro ⟨rfl, -, told⟩
      exact ⟨_, told, rfl⟩
  · rw [if_neg file]
    refine iff_of_false nofun ?_
    rintro ⟨rfl, file', -⟩
    exact file file'

theorem mem_list_iff {stored : StoredTable} :
    stored ∈ catalogue.list tree ↔
      ∃ name ∈ tree.namesIn catalogue.folder, catalogue.stored? tree name = some stored := by
  rw [list_eq, List.mem_filterMap]
  exact exists_congr fun name => and_congr_left' List.mem_mergeSort

/-- A listed table stands at the path it is addressed by. -/
theorem path_of_mem_list {stored : StoredTable} (h : stored ∈ catalogue.list tree) :
    stored.path = catalogue.filePath stored.space stored.language := by
  obtain ⟨name, -, found⟩ := mem_list_iff.mp h
  obtain ⟨here, -, told⟩ := stored?_eq_some_iff.mp found
  rw [here, (nameParts?_eq_some_iff.mp told).1]
  rfl

theorem nodup_list : (catalogue.list tree).Nodup := by
  rw [list_eq]
  refine List.Nodup.filterMap (fun name other stored found found' => ?_)
    (List.nodup_mergeSort.mpr (tree.nodup_namesIn catalogue.folder))
  -- Both names are made of the namespace and the language that they tell.
  have first := (nameParts?_eq_some_iff.mp (stored?_eq_some_iff.mp found).2.2).1
  have second := (nameParts?_eq_some_iff.mp (stored?_eq_some_iff.mp found').2.2).1
  exact first.trans second.symm

/-- The way to what stands at the path of a table leads through the folder, where its name is
found. -/
theorem mem_namesIn_of_find (regular : catalogue.Regular) (wf : tree.WellFormed)
    (placed : catalogue.folder.text ≠ "") (valid : Nameable space language) {entry : Entry}
    (found : tree.find (catalogue.filePath space language) = .ok entry) :
    catalogue.fileName space language ∈ tree.namesIn catalogue.folder := by
  have slashless := slash_notMem_fileName regular valid
  obtain ⟨location, located, present⟩ := FileTree.find_eq_ok_iff.mp found
  have written : catalogue.folder.text.toList ≠ [] ∧ '\x00' ∉ catalogue.folder.text.toList := by
    refine ⟨mt String.toList_eq_nil_iff.mp placed, fun nul => ?_⟩
    exact (FileTree.locate_eq_ok_iff.mp located).1.2 ((Path.prefix_join slashless).subset nul)
  have joined := @Path.steps_join catalogue.folder _ slashless (fileName_forward valid).1
  have above :=
    wf.locate_above (by rw [joined.1, List.dropLast_concat]) joined.2.symm written located
  obtain ⟨folder, reached, -⟩ := FileTree.find_eq_ok_iff.mp above
  have arrived : location = folder ++ [catalogue.fileName space language] := by
    rw [FileTree.locate_eq_ok reached]
    exact (FileTree.locate_eq_ok located).trans (place_eq regular valid tree.here)
  exact (FileTree.mem_namesIn_iff wf).mpr ⟨folder, _, reached, arrived ▸ present⟩

/-- A table that can be read at its path is listed under its namespace and language, if these can be
told apart in its name. -/
theorem mem_list_of_read (regular : catalogue.Regular) (wf : tree.WellFormed)
    (placed : catalogue.folder.text ≠ "") (valid : Nameable space language)
    (filled : language ≠ "") (clean : '.' ∉ language.toList) {file : TableFile}
    (h : catalogue.read tree (catalogue.filePath space language) = .ok (some file)) :
    ⟨space, language, catalogue.filePath space language⟩ ∈ catalogue.list tree := by
  have spaceFilled : space ≠ "" := by
    rintro rfl
    exact (isValidSpace_iff.mp valid.1).1 rfl
  obtain ⟨text, found, -⟩ := parse_of_read h
  refine mem_list_iff.mpr
    ⟨catalogue.fileName space language, mem_namesIn_of_find regular wf placed valid found, ?_⟩
  refine stored?_eq_some_iff.mpr ⟨rfl, ?_, ?_⟩
  · unfold FileTree.isFile
    rw [found]
  · rw [nameParts?_fileName clean, if_neg (not_or.mpr ⟨spaceFilled, filled⟩)]

/-! ## Tables of other namespaces -/

/-- What is said about the file of a name in the folder, if it is a table of another namespace in
one of the languages. -/
def orphansAt (catalogue : Catalogue) (tree : FileTree) (spaces languages : List String)
    (name : String) : List Issue :=
  match catalogue.stored? tree name with
  | none => []
  | some table =>
    if !spaces.contains table.space && languages.contains table.language then
      match catalogue.read tree table.path with
      | .ok (some file) =>
        catalogue.unusedKeys (catalogue.filePath table.space table.language) file []
      | .ok none => []
      | .error fault => [catalogue.malformed table.path fault]
    else []

theorem flatMap_filter_filterMap {α β γ : Type} (items : List α) (value? : α → Option β)
    (wanted : β → Bool) (told : β → List γ) :
    ((items.filterMap value?).filter wanted).flatMap told =
      items.flatMap fun item =>
        match value? item with
        | none => []
        | some value => if wanted value then told value else [] := by
  induction items with
  | nil => rfl
  | cons item rest ih =>
    rw [List.flatMap_cons, ← ih, List.filterMap_cons]
    cases value? item with
    | none => rfl
    | some value =>
      dsimp only
      rw [List.filter_cons]
      split
      · rw [List.flatMap_cons]
      · rfl

theorem orphans_eq_flatMap (tree : FileTree) (spaces languages : List String) :
    catalogue.orphans tree spaces languages =
      ((tree.namesIn catalogue.folder).mergeSort fun a b => a ≤ b).flatMap
        (catalogue.orphansAt tree spaces languages) := by
  unfold orphans
  rw [list_eq, flatMap_filter_filterMap]
  refine List.flatMap_congr fun name _ => ?_
  unfold orphansAt
  cases catalogue.stored? tree name <;> rfl

/-- Only the name of a table of another namespace tells anything. -/
theorem nameParts?_of_orphansAt {spaces languages : List String} {name : String}
    (some : catalogue.orphansAt tree spaces languages name ≠ []) :
    ∃ space language, catalogue.nameParts? name = .some (space, language) ∧ space ∉ spaces ∧
      language ∈ languages := by
  unfold orphansAt at some
  cases found : catalogue.stored? tree name with
  | none =>
    rw [found] at some
    exact absurd rfl some
  | some table =>
    rw [found] at some
    dsimp only at some
    split at some
    · rename_i other
      rw [Bool.and_eq_true, Bool.not_eq_true', List.contains_iff_mem] at other
      exact ⟨table.space, table.language, (stored?_eq_some_iff.mp found).2.2,
        by simpa using other.1, other.2⟩
    · exact absurd rfl some

/-- What is said about a file depends on what its path finds. -/
theorem orphansAt_congr {other : FileTree} {spaces languages : List String} {name : String}
    (h : ∀ entry, tree.find (catalogue.folder.join name) = .ok entry ↔
      other.find (catalogue.folder.join name) = .ok entry) :
    catalogue.orphansAt tree spaces languages name =
      catalogue.orphansAt other spaces languages name := by
  have file : tree.isFile (catalogue.folder.join name) =
      other.isFile (catalogue.folder.join name) := by
    unfold FileTree.isFile
    cases found : tree.find (catalogue.folder.join name) with
    | ok entry => rw [(h entry).mp found]
    | error error =>
      cases found' : other.find (catalogue.folder.join name) with
      | error error' => rfl
      | ok entry =>
        rw [(h entry).mpr found'] at found
        cases found
  have same : catalogue.stored? tree name = catalogue.stored? other name := by
    unfold stored?
    dsimp only
    rw [file]
  unfold orphansAt
  rw [← same]
  cases found : catalogue.stored? tree name with
  | none => rfl
  | some table =>
    dsimp only
    rw [(stored?_eq_some_iff.mp found).1, read_congr h]

/-- Items that tell nothing can be left out. -/
theorem flatMap_eq_of_telling {α β : Type} (items : List α) (told : α → List β) :
    items.flatMap told = (items.filter fun item => told item ≠ []).flatMap told := by
  induction items with
  | nil => rfl
  | cons item rest ih =>
    rw [List.flatMap_cons, List.filter_cons, ih]
    by_cases some : told item = []
    · rw [if_neg (by simpa using some), some, List.nil_append]
    · rw [if_pos (by simpa using some), List.flatMap_cons]

/-- What is told of two lists of different items, if the same items tell anything. -/
theorem flatMap_perm_of_telling {α β : Type} {items others : List α} {told : α → List β}
    (distinct : items.Nodup) (distinct' : others.Nodup)
    (same : ∀ item, told item ≠ [] → (item ∈ items ↔ item ∈ others)) :
    (items.flatMap told).Perm (others.flatMap told) := by
  rw [flatMap_eq_of_telling items, flatMap_eq_of_telling others]
  refine List.Perm.flatMap_right _ ?_
  refine (List.perm_ext_iff_of_nodup (distinct.filter _) (distinct'.filter _)).mpr fun item => ?_
  simp only [List.mem_filter, decide_eq_true_eq]
  exact and_congr_left (same item)

/-- Texts told in the order of the names, from two lists of names that differ only in names that
tell nothing. -/
theorem flatMap_mergeSort_congr {β : Type} {names others : List String}
    {told told' : String → List β} (distinct : names.Nodup) (distinct' : others.Nodup)
    (here : ∀ name ∈ names, told name ≠ [] → name ∈ others ∧ told name = told' name)
    (there : ∀ name ∈ others, told' name ≠ [] → name ∈ names ∧ told name = told' name) :
    (names.mergeSort fun a b => a ≤ b).flatMap told =
      (others.mergeSort fun a b => a ≤ b).flatMap told' := by
  have sorted (names : List String) (told : String → List β) :
      ((names.mergeSort fun a b => a ≤ b).filter fun name => told name ≠ []).SortedLE :=
    ((List.sortedLE_mergeSort (l := names)).pairwise.filter _).sortedLE
  -- The names that tell something are the same, and sorted.
  have same : ((names.mergeSort fun a b => a ≤ b).filter fun name => told name ≠ []) =
      (others.mergeSort fun a b => a ≤ b).filter fun name => told' name ≠ [] := by
    refine List.Perm.eq_of_sortedLE (sorted _ _) (sorted _ _) ?_
    refine (List.perm_ext_iff_of_nodup ?_ ?_).mpr fun name => ?_
    · exact (List.nodup_mergeSort.mpr distinct).filter _
    · exact (List.nodup_mergeSort.mpr distinct').filter _
    · simp only [List.mem_filter, List.mem_mergeSort, decide_eq_true_eq]
      constructor
      · rintro ⟨known, some⟩
        obtain ⟨known', same⟩ := here name known some
        exact ⟨known', same ▸ some⟩
      · rintro ⟨known, some⟩
        obtain ⟨known', same⟩ := there name known some
        exact ⟨known', same ▸ some⟩
  -- Those that tell nothing can be left out on both sides.
  rw [flatMap_eq_of_telling _ told, flatMap_eq_of_telling _ told', ← same]
  refine List.flatMap_congr fun name h => ?_
  obtain ⟨known, some⟩ := List.mem_filter.mp h
  exact (here name (List.mem_mergeSort.mp known) (by simpa using some)).2

end Catalogue

end Phrasebook
