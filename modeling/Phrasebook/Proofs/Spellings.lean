import Phrasebook.Proofs.FileTree
import Phrasebook.Program.Load

/-!
# The paths of a file

Many paths lead to one file, but only a few of them are in normal form: one from the root and one
from the current folder, each behind some steps up. Since paths that are opened are short, the files
of a tree have a bounded number of normal forms.

- `Path.same_normalize_iff`: normal forms with the same components are equal;
- `Path.normalize_eq_spelling`: a normal form is told by where the path leads;
- `FileTree.spellings`, `mem_spellings`: all normal forms of paths that are opened;
- `Imports.exists_of_resolve?`: imports lead to such paths.
-/

namespace Phrasebook

namespace Path

/-! ## Components of normal forms -/

section

variable {rooted : Bool} {ups : Nat} {names : List String}

theorem pieces_of_start_here {path : Path} (h : path.parts.start = some .here) :
    ['.'] ∈ pieces path.text.toList := by
  unfold parts at h
  split at h
  · cases h
  · next rest written => exact written ▸ List.mem_cons_self
  · cases h

theorem start_spell (isStep : ∀ name ∈ names, IsStep name) :
    (spell rooted ups names).parts.start = if rooted then some .root else none := by
  have absolute := (@steps_spell rooted ups names isStep).2
  rw [isAbsolute_eq] at absolute
  cases rooted with
  | true => simpa using absolute
  | false =>
    rcases parts_start (spell false ups names) with start | start | ⟨start, -⟩
    · rw [start] at absolute
      cases absolute
    · -- No piece of a normal form is a dot.
      have dot := pieces_of_start_here start
      have written : (spell false ups names).text.toList =
          joinPieces (List.replicate ups ['.', '.'] ++ names.map String.toList) :=
        String.toList_ofList
      rw [written] at dot
      cases empty : List.replicate ups ['.', '.'] ++ names.map String.toList with
      | nil =>
        rw [empty] at dot
        exact absurd (List.mem_singleton.mp dot) (by decide)
      | cons first rest =>
        rw [pieces_joinPieces (empty ▸ List.cons_ne_nil _ _) fun piece h =>
          (List.mem_append.mp h).elim (fun up => List.eq_of_mem_replicate up ▸ by decide)
            fun name => (isStep_of_mem_map isStep name).1] at dot
        rcases List.mem_append.mp dot with up | name
        · cases List.eq_of_mem_replicate up
        · cases (isStep_of_mem_map isStep name).2.1
    · exact start

/-- The components of a normal form are those that it is made of. -/
theorem components_spell (isStep : ∀ name ∈ names, IsStep name) :
    (spell rooted ups names).components =
      (if rooted then [.root] else []) ++ (List.replicate ups .up ++ names.map .name) := by
  rw [components_eq, start_spell isStep, (steps_spell isStep).1, List.map_append,
    List.map_replicate, List.map_map]
  congr 1
  · cases rooted <;> rfl
  · congr 1
    refine List.map_congr_left fun name h => ?_
    rw [Function.comp_apply, componentOf, if_neg (isStep name h).2.2, String.ofList_toList]

end

/-- Normal forms with the same components are equal. -/
theorem same_normalize_iff {path other : Path} :
    path.normalize.same other.normalize = true ↔ path.normalize = other.normalize := by
  refine ⟨fun same => ?_, fun same => by rw [same]; exact beq_self_eq_true _⟩
  have rebuilt (path : Path) : path.normalize = ofComponents path.normalize.components := by
    obtain ⟨ups, names, spelled, -, isStep, -⟩ := path.normalize_spec
    rw [spelled, components_spell isStep, ofComponents_eq]
  rw [rebuilt path, rebuilt other, eq_of_beq same]

/-! ## Where normal forms lead -/

/-- A location so many steps up. -/
def above (ups : Nat) (location : Location) : Location := location.take (location.length - ups)

/-- Settled steps lead where the steps do. -/
theorem foldl_advance_eq (steps : List (List Char)) (start : Location)
    (settled : Nat × List String) :
    steps.foldl advance (above settled.1 start ++ settled.2.reverse) =
      above (steps.foldl settle settled).1 start ++ (steps.foldl settle settled).2.reverse := by
  induction steps generalizing settled with
  | nil => rfl
  | cons piece rest ih =>
    rw [List.foldl_cons, List.foldl_cons, ← ih]
    congr 1
    obtain ⟨ups, names⟩ := settled
    by_cases up : piece = ['.', '.']
    · subst up
      rw [advance_up]
      cases names with
      | cons name others =>
        rw [settle_back, List.reverse_cons, ← List.append_assoc, List.dropLast_concat]
      | nil =>
        -- A step up with no name to take back shortens what is left of the start.
        simp only [settle_up, above, List.reverse_nil, List.append_nil, List.dropLast_eq_take,
          List.take_take, List.length_take]
        congr 1
        omega
    · rw [advance_name up, settle_name up, List.reverse_cons, List.append_assoc]

/-- The normal form of a path to a location, from the root or from the current folder, behind so
many steps up. -/
def spelling (here : Location) (rooted : Bool) (ups : Nat) (location : Location) : Path :=
  spell rooted ups (if rooted then location else location.drop (here.length - ups))

/-- A normal form is told by where the path leads, and by the steps up in it. -/
theorem normalize_eq_spelling (path : Path) (here : Location) :
    ∃ ups ≤ path.steps.length,
      path.normalize = spelling here path.isAbsolute ups (path.destination here) := by
  obtain ⟨ups, names, spelled, settled, -, few⟩ := path.normalize_spec
  refine ⟨ups, few, ?_⟩
  have leads : path.destination here =
      above ups (if path.isAbsolute then [] else here) ++ names := by
    have whole := foldl_advance_eq path.steps (if path.isAbsolute then [] else here) (0, [])
    rw [← settled, List.reverse_reverse] at whole
    rw [destination, ← whole]
    simp [above]
  rw [spelled, spelling, leads]
  cases path.isAbsolute with
  | true => simp [above]
  | false => simp [above]

/-- A path has no more steps than characters. -/
theorem length_steps_le (path : Path) : path.steps.length ≤ path.text.toList.length := by
  unfold steps
  induction path.text.toList with
  | nil => exact Nat.le_refl _
  | cons c rest ih =>
    obtain ⟨piece, others, cut⟩ := List.exists_cons_of_ne_nil (pieces_ne_nil rest)
    by_cases slash : c = '/'
    · rw [pieces, if_pos slash, List.filter_cons_of_neg (by simp [isBlank])]
      exact Nat.le_succ_of_le ih
    · rw [pieces_cons slash cut]
      rw [cut] at ih
      have grown := List.length_filter_le (fun piece => !isBlank piece) [c :: piece]
      have kept : (others.filter fun piece => !isBlank piece).length ≤ rest.length :=
        Nat.le_trans (List.Sublist.filter _ (List.sublist_cons_self piece others)).length_le ih
      rw [← List.singleton_append, List.filter_append, List.length_append, List.length_cons]
      rw [List.length_singleton] at grown
      omega

end Path

theorem Text.length_le_byteLength (cs : List Char) : cs.length ≤ Text.byteLength cs := by
  induction cs with
  | nil => exact Nat.le_refl _
  | cons c rest ih =>
    have some := Char.utf8Size_pos c
    rw [List.length_cons, Text.byteLength]
    omega

/-! ## All normal forms -/

namespace FileTree

/-- The normal forms of all locations in a tree. -/
def spellings (tree : FileTree) : List Path :=
  [true, false].flatMap fun rooted =>
    (List.range (Program.Imports.pathLimit + 1)).flatMap fun ups =>
      tree.entries.keys.map (Path.spelling tree.here rooted ups)

theorem length_spellings (tree : FileTree) :
    tree.spellings.length = 2 * (Program.Imports.pathLimit + 1) * tree.entries.size := by
  have keys : tree.entries.keys.length = tree.entries.size := List.length_map _
  simp [spellings, List.length_flatMap, keys, List.map_const', Nat.two_mul, Nat.add_mul]

/-- The normal form of a path that is opened and leads to a file is among them. -/
theorem mem_spellings {tree : FileTree} {path : Path}
    (h : Program.Imports.isFile tree path = true) : path.normalize ∈ tree.spellings := by
  obtain ⟨short, file⟩ := Bool.and_eq_true_iff.mp h
  have short : Text.byteLength path.text.toList ≤ Program.Imports.pathLimit := by
    simpa [Program.Imports.isShort] using short
  obtain ⟨content, found⟩ : ∃ content, tree.find path = .ok (.file content) := by
    unfold isFile at file
    split at file
    · exact ⟨_, by assumption⟩
    · cases file
  obtain ⟨location, located, present⟩ := find_eq_ok_iff.mp found
  have known : location ∈ tree.entries.keys := by
    unfold entryAt? at present
    split at present
    · cases present
    · exact OrderedMap.mem_keys_iff.mpr ⟨_, present⟩
  obtain ⟨ups, few, spelled⟩ := path.normalize_eq_spelling tree.here
  -- A path has no more steps than bytes, and its length is limited.
  have bounded : ups < Program.Imports.pathLimit + 1 := by
    have steps := path.length_steps_le
    have letters := Text.length_le_byteLength path.text.toList
    omega
  rw [spelled, ← locate_eq_ok located]
  refine List.mem_flatMap.mpr ⟨path.isAbsolute, by cases path.isAbsolute <;> simp, ?_⟩
  exact List.mem_flatMap.mpr ⟨ups, List.mem_range.mpr bounded, List.mem_map_of_mem known⟩

end FileTree

/-! ## Imports -/

namespace Program.Imports

variable {tree : FileTree} {found : Path}

theorem isFile_of_firstFile? {paths : List Path} (h : firstFile? tree paths = some found) :
    isFile tree found = true :=
  List.find?_some h

theorem isFile_of_file? {base : Path} (h : file? tree base = some found) :
    isFile tree found = true :=
  isFile_of_firstFile? h

theorem isFile_of_folderFile? {folder : Path} (h : folderFile? tree folder = some found) :
    isFile tree found = true := by
  rcases Option.or_eq_some_iff.mp h with named | ⟨-, index⟩
  · obtain ⟨entry, -, h⟩ := List.exists_of_findSome?_eq_some named
    exact isFile_of_file? h
  · exact isFile_of_firstFile? index

theorem isFile_of_target? {base : Path} (h : target? tree base = some found) :
    isFile tree found = true := by
  rcases Option.or_eq_some_iff.mp h with file | ⟨-, folder⟩
  · exact isFile_of_file? file
  · split at folder
    · exact isFile_of_folderFile? folder
    · cases folder

theorem isFile_of_installed? {specifier : String} {folder : Path}
    (h : installed? tree specifier folder = some found) : isFile tree found = true := by
  rcases Option.or_eq_some_iff.mp h with own | ⟨-, types⟩
  · exact isFile_of_target? own
  · exact isFile_of_target? types

/-- A specifier leads to the normal form of a path that is opened and leads to a file. -/
theorem exists_of_resolve? {source target : Path} {specifier : String}
    (h : resolve? tree source specifier = some target) :
    ∃ path, isFile tree path = true ∧ target = path.normalize := by
  unfold resolve? at h
  obtain ⟨path, reached, rfl⟩ := Option.map_eq_some_iff.mp h
  refine ⟨path, ?_, rfl⟩
  split at reached
  · exact isFile_of_target? reached
  · split at reached
    · exact isFile_of_target? reached
    · obtain ⟨folder, -, h⟩ := List.exists_of_findSome?_eq_some reached
      exact isFile_of_installed? h

end Program.Imports

end Phrasebook
