import Phrasebook.Proofs.Paths
import Phrasebook.Scan.Files

/-!
# What a scan finds

- `Path.compare_eq_iff`: paths count as equal by their components;
- `mem_components_foldl_insertPath`: what is put into a list of files is there, by components;
- `Scan.Candidate`: the sources below the included places that the ignores leave;
- `Scan.drops_filter`: what is dropped beside the excluded folders does not depend on these;
- `Scan.candidate_of_mem_run`, `Scan.mem_run_of_candidate`: a scan finds the candidates that do not
  start with an excluded folder.
-/

namespace Phrasebook

namespace Path

theorem Component.compare_eq_iff {component other : Component} :
    component.compare other = .eq ↔ component = other := by
  cases component <;> cases other
  case name.name text text' =>
    rw [name.injEq]
    exact Std.LawfulEqOrd.compare_eq_iff_eq
  all_goals simp [compare, rank, Ord.compare, compareOfLessAndEq]

theorem compareAll_eq_iff {components others : List Component} :
    compareAll components others = .eq ↔ components = others := by
  induction components generalizing others with
  | nil => cases others <;> simp [compareAll]
  | cons component rest ih =>
    cases others with
    | nil => simp [compareAll]
    | cons other later =>
      rw [compareAll, List.cons.injEq, ← ih, ← Component.compare_eq_iff]
      cases component.compare other <;> simp

/-- Paths are the same place in the order exactly if they have the same components. -/
theorem compare_eq_iff {path other : Path} :
    path.compare other = .eq ↔ path.components = other.components := compareAll_eq_iff

end Path

namespace Scan

/-! ## Lists of files -/

theorem mem_of_mem_insertPath {file path : Path} {files : List Path}
    (h : file ∈ insertPath path files) : file = path ∨ file ∈ files := by
  induction files with
  | nil => exact .inl (List.mem_singleton.mp h)
  | cons other rest ih =>
    unfold insertPath at h
    split at h
    · exact List.mem_cons.mp h
    · exact .inr h
    · rcases List.mem_cons.mp h with rfl | h
      · exact .inr List.mem_cons_self
      · exact (ih h).imp_right (List.mem_cons_of_mem _)

theorem mem_components_insertPath {path : Path} {files : List Path} {components} :
    components ∈ (insertPath path files).map Path.components ↔
      components = path.components ∨ components ∈ files.map Path.components := by
  induction files with
  | nil => simp [insertPath]
  | cons other rest ih =>
    unfold insertPath
    split
    · rw [List.map_cons, List.mem_cons]
    · next same =>
      rw [Path.compare_eq_iff.mp same, List.map_cons, List.mem_cons]
      exact (or_iff_right_of_imp .inl).symm
    · rw [List.map_cons, List.mem_cons, ih, List.map_cons, List.mem_cons]
      exact or_left_comm

theorem mem_of_mem_foldl_insertPath {paths files : List Path} {file : Path}
    (h : file ∈ paths.foldl (fun files path => insertPath path files) files) :
    file ∈ paths ∨ file ∈ files := by
  induction paths generalizing files with
  | nil => exact .inr h
  | cons path rest ih =>
    rcases ih h with later | here
    · exact .inl (List.mem_cons_of_mem _ later)
    · rcases mem_of_mem_insertPath here with rfl | here
      · exact .inl List.mem_cons_self
      · exact .inr here

/-- Everything that is put into a list of files is there, as far as components tell. -/
theorem mem_components_foldl_insertPath {paths files : List Path} {components} :
    components ∈ (paths.foldl (fun files path => insertPath path files) files).map Path.components ↔
      components ∈ paths.map Path.components ∨ components ∈ files.map Path.components := by
  induction paths generalizing files with
  | nil => simp
  | cons path rest ih =>
    rw [List.foldl_cons, ih, mem_components_insertPath, List.map_cons, List.mem_cons, or_assoc]
    exact or_left_comm

/-! ## What is left out -/

/-- Add an ignore to what is left out. -/
def readIgnore (base : Path) (state : Filter × List Warning) (text : String) :
    Filter × List Warning :=
  if Glob.isPattern text then
    match Glob.parse text with
    | .ok glob => ({ state.1 with patterns := state.1.patterns ++ [glob] }, state.2)
    | .error fault => (state.1, state.2 ++ [.badIgnore text fault])
  else ({ state.1 with places := state.1.places ++ [base.join text] }, state.2)

/-- The patterns that are left out of each scan. -/
def builtIn (options : Options) : List Glob :=
  ((if options.ignoreTests then testPatterns else []) ++ [dependencyPattern]).filterMap fun text =>
    (Glob.parse text).toOption

theorem filter_eq (options : Options) (base : Path) :
    options.filter base =
      let read := options.ignores.foldl (readIgnore base) (⟨options.excluded, []⟩, [])
      ({ read.1 with patterns := read.1.patterns ++ builtIn options }, read.2) := rfl

/-- The folders that are excluded stand before all places that ignores leave out. -/
theorem foldl_readIgnore (excluded : List Path) (base : Path) (ignores : List String) :
    ignores.foldl (readIgnore base) (⟨excluded, []⟩, []) =
      let read := ignores.foldl (readIgnore base) (⟨[], []⟩, [])
      ({ read.1 with places := excluded ++ read.1.places }, read.2) := by
  let exclude (state : Filter × List Warning) : Filter × List Warning :=
    ({ state.1 with places := excluded ++ state.1.places }, state.2)
  -- To read an ignore and to exclude the folders does not depend on the order.
  have start : exclude (⟨[], []⟩, []) = (⟨excluded, []⟩, []) := by simp [exclude]
  rw [← start]
  refine List.foldl_hom exclude fun state text => ?_
  unfold readIgnore
  split
  · cases Glob.parse text <;> rfl
  · simp [exclude]

/-- Folders are excluded on top of what the ignores leave out. -/
theorem drops_filter (options : Options) (base path : Path) :
    (options.filter base).1.drops path =
      (options.excluded.any path.startsWith ||
        ({ options with excluded := [] }.filter base).1.drops path) := by
  rw [filter_eq, filter_eq, foldl_readIgnore]
  dsimp only [Filter.drops]
  rw [List.any_append, Bool.or_assoc]
  rfl

/-! ## What is included -/

/-- The places that one include gives. -/
def placesOf (tree : FileTree) (base : Path) (text : String) : List Path :=
  let path := base.join text
  if Glob.isPattern text then
    match Pattern.parse path.text with
    | .ok pattern => (pattern.expand tree).filter tree.isFolder
    | .error _ => []
  else if tree.has path then [path] else []

theorem places_eq (options : Options) (tree : FileTree) (base : Path) :
    (options.places tree base).1 =
      if options.includes.isEmpty then [base]
      else options.includes.flatMap (placesOf tree base) := by
  unfold Options.places
  split
  · rfl
  · -- One include after the other adds its places, whatever the warnings are.
    suffices h : ∀ state : List Path × List Warning,
        (options.includes.foldl _ state).1 =
          state.1 ++ options.includes.flatMap (placesOf tree base) from h ([], [])
    intro state
    induction options.includes generalizing state with
    | nil => simp
    | cons text rest ih =>
      rw [List.foldl_cons, ih, List.flatMap_cons, ← List.append_assoc]
      congr 1
      unfold placesOf
      dsimp only
      split
      · cases Pattern.parse (base.join text).text <;> simp
      · split <;> simp

/-! ## Runs -/

/-- The sources at a place that a filter leaves. -/
def sourcesAt (tree : FileTree) (filter : Filter) (place : Path) : List Path :=
  match tree.walk place with
  | .error _ => []
  | .ok paths => paths.filter fun path => !filter.drops path && tree.isFile path && isSource path

theorem run_files (tree : FileTree) (base : Path) (options : Options) :
    (run tree base options).files =
      ((options.places tree base).1.flatMap (sourcesAt tree (options.filter base).1)).foldl
        (fun files path => insertPath path files) [] := by
  unfold run
  dsimp only
  suffices h : ∀ (places : List Path) (result : Result), (places.foldl _ result).files =
      (places.flatMap (sourcesAt tree (options.filter base).1)).foldl
        (fun files path => insertPath path files) result.files from h _ _
  intro places
  induction places with
  | nil => exact fun _ => rfl
  | cons place rest ih =>
    intro result
    rw [List.foldl_cons, ih, List.flatMap_cons, List.foldl_append]
    congr 1
    unfold sourcesAt
    split <;> simp [*]

theorem mem_sourcesAt {tree : FileTree} {filter : Filter} {place path : Path} :
    path ∈ sourcesAt tree filter place ↔
      (∃ paths, tree.walk place = .ok paths ∧ path ∈ paths) ∧
        filter.drops path = false ∧ tree.isFile path = true ∧ isSource path = true := by
  unfold sourcesAt
  cases tree.walk place <;> simp [and_assoc]

/-- A source below an included place that the ignores leave. -/
structure Candidate (tree : FileTree) (base : Path) (options : Options) (path : Path) : Prop where
  below : ∃ place ∈ (options.places tree base).1, ∃ paths,
    tree.walk place = .ok paths ∧ path ∈ paths
  isFile : tree.isFile path = true
  isSource : isSource path = true
  kept : ({ options with excluded := [] }.filter base).1.drops path = false

variable {tree : FileTree} {base path : Path} {options : Options}

theorem mem_sourcesAt_iff :
    path ∈ (options.places tree base).1.flatMap (sourcesAt tree (options.filter base).1) ↔
      Candidate tree base options path ∧
        ∀ folder ∈ options.excluded, path.startsWith folder = false := by
  have drops_iff : (options.filter base).1.drops path = false ↔
      (∀ folder ∈ options.excluded, path.startsWith folder = false) ∧
        ({ options with excluded := [] }.filter base).1.drops path = false := by
    rw [drops_filter, Bool.or_eq_false_iff, List.any_eq_false]
    simp only [Bool.not_eq_true]
  simp only [List.mem_flatMap, mem_sourcesAt, drops_iff]
  constructor
  · rintro ⟨place, among, walked, ⟨outside, kept⟩, isFile, isSource⟩
    exact ⟨⟨⟨place, among, walked⟩, isFile, isSource, kept⟩, outside⟩
  · rintro ⟨⟨⟨place, among, walked⟩, isFile, isSource, kept⟩, outside⟩
    exact ⟨place, among, walked, ⟨outside, kept⟩, isFile, isSource⟩

/-- A scan only finds candidates outside the excluded folders. -/
theorem candidate_of_mem_run (h : path ∈ (run tree base options).files) :
    Candidate tree base options path ∧
      ∀ folder ∈ options.excluded, path.startsWith folder = false := by
  rw [run_files] at h
  rcases mem_of_mem_foldl_insertPath h with h | h
  · exact mem_sourcesAt_iff.mp h
  · cases h

/-- A scan finds every candidate outside the excluded folders, as far as components tell. -/
theorem mem_run_of_candidate (h : Candidate tree base options path)
    (outside : ∀ folder ∈ options.excluded, path.startsWith folder = false) :
    path.components ∈ (run tree base options).files.map Path.components := by
  rw [run_files, mem_components_foldl_insertPath]
  exact .inl (List.mem_map_of_mem (mem_sourcesAt_iff.mpr ⟨h, outside⟩))

end Scan
end Phrasebook
