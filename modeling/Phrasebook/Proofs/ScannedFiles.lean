import Phrasebook.Proofs.PatternTexts
import Phrasebook.Proofs.Walks

/-!
# Which files a scan selects

Includes and literal ignores are seen from the base. Patterns are tried on the whole path by which a
walk comes to a file, with the base in front as it was written.

- `Scan.Site`: a folder from which sources are scanned;
- `Site.Walked`, `Walked.spelled`: a path by which a walk comes to names below the base spells them;
- `Site.Reached`: the names of sources that the walks come to and nothing leaves out;
- `Site.mem_files_iff`: a scan finds these exactly.
-/

namespace Phrasebook

namespace Scan

/-! ## Options -/

/-- The places that are left out with everything below them. -/
def Options.leftOut (options : Options) (base : Path) : List Path :=
  options.excluded ++ (options.ignores.filter fun text => !Glob.isPattern text).map base.join

/-- The patterns among the ignores, as far as they can be read. -/
def Options.ignoreGlobs (options : Options) : List Glob :=
  (options.ignores.filter Glob.isPattern).filterMap fun text => (Glob.parse text).toOption

/-- The places at which a scan starts, if they exist. -/
def Options.starts (options : Options) (base : Path) : List Path :=
  if options.includes.isEmpty then [base] else options.includes.map base.join

theorem foldl_readIgnore_eq (base : Path) (ignores : List String)
    (state : Filter × List Warning) :
    (ignores.foldl (readIgnore base) state).1 =
      ⟨state.1.places ++ (ignores.filter fun text => !Glob.isPattern text).map base.join,
        state.1.patterns ++ (ignores.filter Glob.isPattern).filterMap fun text =>
          (Glob.parse text).toOption⟩ := by
  induction ignores generalizing state with
  | nil => simp
  | cons text rest ih =>
    rw [List.foldl_cons, ih]
    unfold readIgnore
    by_cases isPattern : Glob.isPattern text = true
    · rw [if_pos isPattern]
      cases read : Glob.parse text <;> simp [isPattern, read, Except.toOption]
    · rw [if_neg isPattern]
      simp [isPattern]

theorem filter_fst (options : Options) (base : Path) :
    (options.filter base).1 =
      ⟨options.leftOut base, options.ignoreGlobs ++ builtIn options⟩ := by
  rw [filter_eq]
  dsimp only
  rw [foldl_readIgnore_eq]
  rfl

/-- An include that names a place below the base. -/
structure Literal (text : String) : Prop where
  plain : Glob.isPattern text = false
  relative : (Path.mk text).isAbsolute = false
  forward : ['.', '.'] ∉ (Path.mk text).steps

instance (text : String) : Decidable (Literal text) :=
  decidable_of_iff (Glob.isPattern text = false ∧ (Path.mk text).isAbsolute = false ∧
      ['.', '.'] ∉ (Path.mk text).steps)
    ⟨fun ⟨plain, relative, forward⟩ => ⟨plain, relative, forward⟩,
      fun ⟨plain, relative, forward⟩ => ⟨plain, relative, forward⟩⟩

/-! ## Sites -/

/-- A folder of a file tree, from which sources are scanned. -/
structure Site where
  tree : FileTree
  base : Path
  wellFormed : tree.WellFormed
  tidy : tree.Tidy
  isFolder : tree.isFolder base = true

namespace Site

/-- Where the base is. -/
def root (site : Site) : Location := site.base.destination site.tree.here

/-- What stands at the given names below the base. -/
def entryAt? (site : Site) (names : Location) : Option Entry :=
  site.tree.entryAt? (site.root ++ names)

/-- Whether a scan finds the given names below the base. -/
def Finds (site : Site) (options : Options) (names : Location) : Prop :=
  site.base.components ++ names.map .name ∈
    (run site.tree site.base options).files.map Path.components

/-- A walk from an existing start of a scan comes to the given names below the base by the path. -/
def Walked (site : Site) (options : Options) (names : Location) (path : Path) : Prop :=
  ∃ place ∈ options.starts site.base, site.tree.has place = true ∧ ∃ rest : List String,
    place.steps ++ rest.map String.toList = site.base.steps ++ names.map String.toList ∧
      path = rest.foldl Path.join place

/-- A source outside the places that are left out, by components, to which a walk comes by a path
that fits no pattern. -/
structure Reached (site : Site) (options : Options) (names : Location) : Prop where
  isFile : ∃ content, site.entryAt? names = some (.file content)
  isSource : (names.getLast?.bind Path.extensionOf?).any sourceExtensions.contains = true
  outside : ∀ folder ∈ options.leftOut site.base,
    ¬ folder.components <+: site.base.components ++ names.map .name
  unmatched : ∃ path, site.Walked options names path ∧
    ∀ glob ∈ options.ignoreGlobs ++ builtIn options, glob.matchesText path.text = false

/-! ## Paths of walks -/

section

variable {site : Site} {options : Options} {names : Location} {path : Path}
  {entry : Entry}

theorem find_base (site : Site) : site.tree.find site.base = .ok .folder := by
  have isFolder := site.isFolder
  unfold FileTree.isFolder at isFolder
  split at isFolder
  · assumption
  · cases isFolder

theorem has_base (site : Site) : site.tree.has site.base = true :=
  FileTree.has_iff.mpr ⟨_, site.find_base⟩

theorem locate_base (site : Site) : site.tree.locate site.base = .ok site.root := by
  obtain ⟨location, located, -⟩ := FileTree.find_eq_ok_iff.mp site.find_base
  rw [located, FileTree.locate_eq_ok located]
  rfl

theorem base_text_ne (site : Site) : site.base.text ≠ "" :=
  FileTree.text_ne_of_locate site.locate_base

theorem entryAt?_nil (site : Site) : site.entryAt? [] = some .folder := by
  obtain ⟨location, located, present⟩ := FileTree.find_eq_ok_iff.mp site.find_base
  rw [entryAt?, root, List.append_nil, ← FileTree.locate_eq_ok located]
  exact present

theorem entryAt?_root (site : Site) : site.tree.entryAt? site.root = some .folder := by
  simpa [entryAt?] using site.entryAt?_nil

/-- A file has a name. -/
theorem names_ne_nil {content : Content} (h : site.entryAt? names = some (.file content)) :
    names ≠ [] := by
  rintro rfl
  rw [entryAt?_nil] at h
  cases h

theorem isName (present : site.entryAt? names = some entry) :
    ∀ name ∈ names, FileTree.IsName name := fun _ among =>
  site.tidy.isName present (List.mem_append_right _ among)

theorem isStep (present : site.entryAt? names = some entry) :
    ∀ name ∈ names, Path.IsStep name := fun name among => (isName present name among).isStep

/-- A path is spelled by the given names behind the base. -/
structure Spelled (site : Site) (path : Path) (names : Location) : Prop where
  isStep : ∀ name ∈ names, Path.IsStep name
  steps : path.steps = site.base.steps ++ names.map String.toList
  components : path.components = site.base.components ++ names.map .name
  destination : path.destination site.tree.here = site.root ++ names

theorem spelled_base (site : Site) : site.Spelled site.base [] :=
  ⟨List.forall_mem_nil _, by simp, by simp, by simp [root]⟩

theorem Spelled.foldl_join (spelled : site.Spelled path names) (written : path.text ≠ "")
    {rest : List String} (isStep : ∀ name ∈ rest, Path.IsStep name) :
    site.Spelled (rest.foldl Path.join path) (names ++ rest) := by
  obtain ⟨components, steps⟩ := Path.components_foldl_join isStep written
  refine ⟨fun name among => ?_, ?_, ?_, ?_⟩
  · exact (List.mem_append.mp among).elim (spelled.isStep name) (isStep name)
  · rw [steps, spelled.steps, List.map_append, List.append_assoc]
  · rw [components, spelled.components, List.map_append, List.append_assoc]
  · rw [Path.destination_foldl_join isStep, spelled.destination, List.append_assoc]

/-- A start of a scan is spelled by the steps of its include. -/
theorem exists_spelled_of_start (literal : ∀ text ∈ options.includes, Literal text) {place : Path}
    (h : place ∈ options.starts site.base) : ∃ front, site.Spelled place front := by
  unfold Options.starts at h
  split at h
  · rw [List.mem_singleton.mp h]
    exact ⟨[], site.spelled_base⟩
  · obtain ⟨text, among, rfl⟩ := List.mem_map.mp h
    obtain ⟨-, relative, forward⟩ := literal text among
    refine ⟨(Path.mk text).steps.map String.ofList, fun name inside => ?_, ?_, ?_, ?_⟩
    · obtain ⟨piece, here, rfl⟩ := List.mem_map.mp inside
      exact Path.isStep_of_mem_steps here fun up => forward (up ▸ here)
    · rw [(Path.steps_join_relative relative).1]
      simp
    · rw [Path.components_join site.base_text_ne relative, Path.map_componentOf forward]
    · exact Path.destination_join_forward relative forward _

theorem mem_places_iff (literal : ∀ text ∈ options.includes, Literal text) {place : Path} :
    place ∈ (options.places site.tree site.base).1 ↔
      place ∈ options.starts site.base ∧ site.tree.has place = true := by
  rw [places_eq, Options.starts]
  split
  · refine ⟨fun h => ⟨h, ?_⟩, And.left⟩
    exact List.mem_singleton.mp h ▸ site.has_base
  · rw [List.mem_flatMap, List.mem_map]
    constructor
    · rintro ⟨text, among, h⟩
      simp only [placesOf, (literal text among).plain, Bool.false_eq_true, if_false] at h
      obtain ⟨there, same⟩ := List.mem_ite_nil_right.mp h
      exact List.mem_singleton.mp same ▸ ⟨⟨text, among, rfl⟩, there⟩
    · rintro ⟨⟨text, among, rfl⟩, there⟩
      refine ⟨text, among, ?_⟩
      simp only [placesOf, (literal text among).plain, Bool.false_eq_true, if_false, there, if_true]
      exact List.mem_singleton_self _

/-- A walk goes from where its start leads, by names that stand behind those of the start. -/
theorem Walked.cut (literal : ∀ text ∈ options.includes, Literal text)
    (walked : site.Walked options names path) :
    ∃ place ∈ options.starts site.base, site.tree.has place = true ∧
      ∃ front rest : List String, site.Spelled place front ∧
        site.tree.locate place = .ok (site.root ++ front) ∧
          names = front ++ rest ∧ path = rest.foldl Path.join place := by
  obtain ⟨place, start, there, rest, same, reached⟩ := walked
  obtain ⟨front, spelled⟩ := exists_spelled_of_start literal start
  obtain ⟨_, found⟩ := FileTree.has_iff.mp there
  obtain ⟨location, located, -⟩ := FileTree.find_eq_ok_iff.mp found
  have here : location = site.root ++ front := by
    rw [FileTree.locate_eq_ok located, spelled.destination]
  refine ⟨place, start, there, front, rest, spelled, here ▸ located, ?_, reached⟩
  rw [spelled.steps, List.append_assoc, List.append_cancel_left_eq, ← List.map_append] at same
  exact ((List.map_inj_right fun _ _ => String.toList_inj.mp).mp same).symm

/-- A walk that comes to names spells them behind the base. -/
theorem Walked.spelled (literal : ∀ text ∈ options.includes, Literal text)
    (isStep : ∀ name ∈ names, Path.IsStep name) (walked : site.Walked options names path) :
    site.Spelled path names := by
  obtain ⟨place, -, -, front, rest, spelled, located, rfl, rfl⟩ := walked.cut literal
  exact spelled.foldl_join (FileTree.text_ne_of_locate located) fun name among =>
    isStep name (List.mem_append_right _ among)

/-- A walk that comes to names leads to what stands there. -/
theorem Walked.find_iff (literal : ∀ text ∈ options.includes, Literal text)
    (isStep : ∀ name ∈ names, Path.IsStep name) (walked : site.Walked options names path) :
    site.tree.find path = .ok entry ↔ site.entryAt? names = some entry := by
  constructor
  · intro found
    obtain ⟨location, located, present⟩ := FileTree.find_eq_ok_iff.mp found
    rwa [FileTree.locate_eq_ok located, (walked.spelled literal isStep).destination] at present
  · intro present
    obtain ⟨place, -, -, front, rest, -, located, rfl, rfl⟩ := walked.cut literal
    rw [entryAt?, ← List.append_assoc] at present
    refine FileTree.find_eq_ok_iff.mpr ⟨_, ?_, present⟩
    exact FileTree.locate_foldl_join site.wellFormed site.tidy located present

/-- The walks of a scan list the files to which they come. -/
theorem exists_walk_iff (literal : ∀ text ∈ options.includes, Literal text)
    (isFile : site.tree.isFile path = true) :
    (∃ place ∈ (options.places site.tree site.base).1, ∃ paths,
        site.tree.walk place = .ok paths ∧ path ∈ paths) ↔
      ∃ names, (∀ name ∈ names, Path.IsStep name) ∧ site.Walked options names path := by
  constructor
  · rintro ⟨place, among, paths, walked, listed⟩
    obtain ⟨start, there⟩ := (mem_places_iff literal).mp among
    obtain ⟨_, found⟩ := FileTree.has_iff.mp there
    obtain ⟨location, located, -⟩ := FileTree.find_eq_ok_iff.mp found
    obtain ⟨rest, known, reached⟩ := (FileTree.mem_walk_iff walked located).mp listed
    obtain ⟨front, spelled⟩ := exists_spelled_of_start literal start
    refine ⟨front ++ rest, fun name here => ?_, place, start, there, rest, ?_, reached⟩
    · rcases List.mem_append.mp here with before | behind
      · exact spelled.isStep name before
      · -- The names behind the start are names of the tree.
        have below := known.resolve_left (List.ne_nil_of_mem behind)
        exact (site.tidy _ below name (List.mem_append_right _ behind)).isStep
    · rw [spelled.steps, List.map_append, List.append_assoc]
  · rintro ⟨names, isStep, walked⟩
    obtain ⟨content, found⟩ := FileTree.isFile_iff.mp isFile
    have present := (walked.find_iff literal isStep).mp found
    obtain ⟨place, start, there, front, rest, -, located, rfl, rfl⟩ := walked.cut literal
    obtain ⟨_, found⟩ := FileTree.has_iff.mp there
    obtain ⟨paths, walk⟩ := FileTree.exists_walk found
    refine ⟨place, (mem_places_iff literal).mpr ⟨start, there⟩, paths, walk, ?_⟩
    refine (FileTree.mem_walk_iff walk located).mpr ⟨rest, ?_, rfl⟩
    by_cases none : rest = []
    · exact .inl none
    · rw [entryAt?, ← List.append_assoc] at present
      exact .inr (FileTree.mem_keys_of_entryAt? (by simp [none]) present)

theorem extension?_of_components {front : List Path.Component} (some : names ≠ [])
    (spelled : path.components = front ++ names.map .name) :
    path.extension? = names.getLast?.bind Path.extensionOf? := by
  obtain ⟨before, last, rfl⟩ := (List.eq_nil_or_concat names).resolve_left some
  unfold Path.extension? Path.fileName?
  rw [spelled]
  simp

theorem drops_eq_false_iff :
    (options.filter site.base).1.drops path = false ↔
      (∀ folder ∈ options.leftOut site.base, ¬ folder.components <+: path.components) ∧
        ∀ glob ∈ options.ignoreGlobs ++ builtIn options, glob.matchesText path.text = false := by
  rw [filter_fst, Filter.drops, Bool.or_eq_false_iff, List.any_eq_false, List.any_eq_false]
  simp only [Bool.not_eq_true, Path.startsWith, ← List.isPrefixOf_iff_prefix]

/-- A scan finds the files on its walks that nothing leaves out. -/
theorem mem_files_iff (literal : ∀ text ∈ options.includes, Literal text)
    {components : List Path.Component} :
    components ∈ (run site.tree site.base options).files.map Path.components ↔
      ∃ names, components = site.base.components ++ names.map .name ∧
        site.Reached options names := by
  rw [run_files, mem_components_foldl_insertPath, List.map_nil, or_iff_left List.not_mem_nil]
  constructor
  · -- What is found was come to by a walk, which spells it by the base and some names.
    intro found
    obtain ⟨path, listed, rfl⟩ := List.mem_map.mp found
    obtain ⟨place, among, here⟩ := List.mem_flatMap.mp listed
    obtain ⟨walk, kept, isFile, source⟩ := mem_sourcesAt.mp here
    obtain ⟨names, isStep, walked⟩ := (exists_walk_iff literal isFile).mp ⟨place, among, walk⟩
    obtain ⟨content, found⟩ := FileTree.isFile_iff.mp isFile
    have present := (walked.find_iff literal isStep).mp found
    have components := (walked.spelled literal isStep).components
    obtain ⟨outside, unmatched⟩ := drops_eq_false_iff.mp kept
    refine ⟨names, components, ⟨content, present⟩, ?_, components ▸ outside,
      path, walked, unmatched⟩
    rwa [isSource, extension?_of_components (names_ne_nil present) components] at source
  · -- A walk comes to what is reached, and nothing keeps it out.
    rintro ⟨names, rfl, ⟨content, present⟩, source, outside, path, walked, unmatched⟩
    have components := (walked.spelled literal (isStep present)).components
    have found := (walked.find_iff literal (isStep present)).mpr present
    have isFile := FileTree.isFile_iff.mpr ⟨content, found⟩
    obtain ⟨place, among, walk⟩ :=
      (exists_walk_iff literal isFile).mpr ⟨names, isStep present, walked⟩
    refine List.mem_map.mpr ⟨path, List.mem_flatMap.mpr ⟨place, among, ?_⟩, components⟩
    refine mem_sourcesAt.mpr ⟨walk, ?_, isFile, ?_⟩
    · exact drops_eq_false_iff.mpr ⟨components ▸ outside, unmatched⟩
    · rwa [isSource, extension?_of_components (names_ne_nil present) components]

end

end Site

end Scan

end Phrasebook
