import Phrasebook.Proofs.Projects
import Phrasebook.Proofs.StraightPaths

/-!
# Sources and excluded folders

The folders of the tables and of the outputs are excluded by the components of paths as they are
written, before these are brought to normal form.

- `Scan.Forward`: an include that never steps up after a name;
- `Scan.Candidate.straight`: what such includes lead to has a straight path;
- `Project.sources_inside_iff`: which sources lie in an excluded folder after all.
-/

namespace Phrasebook

namespace Scan

variable {tree : FileTree} {base path : Path} {options : Options}

/-- An include never steps up after a name. In a pattern, only parts that start with a dot can fit a
step up. -/
def Forward (base : Path) (text : String) : Prop :=
  if Glob.isPattern text then
    ∀ pattern, Pattern.parse (base.join text).text = .ok pattern → ∀ glob ∈ pattern.components,
      glob.tokens.head? = some (.letter '.') → glob.matchesText ".." = false
  else (base.join text).Direct

theorem isAbsolute_of_mem_places (absolute : base.isAbsolute = true) {place : Path}
    (h : place ∈ (options.places tree base).1) : place.isAbsolute = true := by
  rw [places_eq] at h
  split at h
  · rwa [List.mem_singleton.mp h]
  · obtain ⟨text, -, h⟩ := List.mem_flatMap.mp h
    unfold placesOf at h
    dsimp only at h
    split at h
    · split at h
      · next read =>
        exact Pattern.isAbsolute_of_mem_expand read (Path.isAbsolute_join absolute)
          (List.mem_filter.mp h).1
      · cases h
    · rw [List.mem_singleton.mp (List.mem_ite_nil_right.mp h).2]
      exact Path.isAbsolute_join absolute

/-- Includes that never step up lead to straight paths. -/
theorem straight_of_mem_places (named : tree.Named) (straight : base.Straight)
    (forward : ∀ text ∈ options.includes, Forward base text) {place : Path}
    (h : place ∈ (options.places tree base).1) : place.Straight := by
  rw [places_eq] at h
  split at h
  · rwa [List.mem_singleton.mp h]
  · obtain ⟨text, among, h⟩ := List.mem_flatMap.mp h
    have forward := forward text among
    have absolute : (base.join text).isAbsolute = true := Path.isAbsolute_join straight.isAbsolute
    unfold placesOf at h
    unfold Forward at forward
    dsimp only at h
    split at h
    · next isPattern =>
      rw [if_pos isPattern] at forward
      split at h
      · next pattern read =>
        exact Pattern.straight_of_mem_expand named read absolute (forward pattern read)
          (List.mem_filter.mp h).1
      · cases h
    · next literal =>
      rw [if_neg literal] at forward
      rw [List.mem_singleton.mp (List.mem_ite_nil_right.mp h).2]
      exact ⟨absolute, forward⟩

namespace Candidate

theorem isAbsolute (candidate : Candidate tree base options path)
    (absolute : base.isAbsolute = true) : path.isAbsolute = true := by
  obtain ⟨place, included, paths, walked, among⟩ := candidate.below
  obtain ⟨names, -, rfl⟩ := FileTree.exists_of_mem_walk walked among
  exact List.foldlRecOn (motive := fun path => path.isAbsolute = true) names Path.join
    (isAbsolute_of_mem_places absolute included) fun _ start _ _ => Path.isAbsolute_join start

theorem straight (candidate : Candidate tree base options path) (named : tree.Named)
    (straight : base.Straight) (forward : ∀ text ∈ options.includes, Forward base text) :
    path.Straight := by
  obtain ⟨place, included, paths, walked, among⟩ := candidate.below
  obtain ⟨names, known, rfl⟩ := FileTree.exists_of_mem_walk walked among
  refine List.foldlRecOn names Path.join (straight_of_mem_places named straight forward included)
    fun _ start name here => ?_
  obtain ⟨location, among, inside⟩ := known name here
  obtain ⟨clean, -, step⟩ := named location among name inside
  exact start.join clean step

end Candidate

end Scan

namespace Project

theorem straight_resolve {root : Path} (absolute : root.isAbsolute = true) (path : String) :
    (resolve root path).Straight :=
  ⟨isAbsolute_resolve absolute path, Path.direct_normalize _⟩

/-- The sources are the candidates outside the excluded folders, up to components. -/
theorem exists_mem_sourcesOf_iff {tree : FileTree} {root : Path} {config : Config}
    {outputs : List String} {property : List Path.Component → Prop} :
    (∃ file ∈ sourcesOf tree root config outputs, property file.components) ↔
      ∃ path, Scan.Candidate tree (resolve root config.sourceRoot) (scanOptions config []) path ∧
        property path.components ∧
          ∀ folder ∈ excludedFolders root config outputs, path.startsWith folder = false := by
  -- Which files are candidates does not depend on what is excluded.
  have candidate_iff (path : Path) :
      Scan.Candidate tree (resolve root config.sourceRoot) (scanOptions config []) path ↔
        Scan.Candidate tree (resolve root config.sourceRoot)
          (scanOptions config (excludedFolders root config outputs)) path :=
    ⟨fun ⟨below, isFile, isSource, kept⟩ => ⟨below, isFile, isSource, kept⟩,
      fun ⟨below, isFile, isSource, kept⟩ => ⟨below, isFile, isSource, kept⟩⟩
  constructor
  · rintro ⟨file, among, holds⟩
    obtain ⟨candidate, outside⟩ := Scan.candidate_of_mem_run among
    exact ⟨file, (candidate_iff file).mpr candidate, holds, outside⟩
  · rintro ⟨path, candidate, holds, outside⟩
    obtain ⟨file, among, same⟩ := List.mem_map.mp
      (Scan.mem_run_of_candidate ((candidate_iff path).mp candidate) outside)
    exact ⟨file, among, same ▸ holds⟩

/-- A source lies in an excluded folder exactly if the path that led to it goes up after a name, and
does not start with an excluded folder as it is written. Includes that never step up lead to no such
sources. -/
theorem sources_inside_iff (tree : FileTree) (options : ProjectOptions) (config : Config)
    (outputs : List String) :
    let root := rootOf tree options
    let base := resolve root config.sourceRoot
    let excluded := excludedFolders root config outputs
    let files := sourcesOf tree root config outputs
    (∀ folder ∈ excluded, (∃ file ∈ files, file.normalize.startsWith folder = true) ↔
      ∃ path, Scan.Candidate tree base (scanOptions config []) path ∧ ¬ path.Direct ∧
        path.normalize.startsWith folder = true ∧
          ∀ other ∈ excluded, path.startsWith other = false) ∧
    (tree.Named → (∀ text ∈ config.includes, Scan.Forward base text) →
      ∀ folder ∈ excluded, ∀ file ∈ files, file.normalize.startsWith folder = false) ∧
    ∀ outDir project, found tree options outDir = .ok project →
      project.files = sourcesOf tree root project.config outDir.toList := by
  intro root base excluded files
  have absolute : root.isAbsolute = true := isAbsolute_rootOf tree options
  have straight : base.Straight := straight_resolve absolute _
  have inside_iff (folder : Path) : (∃ file ∈ files, file.normalize.startsWith folder = true) ↔
      ∃ path, Scan.Candidate tree base (scanOptions config []) path ∧
        path.normalize.startsWith folder = true ∧
          ∀ other ∈ excluded, path.startsWith other = false :=
    @exists_mem_sourcesOf_iff tree root config outputs fun components =>
      (Path.ofComponents (components.foldl Path.follow []).reverse).startsWith folder = true
  refine ⟨fun folder among => ?_, fun named forward folder among file here => ?_,
    fun outDir project h => ?_⟩
  · rw [inside_iff]
    refine exists_congr fun path => and_congr_right fun candidate => ?_
    refine ⟨fun ⟨inside, outside⟩ => ⟨fun direct => ?_, inside, outside⟩, And.right⟩
    -- A direct path would start with the folder as it is written, too.
    have same := (Path.Straight.mk (candidate.isAbsolute straight.isAbsolute)
      direct).startsWith_normalize folder
    rw [inside, outside folder among] at same
    cases same
  · rw [← Bool.not_eq_true]
    intro inside
    obtain ⟨path, candidate, inside, outside⟩ := (inside_iff folder).mp ⟨file, here, inside⟩
    have same := (candidate.straight named straight forward).startsWith_normalize folder
    rw [inside, outside folder among] at same
    cases same
  · have found := isFound_of_found h
    rw [found.files, found.root]

/-- One table beside one source. -/
def oneTable : FileTree where
  entries := .ofList [
    (["src"], .folder), (["src", "app.ts"], .file (.text "")),
    (["src", "language"], .folder), (["src", "language", "default.en.ts"], .file (.text ""))]
  here := []

theorem table_among_sources :
    (∃ file ∈ sourcesOf oneTable (rootOf oneTable {}) { includes := ["src/../src"] } [],
      file.normalize.startsWith ⟨"/src/language"⟩ = true) ∧
    ∀ file ∈ sourcesOf oneTable (rootOf oneTable {}) {} [],
      file.normalize.startsWith ⟨"/src/language"⟩ = false := by
  constructor
  · refine ((sources_inside_iff oneTable {} { includes := ["src/../src"] } []).1
      ⟨"/src/language"⟩ (by decide +kernel)).mpr
        ⟨⟨"/src/../src/language/default.en.ts"⟩, ⟨?_, ?_, ?_, ?_⟩, ?_, ?_, ?_⟩
    · exact ⟨⟨"/src/../src"⟩, by decide +kernel, _, rfl, by decide +kernel⟩
    all_goals decide +kernel
  · refine (sources_inside_iff oneTable {} {} []).2.1 ?_ ?_ ⟨"/src/language"⟩ (by decide +kernel)
    · decide +kernel
    · intro text among
      obtain rfl := List.mem_singleton.mp among
      rw [Scan.Forward, if_neg (by decide)]
      decide +kernel

end Project

end Phrasebook
