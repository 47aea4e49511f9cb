import Phrasebook.Proofs.ScannedFiles

/-!
# Scans in other places

The same sources and options give other results elsewhere, as patterns are tried on whole paths: a
pattern may fit the names above the base.

- `Site.Selected`: what a scan selects going by what lies below the base alone;
- `Site.Detached`: nothing that is left out tells where the base is;
- `Site.agrees_builtIn`: the patterns left out of each scan only tell it by two names of folders;
- `Site.finds_iff`: what a scan finds, and when that does not depend on where the base is.
-/

namespace Phrasebook

namespace Scan

namespace Site

/-- The names lie at or below the place that a path can lead to. -/
def Covers (site : Site) (folder : Path) (names : Location) : Prop :=
  folder.destination site.tree.here <+: site.root ++ names

/-- A source below an existing include, if there are any, and below nothing that is left out, of
which the path seen from the base fits no pattern. -/
structure Selected (site : Site) (options : Options) (names : Location) : Prop where
  isFile : ∃ content, site.entryAt? names = some (.file content)
  isSource : (names.getLast?.bind Path.extensionOf?).any sourceExtensions.contains = true
  included : options.includes = [] ∨ ∃ text ∈ options.includes,
    site.tree.has (site.base.join text) = true ∧
      (Path.mk text).steps <+: names.map String.toList
  outside : ∀ folder ∈ options.leftOut site.base, ¬ site.Covers folder names
  unmatched : ∀ glob ∈ options.ignoreGlobs ++ builtIn options,
    glob.matchesText (Path.spell false 0 names).text = false

/-- The pattern fits the paths on which walks come to files exactly if it fits these files seen from
the base. -/
def Agrees (site : Site) (options : Options) (glob : Glob) : Prop :=
  ∀ names content path, site.entryAt? names = some (.file content) →
    site.Walked options names path →
      glob.matchesText path.text = glob.matchesText (Path.spell false 0 names).text

/-- A place is seen from the base, or from the root as the base is, without steps up. -/
def Placed (site : Site) (folder : Path) : Prop :=
  (∃ text, (Path.mk text).isAbsolute = false ∧ ['.', '.'] ∉ (Path.mk text).steps ∧
    folder = site.base.join text) ∨
  (site.base.isAbsolute = true ∧ ['.', '.'] ∉ site.base.steps ∧
    folder.isAbsolute = true ∧ ['.', '.'] ∉ folder.steps)

/-- Nothing that is left out tells where the base is. -/
structure Detached (site : Site) (options : Options) : Prop where
  leftOut : ∀ folder ∈ options.leftOut site.base, site.Placed folder
  dependencies : "node_modules".toList ∉ site.base.steps
  tests : options.ignoreTests = true → "__tests__".toList ∉ site.base.steps
  globs : ∀ glob ∈ options.ignoreGlobs, site.Agrees options glob

/-- The same options for two sites with the same below their bases. -/
structure Alike (site : Site) (options : Options) (other : Site) (others : Options) : Prop where
  includes : others.includes = options.includes
  ignores : others.ignores = options.ignores
  ignoreTests : others.ignoreTests = options.ignoreTests
  relative : ∀ text ∈ options.ignores, Glob.isPattern text = false →
    (Path.mk text).isAbsolute = false
  content : ∀ names, site.entryAt? names = other.entryAt? names
  excluded : ∀ names, (∃ folder ∈ options.excluded, site.Covers folder names) ↔
    ∃ folder ∈ others.excluded, other.Covers folder names

/-! ## Patterns -/

section

variable {site other : Site} {options others : Options} {names : Location} {path : Path}

/-- The path by which a walk comes to a file ends with the steps of the names. -/
theorem Walked.file_spec (literal : ∀ text ∈ options.includes, Literal text)
    (walked : site.Walked options names path) {content : Content}
    (present : site.entryAt? names = some (.file content)) :
    names ≠ [] ∧ path.Ended ∧
      path.steps = site.base.steps ++ names.map String.toList := by
  have isStep := isStep present
  have found := (walked.find_iff literal isStep).mpr present
  exact ⟨names_ne_nil present, FileTree.ended_of_file found, (walked.spelled literal isStep).steps⟩

/-- A pattern for endings of names fits wherever the base is. -/
theorem agrees_endingIn (literal : ∀ text ∈ options.includes, Literal text) {ending : String}
    (said : ending ≠ "") (clean : '/' ∉ ending.toList) :
    site.Agrees options (Glob.endingIn ending) := by
  intro names content path present walked
  obtain ⟨some, ended, steps⟩ := walked.file_spec literal present
  obtain ⟨relative, steps'⟩ := Path.ended_spell some (isStep present)
  -- The name of the file is the last step in both cases.
  have last : (site.base.steps ++ names.map String.toList).getLast? =
      (names.map String.toList).getLast? := by
    obtain ⟨before, final, rfl⟩ := (List.eq_nil_or_concat names).resolve_left some
    simp
  rw [Bool.eq_iff_iff, Glob.matchesText_endingIn_path said clean ended,
    Glob.matchesText_endingIn_path said clean relative, steps, steps', last]

/-- A pattern for a folder only tells where the base is by the names on the way there. -/
theorem agrees_inFolder (literal : ∀ text ∈ options.includes, Literal text) {name : String}
    (clean : '/' ∉ name.toList) (said : Path.isBlank name.toList = false)
    (elsewhere : name.toList ∉ site.base.steps) : site.Agrees options (Glob.inFolder name) := by
  intro names content path present walked
  obtain ⟨some, ended, steps⟩ := walked.file_spec literal present
  obtain ⟨relative, steps'⟩ := Path.ended_spell some (isStep present)
  rw [Bool.eq_iff_iff, Glob.matchesText_inFolder_path clean said ended,
    Glob.matchesText_inFolder_path clean said relative, steps, steps',
    List.dropLast_append_of_ne_nil (by simpa using some), List.mem_append, or_iff_right elsewhere]

theorem agrees_builtIn (literal : ∀ text ∈ options.includes, Literal text)
    (dependencies : "node_modules".toList ∉ site.base.steps)
    (tests : options.ignoreTests = true → "__tests__".toList ∉ site.base.steps) {glob : Glob}
    (h : glob ∈ builtIn options) : site.Agrees options glob := by
  rw [builtIn_eq, List.mem_append] at h
  rcases h with test | dependency
  · obtain ⟨switched, test⟩ := List.mem_ite_nil_right.mp test
    rcases List.mem_append.mp test with ends | folder
    · obtain ⟨ending, among, rfl⟩ := List.mem_map.mp ends
      have proper : ∀ ending ∈ testEndings, ending ≠ "" ∧ '/' ∉ ending.toList := by decide
      exact agrees_endingIn literal (proper ending among).1 (proper ending among).2
    · rw [List.mem_singleton.mp folder]
      exact agrees_inFolder literal (by decide) (by decide) (tests switched)
  · rw [List.mem_singleton.mp dependency]
    exact agrees_inFolder literal (by decide) (by decide) dependencies

/-! ## What is left out -/

/-- A place that is seen from the base covers the names that start with its steps. -/
theorem covers_join_iff {text : String} (relative : (Path.mk text).isAbsolute = false)
    (forward : ['.', '.'] ∉ (Path.mk text).steps) :
    site.Covers (site.base.join text) names ↔ (Path.mk text).steps.map String.ofList <+: names := by
  rw [Covers, Path.destination_join_forward relative forward]
  exact List.prefix_append_right_inj _

/-- What lies below such a place by its components lies there. -/
theorem Placed.covers_iff {folder : Path} (placed : site.Placed folder) :
    folder.components <+: site.base.components ++ names.map .name ↔ site.Covers folder names := by
  have injective : Function.Injective Path.Component.name := fun _ _ same =>
    Path.Component.name.inj same
  rcases placed with ⟨text, relative, forward, rfl⟩ | ⟨rooted, straight, absolute, forward⟩
  · rw [covers_join_iff relative forward, Path.components_join site.base_text_ne relative,
      Path.map_componentOf forward, List.prefix_append_right_inj]
    exact List.prefix_map_iff_of_injective injective
  · rw [Path.components_of_forward absolute forward site.tree.here,
      Path.components_of_forward rooted straight site.tree.here, List.cons_append,
      List.cons_prefix_cons, and_iff_right rfl, ← List.map_append]
    exact List.prefix_map_iff_of_injective injective

/-- A relative text that is joined to the base has no steps up if the place has none. -/
theorem Placed.forward {text : String} (placed : site.Placed (site.base.join text))
    (relative : (Path.mk text).isAbsolute = false) : ['.', '.'] ∉ (Path.mk text).steps := by
  rcases placed with ⟨other, relative', forward, same⟩ | ⟨-, -, -, forward⟩
  · exact Path.join_inj relative relative' same ▸ forward
  · rw [(Path.steps_join_relative relative).1] at forward
    exact mt (List.mem_append_right _) forward

/-- Walks come to what lies below an existing include, or to all. -/
theorem exists_walked_iff (literal : ∀ text ∈ options.includes, Literal text) :
    (∃ path, site.Walked options names path) ↔
      options.includes = [] ∨ ∃ text ∈ options.includes,
        site.tree.has (site.base.join text) = true ∧
          (Path.mk text).steps <+: names.map String.toList := by
  have steps {text : String} (among : text ∈ options.includes) :
      (site.base.join text).steps = site.base.steps ++ (Path.mk text).steps :=
    (Path.steps_join_relative (literal text among).relative).1
  unfold Walked Options.starts
  constructor
  · rintro ⟨_, place, start, there, rest, spelled, -⟩
    split at start
    · next none => exact .inl (List.isEmpty_iff.mp none)
    · obtain ⟨text, among, rfl⟩ := List.mem_map.mp start
      rw [steps among, List.append_assoc, List.append_cancel_left_eq] at spelled
      exact .inr ⟨text, among, there, ⟨_, spelled⟩⟩
  · rintro (none | ⟨text, among, there, rest, spelled⟩)
    · refine ⟨_, site.base, ?_, site.has_base, names, rfl, rfl⟩
      rw [none]
      exact List.mem_singleton_self _
    · refine ⟨_, site.base.join text, ?_, there, rest.map String.ofList, ?_, rfl⟩
      · rw [if_neg (by simpa using List.ne_nil_of_mem among)]
        exact List.mem_map_of_mem among
      · rw [steps among, ← spelled]
        simp

theorem not_selected (fits : ∃ glob ∈ options.ignoreGlobs ++ builtIn options,
    glob.matchesText (Path.spell false 0 names).text = true) : ¬ site.Selected options names := by
  intro selected
  obtain ⟨glob, among, fits⟩ := fits
  rw [selected.unmatched glob among] at fits
  cases fits

/-- While nothing tells where the base is, what walks come to is what is selected below the base. -/
theorem Detached.reached_iff (detached : site.Detached options)
    (literal : ∀ text ∈ options.includes, Literal text) :
    site.Reached options names ↔ site.Selected options names := by
  -- No pattern looks at the part of a path above the base.
  have agrees : ∀ glob ∈ options.ignoreGlobs ++ builtIn options, site.Agrees options glob := by
    intro glob among
    rcases List.mem_append.mp among with ignore | among
    · exact detached.globs glob ignore
    · exact agrees_builtIn literal detached.dependencies detached.tests among
  constructor
  · rintro ⟨⟨content, present⟩, source, outside, path, walked, unmatched⟩
    refine ⟨⟨content, present⟩, source, (exists_walked_iff literal).mp ⟨path, walked⟩,
      fun folder among => ?_, fun glob among => ?_⟩
    · exact mt (detached.leftOut folder among).covers_iff.mpr (outside folder among)
    · rw [← agrees glob among names content path present walked]
      exact unmatched glob among
  · rintro ⟨⟨content, present⟩, source, included, outside, unmatched⟩
    obtain ⟨path, walked⟩ := (exists_walked_iff literal).mpr included
    refine ⟨⟨content, present⟩, source, fun folder among => ?_, path, walked,
      fun glob among => ?_⟩
    · exact mt (detached.leftOut folder among).covers_iff.mp (outside folder among)
    · rw [agrees glob among names content path present walked]
      exact unmatched glob among

/-! ## Other places -/

theorem Alike.symm (alike : site.Alike options other others) :
    other.Alike others site options where
  includes := alike.includes.symm
  ignores := alike.ignores.symm
  ignoreTests := alike.ignoreTests.symm
  relative := alike.ignores ▸ alike.relative
  content names := (alike.content names).symm
  excluded names := (alike.excluded names).symm

/-- Steps lead from the same names to the same names where the same lies below the base. -/
theorem foldlM_follow_moved (content : ∀ names, site.entryAt? names = other.entryAt? names)
    {pieces : List (List Char)} (forward : ['.', '.'] ∉ pieces) {location : Location}
    (h : pieces.foldlM site.tree.follow (site.root ++ names) = .ok location) :
    ∃ reached, location = site.root ++ reached ∧
      pieces.foldlM other.tree.follow (other.root ++ names) = .ok (other.root ++ reached) := by
  induction pieces generalizing names with
  | nil =>
    cases h
    exact ⟨names, rfl, rfl⟩
  | cons piece rest ih =>
    obtain ⟨ahead, later⟩ := not_or.mp (mt List.mem_cons.mpr forward)
    rw [List.foldlM_cons] at h ⊢
    cases step : site.tree.follow (site.root ++ names) piece with
    | error error =>
      rw [step] at h
      cases h
    | ok next =>
      rw [step] at h
      -- The step starts in a folder, which is one below the other base, too.
      have folder := (FileTree.follow_eq_ok step).1
      have same : other.tree.entryAt? (other.root ++ names) = some .folder :=
        (content names).symm.trans folder
      rw [FileTree.follow_of_folder piece folder] at step
      rw [FileTree.follow_of_folder piece same]
      split at step
      · cases step
        rw [if_pos ‹_›]
        exact ih later h
      · rw [if_neg (Ne.symm ahead)] at step
        split at step
        · cases step
        · cases step
          rw [if_neg ‹_›, if_neg (Ne.symm ahead), if_neg ‹_›]
          rw [List.append_assoc] at h ⊢
          exact ih later h

/-- An include exists wherever the base is. -/
theorem has_moved (content : ∀ names, site.entryAt? names = other.entryAt? names) {text : String}
    (literal : Literal text) (there : site.tree.has (site.base.join text) = true) :
    other.tree.has (other.base.join text) = true := by
  obtain ⟨entry, found⟩ := FileTree.has_iff.mp there
  obtain ⟨location, located, present⟩ := FileTree.find_eq_ok_iff.mp found
  obtain ⟨noNul, followed⟩ := (FileTree.locate_join_iff site.locate_base site.entryAt?_root
    literal.relative).mp located
  have forward : ['.', '.'] ∉ Path.pieces text.toList := fun up =>
    literal.forward (List.mem_filter.mpr ⟨up, rfl⟩)
  rw [← List.append_nil site.root] at followed
  obtain ⟨reached, rfl, moved⟩ := foldlM_follow_moved content forward followed
  rw [List.append_nil] at moved
  have located := (FileTree.locate_join_iff other.locate_base other.entryAt?_root
    literal.relative).mpr ⟨noNul, moved⟩
  exact FileTree.has_iff.mpr
    ⟨entry, FileTree.find_eq_ok_iff.mpr ⟨_, located, (content reached).symm.trans present⟩⟩

theorem Selected.moved (alike : site.Alike options other others)
    (detached : other.Detached others) (literal : ∀ text ∈ options.includes, Literal text)
    (selected : site.Selected options names) : other.Selected others names := by
  obtain ⟨⟨content, present⟩, source, included, outside, unmatched⟩ := selected
  refine ⟨⟨content, alike.content names ▸ present⟩, source, ?_, fun folder among => ?_, ?_⟩
  · rw [alike.includes]
    exact included.imp_right fun ⟨text, among, there, led⟩ =>
      ⟨text, among, has_moved alike.content (literal text among) there, led⟩
  · rcases List.mem_append.mp among with excluded | ignored
    · intro covered
      obtain ⟨former, among, covered⟩ := (alike.excluded names).mpr ⟨folder, excluded, covered⟩
      exact outside former (List.mem_append_left _ among) covered
    · -- A literal ignore covers the same names below every base.
      have placed := detached.leftOut folder among
      obtain ⟨text, listed, rfl⟩ := List.mem_map.mp ignored
      rw [alike.ignores] at listed
      have relative := alike.relative text (List.mem_filter.mp listed).1
        (by simpa using (List.mem_filter.mp listed).2)
      have forward := placed.forward relative
      rw [covers_join_iff relative forward, ← @covers_join_iff site names text relative forward]
      exact outside _ (List.mem_append_right _ (List.mem_map_of_mem listed))
  · have same : others.ignoreGlobs ++ builtIn others = options.ignoreGlobs ++ builtIn options := by
      unfold Options.ignoreGlobs
      rw [alike.ignores, builtIn_eq, builtIn_eq, alike.ignoreTests]
    rw [same]
    exact unmatched

/-! ## What a scan finds -/

theorem finds_iff_reached (literal : ∀ text ∈ options.includes, Literal text) :
    site.Finds options names ↔ site.Reached options names := by
  rw [Finds, mem_files_iff literal]
  constructor
  · rintro ⟨others, same, reached⟩
    rw [List.append_cancel_left_eq] at same
    exact (List.map_inj_right fun _ _ => Path.Component.name.inj).mp same ▸ reached
  · exact fun reached => ⟨names, rfl, reached⟩

/-- Where the base lies in a folder that a pattern names, the pattern fits whatever walks come
to. -/
theorem not_reached_of_inFolder (literal : ∀ text ∈ options.includes, Literal text) {name : String}
    (clean : '/' ∉ name.toList) (said : Path.isBlank name.toList = false)
    (pattern : Glob.inFolder name ∈ builtIn options) (above : name.toList ∈ site.base.steps) :
    ¬ site.Reached options names := by
  rintro ⟨⟨content, present⟩, -, -, path, walked, unmatched⟩
  obtain ⟨some, ended, steps⟩ := walked.file_spec literal present
  have fits : (Glob.inFolder name).matchesText path.text = true := by
    rw [Glob.matchesText_inFolder_path clean said ended, steps,
      List.dropLast_append_of_ne_nil (by simpa using some)]
    exact List.mem_append_left _ above
  rw [unmatched _ (List.mem_append_right _ pattern)] at fits
  cases fits

/-- A scan finds the files below the base that walks come to by paths that fit no pattern. Below a
folder of dependencies, or of tests if these are ignored, it finds nothing. While nothing that is
left out tells where the base is, it finds what is selected going by what lies below the base, and
the same in every other such place. -/
theorem finds_iff (site : Site) (options : Options)
    (literal : ∀ text ∈ options.includes, Literal text) :
    (∀ components, components ∈ (run site.tree site.base options).files.map Path.components ↔
      ∃ names, components = site.base.components ++ names.map .name ∧
        site.Reached options names) ∧
    ("node_modules".toList ∈ site.base.steps ∨
        options.ignoreTests = true ∧ "__tests__".toList ∈ site.base.steps →
      (run site.tree site.base options).files = []) ∧
    (site.Detached options →
      (∀ names, site.Finds options names ↔ site.Selected options names) ∧
      ∀ other others, other.Detached others → site.Alike options other others →
        ∀ names, site.Finds options names ↔ other.Finds others names) := by
  refine ⟨fun components => mem_files_iff literal, fun above => ?_, fun detached => ⟨?_, ?_⟩⟩
  · -- A pattern for the folder that the base lies in fits everything below.
    obtain ⟨name, clean, said, pattern, above⟩ : ∃ name : String, '/' ∉ name.toList ∧
        Path.isBlank name.toList = false ∧ Glob.inFolder name ∈ builtIn options ∧
          name.toList ∈ site.base.steps := by
      rw [builtIn_eq]
      rcases above with above | ⟨switched, above⟩
      · exact ⟨"node_modules", by decide, by decide, by simp, above⟩
      · exact ⟨"__tests__", by decide, by decide, by simp [switched], above⟩
    rw [List.eq_nil_iff_forall_not_mem]
    intro path among
    obtain ⟨names, -, reached⟩ := (mem_files_iff literal).mp (List.mem_map_of_mem among)
    exact not_reached_of_inFolder literal clean said pattern above reached
  · exact fun names => (finds_iff_reached literal).trans (detached.reached_iff literal)
  · -- Both sites find what is selected, and that moves from one to the other.
    intro other others elsewhere alike names
    have literal' : ∀ text ∈ others.includes, Literal text := alike.includes ▸ literal
    rw [finds_iff_reached literal, finds_iff_reached literal', detached.reached_iff literal,
      elsewhere.reached_iff literal']
    exact ⟨fun selected => selected.moved alike elsewhere literal,
      fun selected => selected.moved alike.symm detached literal'⟩

end

/-! ## One project in two places -/

instance (site : Site) (folder : Path) (names : Location) : Decidable (site.Covers folder names) :=
  inferInstanceAs (Decidable (_ <+: _))

/-- The same sources below any folder. -/
def copyAt (front : Location) : FileTree where
  entries := .ofList (
    ((List.range front.length).map fun count => (front.take (count + 1), .folder)) ++
      [(front ++ ["src"], .folder), (front ++ ["src", "app.ts"], .file (.text "")),
        (front ++ ["src", "app.stories.tsx"], .file (.text "")),
        (front ++ ["src", "api.gen.ts"], .file (.text ""))])
  here := []

def checkedOut : Site where
  tree := copyAt ["work", "app"]
  base := ⟨"/work/app"⟩
  wellFormed := by decide +kernel
  tidy := by decide +kernel
  isFolder := by decide +kernel

def installed : Site where
  tree := copyAt ["work", "node_modules", "app"]
  base := ⟨"/work/node_modules/app"⟩
  wellFormed := by decide +kernel
  tidy := by decide +kernel
  isFolder := by decide +kernel

/-- Stories and tests are no sources. -/
def withoutStories : Options where
  includes := ["src"]
  ignores := ["src/generated", "**/*.stories.tsx"]
  ignoreTests := true
  excluded := []

/-- Generated files are no sources. -/
def withoutGenerated : Options := { withoutStories with ignores := ["src/*.gen.ts"] }

theorem detached_checkedOut : checkedOut.Detached withoutStories where
  leftOut := by
    have places :
        withoutStories.leftOut checkedOut.base = [checkedOut.base.join "src/generated"] := by
      decide +kernel
    rw [places, List.forall_mem_singleton]
    exact .inl ⟨"src/generated", by decide, by decide, rfl⟩
  dependencies := by decide
  tests _ := by decide
  globs := by
    have globs : withoutStories.ignoreGlobs = [Glob.endingIn ".stories.tsx"] := by decide +kernel
    rw [globs, List.forall_mem_singleton]
    exact agrees_endingIn (by decide +kernel) (by decide) (by decide)

theorem selected_app {site : Site} (h : site = checkedOut ∨ site = installed) :
    site.Selected withoutStories ["src", "app.ts"] := by
  rcases h with rfl | rfl
  all_goals
    refine ⟨⟨.text "", by decide +kernel⟩, by decide,
      .inr ⟨"src", by decide, ?_, by decide⟩, ?_, ?_⟩
    all_goals decide +kernel

/-- In a folder of dependencies the sources are not found, and a pattern for generated files that is
seen from the base fits none of them. -/
theorem sources_missed_when_installed :
    (∀ text ∈ withoutStories.includes, Literal text) ∧
    checkedOut.Finds withoutStories ["src", "app.ts"] ∧
    ¬ checkedOut.Finds withoutStories ["src", "app.stories.tsx"] ∧
    installed.Selected withoutStories ["src", "app.ts"] ∧
    (run installed.tree installed.base withoutStories).files = [] ∧
    ¬ checkedOut.Selected withoutGenerated ["src", "api.gen.ts"] ∧
    checkedOut.Finds withoutGenerated ["src", "api.gen.ts"] := by
  have literal : ∀ text ∈ withoutStories.includes, Literal text := by decide +kernel
  obtain ⟨-, -, relative⟩ := finds_iff checkedOut withoutStories literal
  obtain ⟨-, below, -⟩ := finds_iff installed withoutStories literal
  obtain ⟨listed, -, -⟩ := finds_iff checkedOut withoutGenerated literal
  obtain ⟨selects, -⟩ := relative detached_checkedOut
  refine ⟨literal, (selects _).mpr (selected_app (.inl rfl)), ?_, selected_app (.inr rfl),
    below (.inl (by decide)), not_selected (by decide +kernel), ?_⟩
  · exact mt (selects _).mp (not_selected (by decide +kernel))
  · refine (listed _).mpr ⟨_, rfl, ⟨.text "", by decide +kernel⟩, by decide, by decide +kernel,
      ⟨"/work/app/src/api.gen.ts"⟩, ⟨⟨"/work/app/src"⟩, ?_, ?_, ["api.gen.ts"], ?_, ?_⟩, ?_⟩
    all_goals decide +kernel

end Site

end Scan

end Phrasebook
