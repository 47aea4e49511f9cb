import Phrasebook.Proofs.Actions
import Phrasebook.Proofs.Scanning
import Phrasebook.Proofs.Spellings

/-!
# Straight paths

A path from the root that never goes up after a name keeps its components in normal form. What a
pattern finds is straight if no part of it steps up.

- `Path.Straight`, `Path.Straight.components_normalize`: such paths;
- `Glob.mem_of_parse`: the letters of a pattern come from its text;
- `Scan.Pattern.Keeps`, `Scan.Pattern.Keeps.expand`: what holds along the steps of a pattern holds
  of all paths that it finds;
- `Scan.Pattern.straight_of_mem_expand`: patterns that find straight paths only.
-/

namespace Phrasebook

namespace Path

/-- A path from the root that never goes up after a name. -/
structure Straight (path : Path) : Prop where
  isAbsolute : path.isAbsolute = true
  direct : path.Direct

theorem Straight.join {path : Path} (straight : path.Straight) {name : String}
    (clean : '/' ∉ name.toList) (forward : name.toList ≠ ['.', '.']) :
    (path.join name).Straight :=
  ⟨isAbsolute_join straight.isAbsolute, straight.direct.join clean forward⟩

/-- Steps that never go up after a name take no name back. -/
theorem trailOf_foldl_settle {rooted : Bool} {steps : List (List Char)} {ups : Nat}
    {names : List String}
    (direct : steps.Pairwise fun earlier later => later = ['.', '.'] → earlier = ['.', '.'])
    (behind : names = [] ∨ ['.', '.'] ∉ steps) :
    trailOf rooted (steps.foldl settle (ups, names)) =
      (steps.map componentOf).reverse ++ trailOf rooted (ups, names) := by
  induction steps generalizing ups names with
  | nil => rfl
  | cons piece rest ih =>
    obtain ⟨here, later⟩ := List.pairwise_cons.mp direct
    rw [List.foldl_cons, List.map_cons, List.reverse_cons, List.append_assoc, List.singleton_append]
    by_cases up : piece = ['.', '.']
    · subst up
      obtain rfl := behind.resolve_right (not_not_intro List.mem_cons_self)
      rw [settle_up, ih later (.inl rfl)]
      rfl
    · have forward : ['.', '.'] ∉ rest := fun h => up (here _ h rfl)
      rw [settle_name up, ih later (.inr forward), componentOf, if_neg up]
      rfl

/-- Normal form keeps the components of a straight path. -/
theorem Straight.components_normalize {path : Path} (straight : path.Straight) :
    path.normalize.components = path.components := by
  obtain ⟨ups, names, spelled, settled, isStep, -⟩ := path.normalize_spec
  have start : path.parts.start = some .root := by
    simpa [isAbsolute_eq] using straight.isAbsolute
  have kept := @trailOf_foldl_settle true _ 0 [] straight.direct (.inl rfl)
  rw [← settled] at kept
  rw [spelled, components_spell isStep, components_eq, start, straight.isAbsolute]
  simpa [trailOf] using congrArg List.reverse kept

theorem Straight.startsWith_normalize {path : Path} (straight : path.Straight) (base : Path) :
    path.normalize.startsWith base = path.startsWith base := by
  rw [startsWith, straight.components_normalize, startsWith]

end Path

/-! ## Names in a tree -/

namespace FileTree

/-- Every name in the tree is one piece and no step up. -/
def Named (tree : FileTree) : Prop :=
  ∀ location ∈ tree.entries.keys, ∀ name ∈ location, Path.IsStep name

instance (tree : FileTree) : Decidable tree.Named :=
  inferInstanceAs (Decidable (∀ location ∈ tree.entries.keys, ∀ name ∈ location, Path.IsStep name))

theorem exists_of_mem_names {tree : FileTree} {folder : Path} {name : String}
    (h : name ∈ (tree.names folder).toOption.getD []) :
    ∃ location ∈ tree.entries.keys, name ∈ location := by
  unfold names at h
  cases located : tree.locate folder with
  | error error => simp [located, bind, Except.bind, Except.toOption] at h
  | ok location =>
    simp only [located, bind, Except.bind] at h
    split at h
    · cases h
    · cases h
    · obtain ⟨other, known, last⟩ := List.mem_filterMap.mp h
      split at last
      · exact ⟨other, known, List.mem_of_getLast? last⟩
      · cases last

/-- What lies below a place is reached from it by names. -/
theorem exists_of_mem_walk {tree : FileTree} {place path : Path} {paths : List Path}
    (walked : tree.walk place = .ok paths) (h : path ∈ paths) :
    ∃ names : List String, (∀ name ∈ names, ∃ location ∈ tree.entries.keys, name ∈ location) ∧
      path = names.foldl Path.join place := by
  unfold walk at walked
  cases found : tree.find place with
  | error error => simp [found, bind, Except.bind] at walked
  | ok entry =>
    cases located : tree.locate place with
    | error error => simp [found, located, bind, Except.bind] at walked
    | ok location =>
      simp only [found, located, bind, Except.bind, pure, Except.pure, Except.ok.injEq] at walked
      rcases List.mem_cons.mp (walked ▸ h) with rfl | below
      · exact ⟨[], List.forall_mem_nil _, rfl⟩
      · obtain ⟨other, known, reached⟩ := List.mem_filterMap.mp below
        split at reached
        · refine ⟨other.drop location.length, fun name among => ?_, (Option.some.inj reached).symm⟩
          exact ⟨other, known, List.mem_of_mem_drop among⟩
        · cases reached

end FileTree

/-! ## Letters of patterns -/

namespace Glob

theorem suffix_of_bracketContent? {text content after : List Char}
    (h : bracketContent? text = some (content, after)) : after <:+ text := by
  cases text with
  | nil => cases h
  | cons first rest =>
    have dropped := List.dropWhile_suffix (· ≠ ']') (l := rest)
    rw [bracketContent?] at h
    cases left : rest.dropWhile (· ≠ ']') with
    | nil =>
      rw [left] at h
      cases h
    | cons closing others =>
      rw [left] at h dropped
      cases h
      exact (List.suffix_cons _ _).trans (dropped.trans (List.suffix_cons _ _))

theorem suffix_of_bracket? {text after : List Char} {token : Token}
    (h : bracket? text = some (token, after)) : token.letter? = none ∧ after <:+ text := by
  unfold bracket? at h
  split at h
  all_goals
    obtain ⟨⟨content, left⟩, read, same⟩ := Option.map_eq_some_iff.mp h
    cases same
  · exact ⟨rfl, (suffix_of_bracketContent? read).trans (List.suffix_cons _ _)⟩
  · exact ⟨rfl, suffix_of_bracketContent? read⟩

theorem mem_addComponents {tokens : List Token} {c : Char} (h : .letter c ∈ addComponents tokens) :
    .letter c ∈ tokens := by
  unfold addComponents at h
  split at h
  · exact h
  · simpa using h

theorem mem_of_readTokens {steps position : Nat} {tokens result : List Token} {before : Option Char}
    {text : List Char} (h : readTokens steps tokens position before text = .ok result) {c : Char}
    (letter : .letter c ∈ result) : .letter c ∈ tokens ∨ c ∈ text := by
  -- Each step adds letters of the text only, or none.
  fun_induction readTokens steps tokens position before text
  case case1 | case2 =>
    cases h
    exact .inl (List.mem_reverse.mp letter)
  case case4 | case6 | case9 | case10 => cases h
  case case3 ih | case11 ih =>
    rcases ih h with here | later
    · exact .inl (by simpa using here)
    · exact .inr (List.mem_cons_of_mem _ later)
  case case5 token after read _ ih =>
    obtain ⟨special, kept⟩ := suffix_of_bracket? read
    rcases ih h with here | later
    · refine .inl ((List.mem_cons.mp here).resolve_left ?_)
      rintro rfl
      cases special
    · exact .inr (List.mem_cons_of_mem _ (kept.subset later))
  case case7 ih => exact .inl (mem_addComponents ((ih h).resolve_right List.not_mem_nil))
  case case8 ih =>
    rcases ih h with here | later
    · exact .inl (mem_addComponents here)
    · exact .inr (by simp [later])
  case case12 ih =>
    rcases ih h with here | later
    · rcases List.mem_cons.mp here with same | here
      · cases same
        exact .inr List.mem_cons_self
      · exact .inl here
    · exact .inr (List.mem_cons_of_mem _ later)

/-- The letters of a pattern come from its text. -/
theorem mem_of_parse {text : String} {glob : Glob} (h : parse text = .ok glob) {c : Char}
    (letter : .letter c ∈ glob.tokens) : c ∈ text.toList := by
  unfold parse at h
  cases read : readTokens text.length [] 0 none text.toList with
  | error fault =>
    rw [read] at h
    cases h
  | ok tokens =>
    rw [read] at h
    cases h
    exact (mem_of_readTokens read letter).resolve_left List.not_mem_nil

/-- A pattern without special tokens is its text, letter by letter. -/
theorem tokens_of_literal? {glob : Glob} {name : String} (h : glob.literal? = some name) :
    glob.tokens = name.toList.map .letter := by
  obtain ⟨letters, read, rfl⟩ := Option.map_eq_some_iff.mp h
  rw [String.toList_ofList]
  clear h
  generalize glob.tokens = tokens at read ⊢
  induction tokens generalizing letters with
  | nil =>
    cases read
    rfl
  | cons token rest ih =>
    rw [List.mapM_cons] at read
    cases token with
    | letter c =>
      cases later : rest.mapM Token.letter? with
      | none => simp [later, Token.letter?] at read
      | some others =>
        rw [later] at read
        cases read
        rw [ih _ later]
        rfl
    | _ => cases read

end Glob

/-! ## Paths that patterns find -/

namespace Scan.Pattern

/-- Each step of a search for the patterns keeps the property. -/
structure Keeps (tree : FileTree) (globs : List Glob) (property : Path → Prop) : Prop where
  literal : ∀ glob ∈ globs, ∀ name, glob.literal? = some name →
    ∀ path, property path → property (step path name)
  dots : ∀ glob ∈ globs, glob.tokens.head? = some (.letter '.') →
    ∀ name ∈ [".", ".."], glob.matchesText name = true →
      ∀ path, property path → property (path.join name)
  entry : ∀ location ∈ tree.entries.keys, ∀ name ∈ location,
    ∀ path, property path → property (step path name)

namespace Keeps

variable {tree : FileTree} {globs others : List Glob} {property : Path → Prop}

theorem mono (keeps : Keeps tree globs property) (among : others ⊆ globs) :
    Keeps tree others property :=
  ⟨fun glob h => keeps.literal glob (among h), fun glob h => keeps.dots glob (among h),
    keeps.entry⟩

theorem name (keeps : Keeps tree globs property) {folder : Path} {name : String}
    (listed : name ∈ (tree.names folder).toOption.getD []) {path : Path} (start : property path) :
    property (step path name) := by
  obtain ⟨location, known, among⟩ := FileTree.exists_of_mem_names listed
  exact keeps.entry location known name among path start

theorem search (keeps : Keeps tree globs property) (foldersOnly : Bool) (steps : Nat) {path : Path}
    (start : property path) :
    (∀ found ∈ below tree foldersOnly steps globs path, property found) ∧
      ∀ found ∈ visit tree foldersOnly steps globs path, property found := by
  induction steps generalizing globs path with
  | zero =>
    rw [below.eq_def, visit.eq_def]
    exact ⟨List.forall_mem_nil _, List.forall_mem_nil _⟩
  | succ steps ih =>
    cases globs with
    | nil =>
      rw [below.eq_def, visit.eq_def]
      exact ⟨List.forall_mem_nil _, List.forall_mem_nil _⟩
    | cons glob rest =>
      have tail := keeps.mono (List.subset_cons_self glob rest)
      -- A path that fits all patterns is found; otherwise the search goes on below it.
      have accept {later : List Glob} (keeps : Keeps tree later property) {next found : Path}
          (started : property next)
          (h : found ∈ if later.isEmpty then
              if foldersOnly && !tree.isFolder next then [] else [next]
            else below tree foldersOnly steps later next) : property found := by
        split at h
        · split at h
          · cases h
          · rwa [List.mem_singleton.mp h]
        · exact (ih keeps started).1 found h
      constructor
      · intro found h
        rw [below] at h
        dsimp only at h
        split at h
        · next name only =>
          exact accept tail (keeps.literal glob List.mem_cons_self name only path start)
            (List.mem_ite_nil_right.mp h).2
        · rcases List.mem_append.mp (List.mem_ite_nil_right.mp h).2 with h | h
          · obtain ⟨_, among, h⟩ := List.mem_flatten.mp h
            obtain ⟨name, dotted, rfl⟩ := List.mem_map.mp among
            obtain ⟨first, dotted⟩ := List.mem_ite_nil_right.mp (List.mem_reverse.mp dotted)
            obtain ⟨isDots, fits⟩ := List.mem_filter.mp dotted
            have ended := keeps.dots glob List.mem_cons_self first name isDots fits path start
            exact accept tail ended h
          · obtain ⟨_, among, h⟩ := List.mem_flatten.mp h
            obtain ⟨name, listed, rfl⟩ := List.mem_map.mp among
            exact (ih keeps (keeps.name (List.mem_mergeSort.mp listed) start)).2 found h
      · intro found h
        -- The path itself is tried on the first pattern, and what lies below it on all of them.
        have direct {glob : Glob} {later : List Glob} (keeps : Keeps tree (glob :: later) property)
            (h : found ∈ if path.fileName?.any glob.matchesText then
                if later.isEmpty then if foldersOnly && !tree.isFolder path then [] else [path]
                else below tree foldersOnly steps later path
              else []) : property found :=
          accept (keeps.mono (List.subset_cons_self _ _)) start (List.mem_ite_nil_right.mp h).2
        have shorter : dropRecursive rest ⊆ rest := (List.dropWhile_suffix _).subset
        have deeper (h : found ∈ if tree.isFolder path then
            below tree foldersOnly steps (glob :: dropRecursive rest) path else []) :
            property found :=
          (ih (keeps.mono (List.cons_subset_cons _ shorter)) start).1 found
            (List.mem_ite_nil_right.mp h).2
        rw [visit] at h
        dsimp only at h
        split at h
        · split at h
          · rcases List.mem_cons.mp (List.mem_ite_nil_right.mp h).2 with rfl | h
            · exact start
            · exact deeper h
          · rcases List.mem_append.mp h with h | h
            · split at h
              · cases h
              · next same => exact direct (same ▸ tail.mono shorter) h
            · exact deeper h
        · exact direct keeps h

theorem expand {pattern : Pattern} (keeps : Keeps tree pattern.components property)
    (start : property pattern.start) {found : Path} (h : found ∈ pattern.expand tree) :
    property found :=
  (keeps.search _ _ start).1 found h

end Keeps

theorem parse_spec {text : String} {pattern : Pattern} (h : parse text = .ok pattern) :
    pattern.start = ⟨if (Path.mk text).isAbsolute then "/" else "."⟩ ∧
      ∀ glob ∈ pattern.components, .letter '/' ∉ glob.tokens := by
  unfold parse at h
  cases whole : Glob.parse text with
  | error fault => simp [whole, bind, Except.bind] at h
  | ok glob =>
    simp only [whole, bind, Except.bind] at h
    split at h
    · cases h
    · next components read =>
      cases h
      refine ⟨rfl, fun glob among slash => ?_⟩
      obtain ⟨piece, cut, parsed⟩ := Action.exists_of_mem_mapM read among
      -- A component is made of a piece of the text, which holds no slash.
      have clean : '/' ∉ piece := by
        split at cut
        · exact Path.slash_notMem_of_mem_pieces (List.dropLast_subset _ cut)
        · exact Path.slash_notMem_of_mem_pieces cut
      have letter := Glob.mem_of_parse parsed slash
      rw [String.toList_ofList] at letter
      exact clean letter

theorem step_of_isAbsolute {path : Path} (absolute : path.isAbsolute = true) (name : String) :
    step path name = path.join name := by
  refine if_neg ?_
  rintro rfl
  cases absolute

/-- A pattern that is seen from the root finds paths from the root. -/
theorem isAbsolute_of_mem_expand {tree : FileTree} {text : String} {pattern : Pattern}
    (read : parse text = .ok pattern) (absolute : (Path.mk text).isAbsolute = true) {found : Path}
    (h : found ∈ pattern.expand tree) : found.isAbsolute = true := by
  have keeps : Keeps tree pattern.components fun path => path.isAbsolute = true := by
    refine ⟨?_, ?_, ?_⟩
    · exact fun _ _ name _ path start => step_of_isAbsolute start name ▸ Path.isAbsolute_join start
    · exact fun _ _ _ _ _ _ path start => Path.isAbsolute_join start
    · exact fun _ _ name _ path start => step_of_isAbsolute start name ▸ Path.isAbsolute_join start
  refine keeps.expand ?_ h
  rw [(parse_spec read).1, absolute]
  rfl

/-- A pattern of which no part fits a step up finds straight paths. Only parts that start with a dot
are tried for that. -/
theorem straight_of_mem_expand {tree : FileTree} (named : tree.Named) {text : String}
    {pattern : Pattern} (read : parse text = .ok pattern)
    (absolute : (Path.mk text).isAbsolute = true)
    (forward : ∀ glob ∈ pattern.components, glob.tokens.head? = some (.letter '.') →
      glob.matchesText ".." = false) {found : Path}
    (h : found ∈ pattern.expand tree) : found.Straight := by
  have keeps : Keeps tree pattern.components Path.Straight := by
    refine ⟨?_, ?_, ?_⟩
    · -- A literal component is no step up.
      intro glob among name only path start
      have tokens := Glob.tokens_of_literal? only
      rw [step_of_isAbsolute start.isAbsolute]
      refine start.join (fun slash => ?_) fun up => ?_
      · exact (parse_spec read).2 glob among (tokens ▸ List.mem_map_of_mem slash)
      · rw [up] at tokens
        have fits := forward glob among (by rw [tokens]; rfl)
        rw [Glob.matchesText, tokens] at fits
        revert fits
        decide
    · -- A component that starts with a dot may fit `.`, which leads nowhere, but not `..`.
      intro glob among first name isDots fits path start
      rcases List.mem_cons.mp isDots with rfl | up
      · exact start.join (by decide) (by decide)
      · rw [List.mem_singleton.mp up] at fits
        cases fits.symm.trans (forward glob among first)
    · -- The name of an entry holds no slash and is no step up.
      intro location known name among path start
      obtain ⟨clean, -, step⟩ := named location known name among
      exact step_of_isAbsolute start.isAbsolute name ▸ start.join clean step
  refine keeps.expand ?_ h
  rw [(parse_spec read).1, absolute]
  exact ⟨rfl, by decide⟩

end Scan.Pattern

end Phrasebook
