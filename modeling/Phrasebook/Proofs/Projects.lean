import Phrasebook.Command.Project
import Phrasebook.Proofs.Actions
import Phrasebook.Proofs.TableFiles

/-!
# Projects that are loaded

To load a project is to read the file tree; beside that it only tells notes.

- `CommandAction.Reads`: an action that leaves the tree as it is;
- `Project.found`, `Project.reads_load`: the project that is found in a tree, or why there is none;
- `Project.Unloadable`, `Project.found_eq_error_iff`: the reasons;
- `Project.IsFound`, `Project.isFound_of_found`: how the parts of a project belong together;
- `Project.ensures_regular`: the catalogue of a project has a folder in normal form and an
  extension that is part of a name;
- `Project.ensures_placed`: the path of that folder is not empty.
-/

namespace Phrasebook

/-! ## Reading -/

namespace CommandAction

/-- On the given tree an action has the given result. It does not change the tree, and only tells
notes. -/
def Reads {α : Type} (tree : FileTree) (result : Except CommandFault α) (action : CommandAction α) :
    Prop :=
  ∀ notes, ∃ notes', action.run ⟨tree, notes⟩ = (result, ⟨tree, notes'⟩)

namespace Reads

variable {α β : Type} {tree : FileTree} {result : Except CommandFault β}

theorem pure (value : β) : Reads tree (.ok value) (pure value) := fun notes => ⟨notes, rfl⟩

theorem throw (fault : CommandFault) : Reads tree (.error fault) (throw fault : CommandAction β) :=
  fun notes => ⟨notes, rfl⟩

theorem throw_bind (fault : CommandFault) (next : α → CommandAction β) :
    Reads tree (.error fault) ((MonadExcept.throw fault : CommandAction α) >>= next) :=
  fun notes => ⟨notes, rfl⟩

theorem pure_bind {value : α} {next : α → CommandAction β} (h : Reads tree result (next value)) :
    Reads tree result ((Pure.pure value : CommandAction α) >>= next) := h

theorem get_bind {next : CommandState → CommandAction β}
    (h : ∀ notes, Reads tree result (next ⟨tree, notes⟩)) : Reads tree result (get >>= next) :=
  fun notes => h notes notes

theorem tell_bind {note : String} {next : Unit → CommandAction β}
    (h : Reads tree result (next ())) : Reads tree result (tell note >>= next) :=
  fun notes => h (notes ++ note)

/-- A note that is told only sometimes does not matter. -/
theorem ite_bind {condition : Prop} [Decidable condition] {note : String}
    {next : Unit → CommandAction β} (h : Reads tree result (next ())) :
    Reads tree result (if condition then tell note >>= next else next ()) := by
  split
  · exact tell_bind h
  · exact h

end Reads

end CommandAction

/-! ## What is found -/

namespace Project

/-- The folder of a project. -/
def rootOf (tree : FileTree) (options : ProjectOptions) : Path :=
  resolve (FileTree.pathOf tree.here) (options.sourceRoot.getD ".")

/-- The folders that hold no sources: that of the tables, and those of the outputs. -/
def excludedFolders (root : Path) (config : Config) (outputs : List String) : List Path :=
  (config.resourceDir :: outputs).map (resolve root)

/-- The sources of a project. -/
def sourcesOf (tree : FileTree) (root : Path) (config : Config) (outputs : List String) :
    List Path :=
  (Scan.run tree (resolve root config.sourceRoot)
    (scanOptions config (excludedFolders root config outputs))).files

/-- The project that is found in a tree, or why there is none. -/
def found (tree : FileTree) (options : ProjectOptions) (outDir : Option String) :
    Except CommandFault Project :=
  let root := rootOf tree options
  if !tree.isFolder root then .error (.notFolder (options.sourceRoot.getD "."))
  else
    match Config.load tree root with
    | .error fault => .error (.config fault)
    | .ok (settings, _) =>
      let config := configure options settings
      let files := sourcesOf tree root config outDir.toList
      let program := Program.load tree root files
      match Extraction.ofProgram program with
      | .error fault => .error (.extraction fault)
      | .ok extraction =>
        .ok {
          config, root, program, extraction, files
          catalogue := ⟨resolve root config.resourceDir, config.extension, root⟩ }

variable {tree : FileTree} {options : ProjectOptions} {outDir : Option String} {project : Project}

/-- Loading a project reads the tree and does not change it. -/
theorem reads_load (terminal : Terminal) (options : ProjectOptions) (outDir : Option String)
    (tree : FileTree) :
    CommandAction.Reads tree (found tree options outDir) (load terminal options outDir) := by
  -- The folder for output is left out, too, if there is one.
  have excluded (root : Path) (config : Config) :
      resolve root config.resourceDir :: (outDir.map (resolve root)).toList =
        excludedFolders root config outDir.toList := by
    cases outDir <;> rfl
  unfold load
  refine .get_bind fun notes => ?_
  unfold found rootOf sourcesOf
  simp only [excluded]
  by_cases missing : (!tree.isFolder
      (resolve (FileTree.pathOf tree.here) (options.sourceRoot.getD "."))) = true
  · rw [if_pos missing, if_pos missing]
    exact .throw_bind _ _
  · rw [if_neg missing, if_neg missing]
    cases Config.load tree (resolve (FileTree.pathOf tree.here) (options.sourceRoot.getD ".")) with
    | error fault => exact .throw_bind _ _
    | ok loaded =>
      obtain ⟨settings, isFromFile⟩ := loaded
      dsimp only
      refine .pure_bind (.ite_bind (.tell_bind (.ite_bind ?_)))
      split
      · next failed =>
        simp only [failed]
        exact .throw _
      · next extracted =>
        simp only [extracted]
        exact .pure _

theorem found_of_load {terminal : Terminal} {state after : CommandState}
    {result : Except CommandFault Project}
    (h : (load terminal options outDir).run state = (result, after)) :
    found state.tree options outDir = result ∧ after.tree = state.tree := by
  obtain ⟨notes, run⟩ := reads_load terminal options outDir state.tree state.notes
  obtain ⟨same, rfl⟩ := Prod.mk.inj (run.symm.trans h)
  exact ⟨same, rfl⟩

/-- Why there is no project in a tree. -/
inductive Unloadable (tree : FileTree) (options : ProjectOptions) (outDir : Option String) :
    CommandFault → Prop where
  | notFolder (h : tree.isFolder (rootOf tree options) = false) :
    Unloadable tree options outDir (.notFolder (options.sourceRoot.getD "."))
  | config {fault : ConfigFault} (folder : tree.isFolder (rootOf tree options) = true)
    (h : Config.load tree (rootOf tree options) = .error fault) :
    Unloadable tree options outDir (.config fault)
  /-- The arguments of the constructor name no languages. -/
  | extraction {settings : Config} {isFromFile : Bool} {fault : ExtractionFault}
    (folder : tree.isFolder (rootOf tree options) = true)
    (loaded : Config.load tree (rootOf tree options) = .ok (settings, isFromFile))
    (h : Extraction.ofProgram (Program.load tree (rootOf tree options)
      (sourcesOf tree (rootOf tree options) (configure options settings) outDir.toList)) =
        .error fault) :
    Unloadable tree options outDir (.extraction fault)

/-- How the parts of a project that is found in a tree belong together. -/
structure IsFound (tree : FileTree) (options : ProjectOptions) (outDir : Option String)
    (project : Project) : Prop where
  root : project.root = rootOf tree options
  config : ∃ settings isFromFile, Config.load tree project.root = .ok (settings, isFromFile) ∧
    project.config = configure options settings
  catalogue : project.catalogue =
    ⟨resolve project.root project.config.resourceDir, project.config.extension, project.root⟩
  files : project.files = sourcesOf tree project.root project.config outDir.toList
  program : project.program = Program.load tree project.root project.files
  extraction : Extraction.ofProgram project.program = .ok project.extraction

theorem found_eq_error_iff {fault : CommandFault} :
    found tree options outDir = .error fault ↔ Unloadable tree options outDir fault := by
  unfold found
  dsimp only
  constructor
  · -- Each way out of the loading is one of the reasons.
    intro h
    split at h
    · next missing =>
      cases h
      exact .notFolder (by simpa using missing)
    · next folder =>
      have folder : tree.isFolder (rootOf tree options) = true := by simpa using folder
      split at h
      · next failed =>
        cases h
        exact .config folder failed
      · next loaded =>
        split at h
        · next failed =>
          cases h
          exact .extraction folder loaded failed
        · cases h
  · -- And each reason stops it, as what comes before it succeeds.
    intro h
    cases h with
    | notFolder h => rw [h]; rfl
    | config folder h =>
      rw [folder, h]
      rfl
    | extraction folder loaded h =>
      rw [folder, loaded]
      dsimp only
      rw [h]
      rfl

theorem isFound_of_found (h : found tree options outDir = .ok project) :
    project.IsFound tree options outDir := by
  unfold found at h
  dsimp only at h
  split at h
  · cases h
  · split at h
    · cases h
    · next loaded =>
      split at h
      · cases h
      · next extracted =>
        rw [← Except.ok.inj h]
        constructor <;> dsimp only
        · exact ⟨_, _, loaded, rfl⟩
        · exact extracted

end Project

/-! ## Catalogues -/

/-- The extension of allowed settings is part of a name, and not made of dots only. -/
theorem Config.extension_of_allowed {config : Config} (allowed : config.problem? = none) :
    '/' ∉ config.extension.toList ∧ ∃ c ∈ config.extension.toList, c ≠ '.' := by
  unfold Config.problem? at allowed
  split at allowed
  · cases allowed
  · cases allowed
  · split at allowed
    · cases allowed
    · next fine =>
      rw [Bool.or_eq_true, not_or] at fine
      refine ⟨by simpa using fine.2, ?_⟩
      have filled : config.tableExtension.toList.dropWhile (· == '.') ≠ [] := by
        intro nothing
        rw [Config.extension, nothing] at fine
        exact fine.1 rfl
      have first := List.head_dropWhile_not (· == '.') filled
      rw [Config.extension, String.toList_ofList]
      exact ⟨_, List.head_mem filled, by simpa using first⟩

theorem Config.allowed_of_load {tree : FileTree} {folder : Path} {config : Config}
    {isFromFile : Bool} (h : Config.load tree folder = .ok (config, isFromFile)) :
    config.problem? = none := by
  unfold Config.load at h
  split at h
  · cases h
    decide
  · split at h
    · cases h
    · split at h
      · cases h
      · split at h
        · cases h
        · cases h
          assumption

theorem isAbsolute_pathOf (location : Location) : (FileTree.pathOf location).isAbsolute = true := by
  unfold FileTree.pathOf Path.isAbsolute
  rw [String.toList_append]
  rfl

namespace Project

theorem isAbsolute_resolve {base : Path} (absolute : base.isAbsolute = true) (path : String) :
    (resolve base path).isAbsolute = true :=
  Path.isAbsolute_normalize (Path.isAbsolute_join absolute)

theorem isAbsolute_rootOf (tree : FileTree) (options : ProjectOptions) :
    (rootOf tree options).isAbsolute = true := isAbsolute_resolve (isAbsolute_pathOf _) _

/-- The catalogue of a project that is loaded is regular: its folder is in normal form, and its
extension comes from settings that are allowed. -/
theorem ensures_regular (terminal : Terminal) (options : ProjectOptions)
    (outDir : Option String) :
    Action.Ensures (fun project => project.catalogue.Regular)
      (load terminal options outDir) := by
  intro state project after h
  have isFound := isFound_of_found (found_of_load h).1
  obtain ⟨settings, isFromFile, loaded, configured⟩ := isFound.config
  rw [isFound.catalogue, configured]
  constructor <;> dsimp only
  · exact Path.direct_normalize _
  · exact (Config.extension_of_allowed (Config.allowed_of_load loaded)).1

/-- The tables of a project that is loaded stand in a folder whose path starts at the root, so it is
not the empty path. -/
theorem ensures_placed (terminal : Terminal) (options : ProjectOptions)
    (outDir : Option String) :
    Action.Ensures (fun project => project.catalogue.folder.text ≠ "")
      (load terminal options outDir) := by
  intro state project after h
  have isFound := isFound_of_found (found_of_load h).1
  have absolute : project.catalogue.folder.isAbsolute = true := by
    rw [isFound.catalogue, isFound.root]
    dsimp only
    exact isAbsolute_resolve (isAbsolute_rootOf _ _) _
  intro none
  rw [Path.isAbsolute, none] at absolute
  cases absolute

end Project

end Phrasebook
