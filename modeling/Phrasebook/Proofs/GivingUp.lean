import Phrasebook.Command.Run
import Phrasebook.Proofs.FileActions
import Phrasebook.Proofs.Projects

/-!
# Commands that are given up

A command that changes tables is given up either before it writes anything, for a reason that can be
seen in the file tree and the command itself, or because an operation on files failed.

- `WriteFault.Raised`: the operation that failed;
- `Project.Refused`: why a project that is found is not translated;
- `Command.Obstacle`: all reasons to give a command up before it writes;
- `Command.given_up_unwritten`: each of them is found before anything is written, and there are no
  others.
-/

namespace Phrasebook

/-! ## Operations that fail -/

/-- The operation behind a fault has failed, and left the tree. -/
inductive WriteFault.Raised (after : FileTree) : WriteFault → Prop where
  | folder {path : Path} {error : FileError} (before : FileTree)
    (h : (FileTree.makeFolders path).run before = (.error error, after)) :
    Raised after (.folder path error)
  | file {path : Path} {shown text : String} {error : FileError} (before : FileTree)
    (h : (FileTree.write path text).run before = (.error error, after)) :
    Raised after (.file shown error)

theorem fails_writeFile (path : Path) (shown text : String) :
    Action.Fails (fun fault after => fault.Raised after) (writeFile path shown text) := by
  have write : Action.Fails (fun fault after => fault.Raised after)
      (ExceptT.adapt (WriteFault.file shown) (FileTree.write path text)) :=
    .adapt fun before _ _ h => .file before h
  unfold writeFile
  dsimp only
  split
  · exact .bind (.adapt fun before _ _ h => .folder before h) fun _ => write
  · exact write

namespace Catalogue

variable {catalogue : Catalogue}

theorem fails_run (apply : Bool) (update : FileTree → Need → Update) (needs : List Need) :
    Action.Fails (fun fault after => fault.Raised after) (catalogue.run apply update needs) := by
  refine .foldlM (fun outcome need _ => .bind .get fun tree => ?_) _
  unfold record
  dsimp only
  split
  · exact .pure _
  · split
    · exact .bind (fails_writeFile _ _ _) fun _ => .pure _
    · exact .pure _

theorem fails_reconcile (identities : List Identity) (languages : List String) (apply : Bool) :
    Action.Fails (fun fault after => fault.Raised after)
      (catalogue.reconcile identities languages apply) :=
  .bind (fails_run _ _ _) fun _ => .bind .get fun _ => .pure _

theorem fails_commit (extraction : Extraction) (options : FillOptions) :
    Action.Fails (fun fault after => fault.Raised after) (catalogue.commit extraction options) :=
  fails_run _ _ _

end Catalogue

/-- A command has been given up because an operation on files failed, and that has left the tree. -/
def CommandFault.OfFiles (fault : CommandFault) (after : CommandState) : Prop :=
  ∃ failed : WriteFault, fault = .write failed ∧ failed.Raised after.tree

theorem CommandAction.fails_onFiles {α : Type} {action : FileAction WriteFault α}
    (h : Action.Fails (fun fault after => fault.Raised after) action) :
    Action.Fails CommandFault.OfFiles (onFiles .write action) := by
  intro state fault after failed
  unfold onFiles at failed
  rw [Action.run_bind, Action.run_get] at failed
  dsimp only at failed
  rcases done : action.run state.tree with ⟨error | value, tree⟩
  · simp only [done] at failed
    cases failed
    exact ⟨error, rfl, h _ _ _ done⟩
  · simp only [done] at failed
    cases failed

/-! ## Projects -/

/-- There is no key of the service, or it is blank. -/
def CommandSetting.KeyMissing (setting : CommandSetting) : Prop :=
  ∀ key, setting.key = some key → Text.trim key = ""

namespace Project

variable {project : Project} {setting : CommandSetting} {tree : FileTree} {again : List String}
  {isDryRun : Bool} {fault : CommandFault}

/-- Once a project is found, only operations on files make `sync` fail. -/
theorem fails_sync (isCheck : Bool) :
    Action.Fails CommandFault.OfFiles (project.sync isCheck) :=
  .bind (CommandAction.fails_onFiles (Catalogue.fails_reconcile _ _ _)) fun _ =>
    .bind .get fun _ => .pure _

/-- Why a text cannot be translated again. -/
inductive BadTarget (extraction : Extraction) (text : String) : CommandFault → Prop where
  | malformed (h : Identity.parse? text = none) : BadTarget extraction text (.badIdentity text)
  | unused {identity : Identity} (parsed : Identity.parse? text = some identity)
    (h : identity ∉ extraction.identities) : BadTarget extraction text (.unusedIdentity text)

/-- A text names an identity that the program looks up. -/
def Names (extraction : Extraction) (text : String) (identity : Identity) : Prop :=
  Identity.parse? text = some identity ∧ identity ∈ extraction.identities

theorem target_eq_error_iff {extraction : Extraction} {text : String} :
    target extraction text = .error fault ↔ BadTarget extraction text fault := by
  unfold target
  constructor
  · intro h
    split at h
    · next none =>
      cases h
      exact .malformed none
    · next identity parsed =>
      split at h
      · cases h
      · next unused =>
        cases h
        exact .unused parsed (by simpa using unused)
  · intro h
    cases h with
    | malformed none => rw [none]
    | unused parsed unused =>
      rw [parsed]
      simp [unused]

theorem target_eq_ok_iff {extraction : Extraction} {text : String} {identity : Identity} :
    target extraction text = .ok identity ↔ Names extraction text identity := by
  unfold target Names
  cases Identity.parse? text with
  | none => simp
  | some found =>
    rw [Option.some.injEq]
    dsimp only
    split
    · next used =>
      rw [Except.ok.injEq]
      refine ⟨fun same => ⟨same, same ▸ by simpa using used⟩, And.left⟩
    · next unused =>
      refine ⟨nofun, ?_⟩
      rintro ⟨rfl, used⟩
      exact absurd (by simpa using used) unused

theorem serviceKey_eq_error_iff :
    serviceKey setting = .error fault ↔ setting.KeyMissing ∧ fault = .noKey := by
  unfold serviceKey CommandSetting.KeyMissing
  cases setting.key with
  | none =>
    simp only [reduceCtorEq, false_implies, implies_true, true_and, Except.error.injEq]
    exact eq_comm
  | some key =>
    dsimp only
    simp only [Option.some.injEq, forall_eq', String.isEmpty_iff]
    split
    · next blank =>
      simp only [blank, true_and, Except.error.injEq]
      exact eq_comm
    · next filled => simp [filled]

theorem performAll_eq_error_iff {jobs : List TranslationJob} :
    project.performAll setting jobs = .error fault ↔
      jobs ≠ [] ∧ setting.KeyMissing ∧ fault = .noKey := by
  rw [← serviceKey_eq_error_iff]
  cases jobs with
  | nil => simp [performAll, pure, Except.pure]
  | cons job rest =>
    unfold performAll
    cases serviceKey setting <;> simp [bind, Except.bind, pure, Except.pure]

/-- What is planned when the given identities are translated again. -/
def planned (project : Project) (tree : FileTree) (targets : List Identity) : TranslationPlan :=
  .make project.catalogue tree project.extraction project.config.defaultLanguage targets

/-- Why a project is not translated, before anything is written. -/
inductive Refused (project : Project) (setting : CommandSetting) (tree : FileTree)
    (again : List String) (isDryRun : Bool) : CommandFault → Prop where
  /-- The first text that names no identity of the program. -/
  | target {first rest : List String} {text : String} {fault : CommandFault}
    (listed : again = first ++ text :: rest)
    (fine : ∀ other ∈ first, ∃ identity, Names project.extraction other identity)
    (bad : BadTarget project.extraction text fault) :
    Refused project setting tree again isDryRun fault
  /-- There are jobs to do, and no key to do them with. -/
  | key {targets : List Identity} (named : again.Forall₂ (Names project.extraction) targets)
    (wanted : isDryRun = false) (waiting : (project.planned tree targets).jobs ≠ [])
    (missing : setting.KeyMissing) : Refused project setting tree again isDryRun .noKey

theorem mapM_target_eq_ok_iff {extraction : Extraction} {targets : List Identity} :
    again.mapM (target extraction) = .ok targets ↔ again.Forall₂ (Names extraction) targets :=
  Action.mapM_eq_ok_iff.trans (by simp only [target_eq_ok_iff])

theorem run_liftExcept {α : Type} (found : Except CommandFault α) (state : CommandState) :
    (translate.liftExcept found).run state = (found, state) := by
  cases found <;> rfl

/-- To translate a project is to read the targets, to plan, to ask for the translations and to write
them, in this order. -/
theorem run_translate (state : CommandState) :
    (project.translate setting again isDryRun).run state =
      match again.mapM (target project.extraction) with
      | .error fault => (.error fault, state)
      | .ok targets =>
        let plan := project.planned state.tree targets
        if isDryRun then
          (.ok (project.result (.translate plan.jobs [] [] true) (project.issues ++ plan.issues)),
            state)
        else
          match project.performAll setting plan.jobs with
          | .error fault => (.error fault, state)
          | .ok batch =>
            (do
              let outcome ← CommandAction.onFiles .write <|
                project.catalogue.commit project.extraction
                  ⟨batch.translations, targets, project.config.defaultLanguage⟩
              return project.result (.translate plan.jobs batch.completed outcome.changes false)
                (project.issues ++ batch.issues ++ outcome.issues) :
              CommandAction CommandResult).run state := by
  unfold translate
  dsimp only
  rw [Action.run_bind, run_liftExcept]
  cases again.mapM (target project.extraction) with
  | error fault => rfl
  | ok targets =>
    dsimp only
    rw [Action.run_bind, Action.run_get]
    cases isDryRun with
    | true => rfl
    | false =>
      dsimp only
      -- The jobs are given to the service before any table is written.
      rw [if_neg Bool.false_ne_true, if_neg Bool.false_ne_true, Action.run_bind, run_liftExcept]
      unfold planned
      cases project.performAll setting (TranslationPlan.make project.catalogue state.tree
        project.extraction project.config.defaultLanguage targets).jobs <;> rfl

/-- A project that is refused is left as it is. -/
theorem run_translate_of_refused {state : CommandState}
    (h : project.Refused setting state.tree again isDryRun fault) :
    (project.translate setting again isDryRun).run state = (.error fault, state) := by
  rw [run_translate]
  cases h with
  | target listed fine bad =>
    have failed : again.mapM (target project.extraction) = .error fault := by
      refine Action.mapM_eq_error_iff.mpr ⟨_, _, _, listed, fun other here => ?_,
        target_eq_error_iff.mpr bad⟩
      exact (fine other here).imp fun identity => target_eq_ok_iff.mpr
    rw [failed]
  | key named wanted waiting missing =>
    rw [mapM_target_eq_ok_iff.mpr named]
    dsimp only
    rw [wanted, if_neg Bool.false_ne_true,
      performAll_eq_error_iff.mpr ⟨waiting, missing, rfl⟩]

/-- A project that is not translated is refused, or an operation on files has failed. -/
theorem of_run_translate_error {state after : CommandState}
    (h : (project.translate setting again isDryRun).run state = (.error fault, after)) :
    (project.Refused setting state.tree again isDryRun fault ∧ after = state) ∨
      fault.OfFiles after := by
  rw [run_translate] at h
  split at h
  · -- A text that is to be translated again is malformed or not used.
    next failed =>
    cases h
    obtain ⟨first, text, rest, listed, fine, bad⟩ := Action.mapM_eq_error_iff.mp failed
    refine .inl ⟨.target listed (fun other here => ?_) (target_eq_error_iff.mp bad), rfl⟩
    exact (fine other here).imp fun identity => target_eq_ok_iff.mp
  · next targets named =>
    dsimp only at h
    split at h
    · cases (Prod.mk.inj h).1
    · next wanted =>
      split at h
      · -- There is work to do and no key for the service.
        next failed =>
        cases h
        obtain ⟨waiting, missing, rfl⟩ := performAll_eq_error_iff.mp failed
        exact .inl ⟨.key (mapM_target_eq_ok_iff.mp named) (by simpa using wanted) waiting missing,
          rfl⟩
      · -- The batch is there, so what fails is a write.
        refine .inr (Action.Fails.bind ?_ (fun _ => .pure _) _ _ _ h)
        exact CommandAction.fails_onFiles (Catalogue.fails_commit _ _)

end Project

/-! ## Commands -/

namespace Command

/-- The options of a command that brings tables up to date or translates them. -/
def tableOptions? : Command → Option ProjectOptions
  | .sync options _ | .translate options _ _ => some options
  | .minify .. | .init => none

/-- Why a command is given up before it writes anything. -/
inductive Obstacle (setting : CommandSetting) (tree : FileTree) :
    Command → CommandFault → Prop where
  /-- There is no project, its settings cannot be used, or its constructor names no languages. -/
  | project {command : Command} {options : ProjectOptions} {fault : CommandFault}
    (asks : command.tableOptions? = some options)
    (h : Project.Unloadable tree options none fault) : Obstacle setting tree command fault
  | translate {options : ProjectOptions} {again : List String} {isDryRun : Bool}
    {project : Project} {fault : CommandFault}
    (found : Project.found tree options none = .ok project)
    (h : project.Refused setting tree again isDryRun fault) :
    Obstacle setting tree (.translate options again isDryRun) fault

variable {setting : CommandSetting} {tree : FileTree} {command : Command}
  {options : ProjectOptions}

/-- What comes after a project is loaded. -/
theorem run_load_bind {outDir : Option String} {next : Project → CommandAction CommandResult}
    (notes : String) : ∃ notes',
      (Project.load setting.terminal options outDir >>= next).run ⟨tree, notes⟩ =
        match Project.found tree options outDir with
        | .ok project => (next project).run ⟨tree, notes'⟩
        | .error fault => (.error fault, ⟨tree, notes'⟩) := by
  obtain ⟨notes', loaded⟩ := Project.reads_load setting.terminal options outDir tree notes
  refine ⟨notes', ?_⟩
  rw [Action.run_bind, loaded]
  cases Project.found tree options outDir <;> rfl

/-- A command on tables is given up for each obstacle, and then nothing has been written. Otherwise
it is only given up because an operation on files has failed. -/
theorem given_up_unwritten (asks : command.tableOptions? = some options) (setting : CommandSetting)
    (tree : FileTree) (notes : String) :
    (∀ fault, Obstacle setting tree command fault → ∃ notes',
      (command.run setting).run ⟨tree, notes⟩ = (.error fault, ⟨tree, notes'⟩)) ∧
    ∀ fault after, (command.run setting).run ⟨tree, notes⟩ = (.error fault, after) →
      (Obstacle setting tree command fault ∧ after.tree = tree) ∨
        ∃ failed : WriteFault, fault = .write failed ∧ failed.Raised after.tree := by
  cases command with
  | minify | init => cases asks
  | sync own isCheck =>
    cases asks
    obtain ⟨notes', same⟩ : ∃ notes', (Command.run setting (.sync options isCheck)).run _ = _ :=
      run_load_bind notes
    rw [same]
    -- Loading has read the tree and left it as it was.
    constructor
    · rintro fault ⟨asks, h⟩
      cases asks
      rw [Project.found_eq_error_iff.mpr h]
      exact ⟨notes', rfl⟩
    · intro fault after h
      split at h
      · exact .inr (Project.fails_sync isCheck _ _ _ h)
      · next failed =>
        cases h
        exact .inl ⟨.project rfl (Project.found_eq_error_iff.mp failed), rfl⟩
  -- Behind loading, a translation reads what is asked for and the key of the service.
  | translate own again isDryRun =>
    cases asks
    obtain ⟨notes', same⟩ :
        ∃ notes', (Command.run setting (.translate options again isDryRun)).run _ = _ :=
      run_load_bind notes
    rw [same]
    constructor
    · intro fault obstacle
      refine ⟨notes', ?_⟩
      cases obstacle with
      | project asks h =>
        cases asks
        rw [Project.found_eq_error_iff.mpr h]
      | translate found refused =>
        rw [found]
        exact Project.run_translate_of_refused refused
    · intro fault after h
      split at h
      · next found =>
        refine (Project.of_run_translate_error h).imp_left fun ⟨refused, kept⟩ => ?_
        exact ⟨.translate found refused, kept ▸ rfl⟩
      · next failed =>
        cases h
        exact .inl ⟨.project rfl (Project.found_eq_error_iff.mp failed), rfl⟩

/-- One source, which greets in a language that has no table yet. -/
def newLanguage : FileTree where
  entries := .ofList [
    (["src"], .folder),
    (["src", "a.ts"], .file (.text (
      "/** I18NLOCTEXTSYMBOL */\nfunction t(k) \x7b\x7d\n" ++
      "/** I18NCONSTRUCTORSYMBOL */\nnew T([\"ko\"]);\nt(\"Hi\");")))]
  here := []

theorem exists_newLanguage : ∃ project, Project.found newLanguage {} none = .ok project ∧
    (project.planned newLanguage []).jobs ≠ [] := by
  have waits : (Project.found newLanguage {} none).toOption.map
      (fun project => (project.planned newLanguage []).jobs.isEmpty) = some false := by
    decide +kernel
  cases found : Project.found newLanguage {} none with
  | error fault =>
    rw [found] at waits
    cases waits
  | ok project =>
    rw [found] at waits
    exact ⟨project, rfl, by simpa [Except.toOption] using waits⟩

/-- The key of the service consists of blanks. -/
def blankKey : CommandSetting := ⟨⟨false⟩, some " ", fun _ => .error .badKey⟩

theorem new_language_untranslated : ∃ notes,
    ((translate {} [] false).run blankKey).run ⟨newLanguage, ""⟩ =
      (.error .noKey, ⟨newLanguage, notes⟩) := by
  obtain ⟨project, found, waiting⟩ := exists_newLanguage
  refine (given_up_unwritten rfl blankKey newLanguage "").1 _ (.translate found ?_)
  refine .key .nil rfl waiting fun key given => ?_
  cases given
  decide

end Command

end Phrasebook
