import Phrasebook.Catalogue
import Phrasebook.Proofs.Actions
import Phrasebook.Proofs.FileTree

/-!
# What actions do to a file tree

- `FileTree.Grown`: a tree with more folders, and no other change;
- `FileTree.Grows`: an action that does nothing else, such as making folders;
- `written_of_writeFile`: a written file holds its text, and apart from it the tree has only grown;
- `grown_of_writeFile`: a write that fails leaves a tree that has only grown;
- `leads_writeFile`: what holds along single changes holds along a write.
-/

namespace Phrasebook

namespace FileTree

/-! ## Growing trees -/

/-- The tree has got folders on the way to a location, and has not changed otherwise. -/
structure Grown (limit : Location) (tree after : FileTree) : Prop where
  here : after.here = tree.here
  wellFormed : after.WellFormed
  kept : ∀ location, after.entryAt? location = tree.entryAt? location ∨
    location <+: limit ∧ tree.entryAt? location = none ∧ after.entryAt? location = some .folder

variable {limit : Location} {tree middle after : FileTree}

theorem Grown.refl (wf : tree.WellFormed) : Grown limit tree tree := ⟨rfl, wf, fun _ => .inl rfl⟩

theorem Grown.trans (first : Grown limit tree middle) (second : Grown limit middle after) :
    Grown limit tree after := by
  refine ⟨second.here.trans first.here, second.wellFormed, fun location => ?_⟩
  rcases second.kept location with same | ⟨onWay, new, folder⟩
  · rw [same]
    exact first.kept location
  · rcases first.kept location with same | ⟨-, -, folder⟩
    · exact .inr ⟨onWay, same ▸ new, by assumption⟩
    · rw [new] at folder
      cases folder

/-- The action only adds folders on the way to a location, from the given current folder. It may
fail. -/
def Grows {ε α : Type} (here limit : Location) (action : FileAction ε α) : Prop :=
  ∀ tree : FileTree, tree.WellFormed → tree.here = here → Grown limit tree (action.run tree).2

/-- What `Grows` asks of the trees before and after an action. -/
def GrownFrom (here limit : Location) (tree after : FileTree) : Prop :=
  tree.WellFormed → tree.here = here → Grown limit tree after

instance {here : Location} : Std.Refl (GrownFrom here limit) := ⟨fun _ wf _ => .refl wf⟩

instance {here : Location} :
    Trans (GrownFrom here limit) (GrownFrom here limit) (GrownFrom here limit) where
  trans first second wf same :=
    have grown := first wf same
    grown.trans (second grown.wellFormed (grown.here.trans same))

theorem grows_iff {ε α : Type} {here : Location} {action : FileAction ε α} :
    Grows here limit action ↔ Action.Leads (GrownFrom here limit) action := Iff.rfl

namespace Grows

variable {ε δ α β : Type} {here : Location}

theorem pure (value : α) : Grows here limit (pure value : FileAction ε α) :=
  grows_iff.mpr (.pure value)

theorem throw (error : ε) : Grows here limit (throw error : FileAction ε α) :=
  grows_iff.mpr (.throw error)

theorem get : Grows here limit (get : FileAction ε FileTree) := grows_iff.mpr .get

theorem bind {action : FileAction ε α} {next : α → FileAction ε β} (first : Grows here limit action)
    (second : ∀ value, Grows here limit (next value)) : Grows here limit (action >>= next) :=
  grows_iff.mpr (.bind (grows_iff.mp first) fun value => grows_iff.mp (second value))

theorem tryCatch {action : FileAction ε α} {handler : ε → FileAction ε α}
    (first : Grows here limit action) (second : ∀ error, Grows here limit (handler error)) :
    Grows here limit (tryCatch action handler) :=
  grows_iff.mpr (.tryCatch (grows_iff.mp first) fun error => grows_iff.mp (second error))

theorem adapt {words : ε → δ} {action : FileAction ε α} (h : Grows here limit action) :
    Grows here limit (ExceptT.adapt words action) := h

end Grows

/-! ## Making folders -/

theorem WellFormed.putAt (wf : tree.WellFormed) {location : Location} {entry : Entry}
    (inside : tree.entryAt? location.dropLast = some .folder)
    (free : tree.entryAt? location ≠ some .folder) : (tree.putAt location entry).WellFormed := by
  have proper : location ≠ [] := by
    rintro rfl
    exact free rfl
  have kept {other : Location} (folder : tree.entryAt? other = some .folder) :
      (tree.putAt location entry).entryAt? other = some .folder := by
    have apart : location ≠ other := by
      rintro rfl
      exact free folder
    rw [entryAt?_putAt proper, if_neg apart]
    exact folder
  refine ⟨?_, kept wf.here, fun other found h => ?_⟩
  · exact fun root => (OrderedMap.mem_keys_insert.mp root).elim (Ne.symm proper) wf.root
  rw [entryAt?_putAt proper] at h
  split at h
  · rename_i same
    exact same ▸ kept inside
  · exact kept (wf.above _ _ h)

theorem run_makeFolder (path : Path) (tree : FileTree) :
    (makeFolder path).run tree =
      match tree.locate path with
      | .error error => (.error error, tree)
      | .ok location =>
        match tree.entryAt? location with
        | some _ => (.error .alreadyThere, tree)
        | none => (.ok (), tree.putAt location .folder) := by
  unfold makeFolder
  rw [Action.run_bind, Action.run_get]
  show ((liftM (tree.locate path) : FileAction FileError Location) >>= _).run tree = _
  rw [Action.run_bind, Action.run_lift]
  cases tree.locate path with
  | error error => rfl
  | ok location =>
    dsimp only
    cases tree.entryAt? location <;> rfl

namespace Grows

variable {here : Location}

/-- A new folder above the current folder would be there already. -/
theorem makeFolder {path : Path}
    (onWay : path.destination here <+: here ∨ path.destination here <+: limit) :
    Grows here limit (makeFolder path) := by
  intro tree wf same
  rw [run_makeFolder]
  cases located : tree.locate path with
  | error error => exact .refl wf
  | ok location =>
    have arrived := locate_eq_ok located
    rw [same] at arrived
    dsimp only
    cases present : tree.entryAt? location with
    | some entry => exact .refl wf
    | none =>
      -- Nothing was there, so a folder is put in its place and no other entry changes.
      have free : tree.entryAt? location ≠ some .folder := by
        rw [present]
        exact nofun
      have proper : location ≠ [] := by
        rintro rfl
        exact free rfl
      refine ⟨rfl, wf.putAt (wf.folder_of_locate located) free, fun other => ?_⟩
      rw [entryAt?_putAt proper]
      by_cases new : location = other
      · rw [if_pos new, ← new]
        rw [← arrived] at onWay
        rcases onWay with above | onWay
        · -- A folder above the working folder is there already.
          exact absurd (wf.folder_of_here (same ▸ above)) free
        · exact .inr ⟨onWay, present, rfl⟩
      · rw [if_neg new]
        exact .inl rfl

theorem ensureFolder {path : Path}
    (onWay : path.destination here <+: here ∨ path.destination here <+: limit) :
    Grows here limit (ensureFolder path) := by
  refine tryCatch (makeFolder onWay) fun error => bind get fun tree => ?_
  split
  · exact throw error
  · exact pure ()

theorem makeFoldersWithin {base : Path} (direct : base.Direct) (bound : Nat) {path : Path}
    (start : path.isAbsolute = base.isAbsolute) (above : path.steps <+: base.steps) :
    Grows here (base.destination here) (makeFoldersWithin bound path) := by
  induction bound generalizing path with
  | zero => exact throw _
  | succ bound ih =>
    have onWay : path.destination here <+: here ∨
        path.destination here <+: base.destination here :=
      Path.destination_above direct start above
    unfold FileTree.makeFoldersWithin
    split
    · -- The folder is made; if its parent is missing, that one comes first.
      refine tryCatch (makeFolder onWay) fun error => ?_
      split
      · split
        · rename_i parent found
          obtain ⟨steps, absolute⟩ := Path.steps_parent found
          refine bind (ih (absolute.trans start) ?_) fun _ => ensureFolder onWay
          exact (steps ▸ List.dropLast_prefix _).trans above
        · exact ensureFolder onWay
      · -- Another failure is passed on, unless the folder is there anyhow.
        refine bind get fun tree => ?_
        split
        · exact throw error
        · exact pure ()
    · exact pure ()

end Grows

/-! ## Writing files -/

theorem run_write (path : Path) (text : String) (tree : FileTree) :
    (write path text).run tree =
      match tree.locate path with
      | .error error => (.error error, tree)
      | .ok location =>
        match tree.entryAt? location with
        | some .folder => (.error .isFolder, tree)
        | _ => (.ok (), tree.putAt location (.file (.text text))) := by
  unfold write
  rw [Action.run_bind, Action.run_get]
  show ((liftM (tree.locate path) : FileAction FileError Location) >>= _).run tree = _
  rw [Action.run_bind, Action.run_lift]
  cases tree.locate path with
  | error error => rfl
  | ok location =>
    dsimp only
    rcases tree.entryAt? location with _ | _ | _ <;> rfl

section Leads

variable {related : FileTree → FileTree → Prop}

/-- The relation holds when a folder is put where nothing stands. -/
def HoldsAtFolders (related : FileTree → FileTree → Prop) : Prop :=
  ∀ tree path location, tree.locate path = .ok location → tree.entryAt? location = none →
    related tree (tree.putAt location .folder)

/-- The relation holds when a text is put where no folder stands. -/
def HoldsAtText (related : FileTree → FileTree → Prop) (text : String) : Prop :=
  ∀ tree path location, tree.locate path = .ok location →
    tree.entryAt? location ≠ some .folder →
      related tree (tree.putAt location (.file (.text text)))

variable [Std.Refl related]

theorem leads_makeFolder (grow : HoldsAtFolders related) (path : Path) :
    Action.Leads related (makeFolder path) := by
  intro tree
  rw [run_makeFolder]
  rcases located : tree.locate path with error | location
  · exact Std.Refl.refl tree
  · dsimp only
    cases free : tree.entryAt? location with
    | some entry => exact Std.Refl.refl tree
    | none => exact grow tree path location located free

theorem leads_write {text : String} (put : HoldsAtText related text) (path : Path) :
    Action.Leads related (write path text) := by
  intro tree
  rw [run_write]
  rcases located : tree.locate path with error | location
  · exact Std.Refl.refl tree
  · dsimp only
    rcases present : tree.entryAt? location with _ | _ | content
    · exact put tree path location located (by rw [present]; exact nofun)
    · exact Std.Refl.refl tree
    · exact put tree path location located (by rw [present]; exact nofun)

variable [Trans related related related]

theorem leads_ensureFolder (grow : HoldsAtFolders related) (path : Path) :
    Action.Leads related (ensureFolder path) := by
  refine .tryCatch (leads_makeFolder grow path) fun error => .bind .get fun tree => ?_
  split
  · exact .throw error
  · exact .pure ()

theorem leads_makeFoldersWithin (grow : HoldsAtFolders related) (bound : Nat) (path : Path) :
    Action.Leads related (makeFoldersWithin bound path) := by
  induction bound generalizing path with
  | zero => exact .throw _
  | succ bound ih =>
    unfold makeFoldersWithin
    split
    · refine .tryCatch (leads_makeFolder grow path) fun error => ?_
      split
      · split
        · exact .bind (ih _) fun _ => leads_ensureFolder grow path
        · exact leads_ensureFolder grow path
      · refine .bind .get fun tree => ?_
        split
        · exact .throw error
        · exact .pure ()
    · exact .pure ()

/-- What holds along the two changes that writing a file is made of holds along the whole. -/
theorem leads_writeFile {text : String} (grow : HoldsAtFolders related)
    (put : HoldsAtText related text) (path : Path) (shown : String) :
    Action.Leads related (writeFile path shown text) := by
  have written : Action.Leads related (ExceptT.adapt (WriteFault.file shown) (write path text)) :=
    .adapt (leads_write put path)
  unfold writeFile
  split
  · exact .bind (.adapt (leads_makeFoldersWithin grow _ _)) fun _ => written
  · exact written

end Leads

/-- A file at the location holds the text, and the tree has only grown apart from it. -/
structure Written (path : Path) (text : String) (tree after : FileTree) : Prop where
  here : after.here = tree.here
  wellFormed : after.WellFormed
  located : after.locate path = .ok (path.destination tree.here)
  free : tree.entryAt? (path.destination tree.here) ≠ some .folder
  written : after.entryAt? (path.destination tree.here) = some (.file (.text text))
  kept : ∀ location, location ≠ path.destination tree.here →
    after.entryAt? location = tree.entryAt? location ∨
      location <+: (path.destination tree.here).dropLast ∧ tree.entryAt? location = none ∧
        after.entryAt? location = some .folder

theorem Grown.written {path : Path} {text : String}
    (grown : Grown (path.destination tree.here).dropLast tree middle)
    (h : (write path text).run middle = (.ok (), after)) : Written path text tree after := by
  rw [run_write] at h
  cases located : middle.locate path with
  | error error =>
    rw [located] at h
    cases h
  | ok location =>
    have arrived := locate_eq_ok located
    rw [grown.here] at arrived
    rw [located] at h
    dsimp only at h
    -- A write to a folder is refused.
    have free : middle.entryAt? location ≠ some .folder := by
      intro folder
      rw [folder] at h
      cases h
    have done : middle.putAt location (.file (.text text)) = after := by
      rcases present : middle.entryAt? location with _ | _ | content
      · rw [present] at h
        exact (Prod.mk.inj h).2
      · exact absurd present free
      · rw [present] at h
        exact (Prod.mk.inj h).2
    have proper : location ≠ [] := by
      rintro rfl
      exact free rfl
    subst done
    have others {other : Location} (h : other ≠ location) :
        (middle.putAt location (.file (.text text))).entryAt? other = middle.entryAt? other := by
      rw [entryAt?_putAt proper, if_neg (Ne.symm h)]
    have here : (middle.putAt location (.file (.text text))).here = middle.here := rfl
    refine ⟨grown.here, ?_, ?_, ?_, ?_, fun other h => ?_⟩
    · exact grown.wellFormed.putAt (grown.wellFormed.folder_of_locate located) free
    · rw [← arrived]
      refine locate_of_folders here (fun other folder => ?_) located
      have apart : other ≠ location := by
        rintro rfl
        exact free folder
      rw [others apart]
      exact folder
    · rw [← arrived]
      -- A folder that was there would still be in the way of the write.
      intro folder
      rcases grown.kept location with same | ⟨-, new, -⟩
      · exact free (same ▸ folder)
      · rw [new] at folder
        cases folder
    · rw [← arrived, entryAt?_putAt proper, if_pos rfl]
    · rw [others (arrived ▸ h)]
      exact grown.kept other

/-- A write that fails changes nothing. -/
theorem run_write_error {path : Path} {text : String} {error : FileError}
    (h : (write path text).run tree = (.error error, after)) : after = tree := by
  rw [run_write] at h
  split at h
  · exact (Prod.mk.inj h).2.symm
  · split at h
    · exact (Prod.mk.inj h).2.symm
    · cases (Prod.mk.inj h).1

section WriteFile

variable {folder : Path} {name shown text : String}

/-- The file is one step below its folder, so the folders to make end there. -/
theorem grows_makeFolders (direct : folder.Direct) (clean : '/' ∉ name.toList)
    (said : Path.isBlank name.toList = false) {parent : Path}
    (found : (folder.join name).parent? = some parent) (here : Location) :
    Grows here (folder.destination here) (makeFolders parent) := by
  obtain ⟨steps, absolute⟩ := Path.steps_parent found
  obtain ⟨joined, start⟩ := @Path.steps_join folder name clean said
  rw [joined, List.dropLast_concat] at steps
  exact Grows.makeFoldersWithin direct _ (absolute.trans start) (steps ▸ List.prefix_refl _)

/-- Writing a file changes that file and makes folders on the way to it. -/
theorem written_of_writeFile (direct : folder.Direct) (clean : '/' ∉ name.toList)
    (said : Path.isBlank name.toList = false) (forward : name.toList ≠ ['.', '.'])
    (wf : tree.WellFormed)
    (h : (writeFile (folder.join name) shown text).run tree = (.ok (), after)) :
    Written (folder.join name) text tree after := by
  have limit : ((folder.join name).destination tree.here).dropLast =
      folder.destination tree.here := by
    rw [Path.destination_join clean said forward, List.dropLast_concat]
  have written {middle : FileTree} (grown : Grown (folder.destination tree.here) tree middle)
      (h : (ExceptT.adapt (WriteFault.file shown) (write (folder.join name) text)).run middle =
        (.ok (), after)) : Written (folder.join name) text tree after :=
    Grown.written (limit ▸ grown) (Action.of_run_adapt h)
  unfold writeFile at h
  split at h
  · rename_i parent found
    rw [Action.run_bind] at h
    have grows := grows_makeFolders direct clean said found tree.here
    have grown := @Grows.adapt _ _ _ _ _ (WriteFault.folder parent) _ grows tree wf rfl
    generalize (ExceptT.adapt (WriteFault.folder parent) (makeFolders parent)).run tree = done
      at grown h
    rcases done with ⟨error | ⟨⟩, middle⟩
    · cases h
    · exact written grown h
  · exact written (.refl wf) h

/-- If writing a file fails, folders on the way to it are all that is new. -/
theorem grown_of_writeFile (direct : folder.Direct) (clean : '/' ∉ name.toList)
    (said : Path.isBlank name.toList = false) (wf : tree.WellFormed) {fault : WriteFault}
    (h : (writeFile (folder.join name) shown text).run tree = (.error fault, after)) :
    Grown (folder.destination tree.here) tree after := by
  have failed {middle : FileTree} (grown : Grown (folder.destination tree.here) tree middle)
      (h : (ExceptT.adapt (WriteFault.file shown) (write (folder.join name) text)).run middle =
        (.error fault, after)) : Grown (folder.destination tree.here) tree after := by
    obtain ⟨error, refused⟩ := Action.of_run_adapt_error h
    rw [run_write_error refused]
    exact grown
  unfold writeFile at h
  split at h
  · -- Folders may have been made when making the next one, or writing the file, fails.
    rename_i parent found
    rw [Action.run_bind] at h
    have grows := grows_makeFolders direct clean said found tree.here
    have grown := @Grows.adapt _ _ _ _ _ (WriteFault.folder parent) _ grows tree wf rfl
    generalize (ExceptT.adapt (WriteFault.folder parent) (makeFolders parent)).run tree = done
      at grown h
    rcases done with ⟨error | ⟨⟩, middle⟩
    · cases h
      exact grown
    · exact failed grown h
  · exact failed (.refl wf) h

end WriteFile

end FileTree

end Phrasebook
