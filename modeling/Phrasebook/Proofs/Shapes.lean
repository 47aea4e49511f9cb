import Phrasebook.Proofs.FileActions

/-!
# Shapes of file trees

Whether something can be written depends on which folders and files there are, not on what the files
hold.

- `FileTree.Alike`: trees with the same folders and files;
- `FileTree.Parallel`: actions that end alike on such trees, as writing other texts to the same file
  does;
- `FileTree.Extends`: a tree in which folders and files stay what they are;
- `run_writeFile_of_file`: a file that is there can be written;
- `fails_again`: a write that has failed fails again on the tree that it has left.
-/

namespace Phrasebook

namespace FileTree

variable {tree other middle after : FileTree} {path : Path} {location : Location}

/-! ## Trees of the same shape -/

/-- The same folders and files stand in two trees, whatever the files hold. -/
structure Alike (tree other : FileTree) : Prop where
  here : other.here = tree.here
  folders : ∀ location, other.entryAt? location = some .folder ↔
    tree.entryAt? location = some .folder
  free : ∀ location, other.entryAt? location = none ↔ tree.entryAt? location = none

theorem Alike.refl (tree : FileTree) : Alike tree tree := ⟨rfl, fun _ => .rfl, fun _ => .rfl⟩

theorem Alike.trans (first : Alike tree middle) (second : Alike middle after) : Alike tree after :=
  ⟨second.here.trans first.here,
    fun location => (second.folders location).trans (first.folders location),
    fun location => (second.free location).trans (first.free location)⟩

theorem Alike.exists_file (alike : Alike tree other) {content : Content}
    (h : tree.entryAt? location = some (.file content)) :
    ∃ content', other.entryAt? location = some (.file content') := by
  rcases present : other.entryAt? location with _ | _ | content'
  · rw [(alike.free location).mp present] at h
    cases h
  · rw [(alike.folders location).mp present] at h
    cases h
  · exact ⟨content', rfl⟩

theorem Alike.follow (alike : Alike tree other) : other.follow = tree.follow := by
  funext location piece
  unfold FileTree.follow
  rcases present : tree.entryAt? location with _ | _ | content
  · rw [(alike.free location).mpr present]
  · rw [(alike.folders location).mpr present]
  · obtain ⟨content', present'⟩ := alike.exists_file present
    rw [present']

theorem Alike.locate (alike : Alike tree other) (path : Path) :
    other.locate path = tree.locate path := by
  unfold FileTree.locate
  rw [alike.follow, alike.here]

theorem isFolder_iff : tree.isFolder path = true ↔ tree.find path = .ok .folder := by
  unfold isFolder
  rcases tree.find path with error | _ | content <;> simp

theorem Alike.isFolder (alike : Alike tree other) (path : Path) :
    other.isFolder path = tree.isFolder path := by
  rw [Bool.eq_iff_iff, isFolder_iff, isFolder_iff, find_eq_ok_iff, find_eq_ok_iff, alike.locate]
  exact exists_congr fun location => and_congr_right fun _ => alike.folders location

theorem ne_nil_of_free (free : tree.entryAt? location ≠ some .folder) : location ≠ [] := by
  rintro rfl
  exact free rfl

/-- Entries of one kind at the same place keep the shapes the same. -/
theorem Alike.putAt (alike : Alike tree other) (proper : location ≠ []) {entry entry' : Entry}
    (kind : entry' = .folder ↔ entry = .folder) :
    Alike (tree.putAt location entry) (other.putAt location entry') := by
  refine ⟨alike.here, fun place => ?_, fun place => ?_⟩
  · rw [entryAt?_putAt proper, entryAt?_putAt proper]
    split
    · rw [Option.some_inj, Option.some_inj, kind]
    · exact alike.folders place
  · rw [entryAt?_putAt proper, entryAt?_putAt proper]
    split
    · exact iff_of_false nofun nofun
    · exact alike.free place

/-- A file that gets another text is a file still. -/
theorem alike_putAt_file {content content' : Content}
    (h : tree.entryAt? location = some (.file content)) :
    Alike tree (tree.putAt location (.file content')) := by
  have proper : location ≠ [] := ne_nil_of_free (by rw [h]; exact nofun)
  refine ⟨rfl, fun place => ?_, fun place => ?_⟩
  · rw [entryAt?_putAt proper]
    split
    · rename_i same
      rw [← same, h]
      exact iff_of_false nofun nofun
    · exact .rfl
  · rw [entryAt?_putAt proper]
    split
    · rename_i same
      rw [← same, h]
      exact iff_of_false nofun nofun
    · exact .rfl

/-! ## Actions in parallel -/

/-- On trees of the same shape, two actions end alike, and leave trees of the same shape. -/
def Parallel {ε α : Type} (action action' : FileAction ε α) : Prop :=
  ∀ tree other, Alike tree other → (action'.run other).1 = (action.run tree).1 ∧
    Alike (action.run tree).2 (action'.run other).2

namespace Parallel

variable {ε δ α β : Type}

theorem run_eq {action action' : FileAction ε α} (h : Parallel action action')
    (alike : Alike tree other) {result : Except ε α} (done : action.run tree = (result, after)) :
    ∃ after', action'.run other = (result, after') ∧ Alike after after' := by
  obtain ⟨same, alike'⟩ := h tree other alike
  rw [done] at same alike'
  exact ⟨(action'.run other).2, Prod.ext_iff.mpr ⟨same, rfl⟩, alike'⟩

theorem pure (value : α) : Parallel (pure value : FileAction ε α) (pure value) :=
  fun _ _ alike => ⟨rfl, alike⟩

theorem throw (error : ε) : Parallel (throw error : FileAction ε α) (throw error) :=
  fun _ _ alike => ⟨rfl, alike⟩

theorem bind {action action' : FileAction ε α} {next next' : α → FileAction ε β}
    (first : Parallel action action') (second : ∀ value, Parallel (next value) (next' value)) :
    Parallel (action >>= next) (action' >>= next') := by
  intro tree other alike
  obtain ⟨same, alike⟩ := first tree other alike
  rw [Action.run_bind, Action.run_bind]
  generalize action.run tree = done at same alike ⊢
  generalize action'.run other = done' at same alike ⊢
  rcases done with ⟨error | value, middle⟩ <;> rcases done' with ⟨error' | value', middle'⟩ <;>
    cases same
  · exact ⟨rfl, alike⟩
  · exact second value middle middle' alike

theorem tryCatch {action action' : FileAction ε α} {handler handler' : ε → FileAction ε α}
    (first : Parallel action action')
    (second : ∀ error, Parallel (handler error) (handler' error)) :
    Parallel (tryCatch action handler) (tryCatch action' handler') := by
  intro tree other alike
  obtain ⟨same, alike⟩ := first tree other alike
  rw [Action.run_tryCatch, Action.run_tryCatch]
  generalize action.run tree = done at same alike ⊢
  generalize action'.run other = done' at same alike ⊢
  rcases done with ⟨error | value, middle⟩ <;> rcases done' with ⟨error' | value', middle'⟩ <;>
    cases same
  · exact second error middle middle' alike
  · exact ⟨rfl, alike⟩

theorem adapt {words : ε → δ} {action action' : FileAction ε α} (h : Parallel action action') :
    Parallel (ExceptT.adapt words action) (ExceptT.adapt words action') := by
  intro tree other alike
  obtain ⟨same, alike⟩ := h tree other alike
  exact ⟨congrArg (Except.mapError words) same, alike⟩

end Parallel

theorem parallel_makeFolder (path : Path) : Parallel (makeFolder path) (makeFolder path) := by
  intro tree other alike
  rw [run_makeFolder, run_makeFolder, alike.locate]
  rcases tree.locate path with error | location
  · exact ⟨rfl, alike⟩
  · dsimp only
    rcases present : tree.entryAt? location with _ | entry
    · rw [(alike.free location).mpr present]
      have proper : location ≠ [] := ne_nil_of_free (by rw [present]; exact nofun)
      exact ⟨rfl, alike.putAt proper .rfl⟩
    · rcases present' : other.entryAt? location with _ | entry'
      · rw [(alike.free location).mp present'] at present
        cases present
      · exact ⟨rfl, alike⟩

/-- Whether a folder is there is the same in trees of the same shape. -/
theorem parallel_check (path : Path) (error : FileError) :
    Parallel (do if !(← get).isFolder path then MonadExcept.throw error)
      (do if !(← get).isFolder path then MonadExcept.throw error : FileAction FileError Unit) := by
  intro tree other alike
  rw [Action.run_bind, Action.run_bind, Action.run_get, Action.run_get]
  dsimp only
  rw [alike.isFolder]
  split
  · exact Parallel.throw error tree other alike
  · exact Parallel.pure () tree other alike

theorem parallel_makeFoldersWithin (bound : Nat) (path : Path) :
    Parallel (makeFoldersWithin bound path) (makeFoldersWithin bound path) := by
  have ensure (path : Path) : Parallel (ensureFolder path) (ensureFolder path) :=
    .tryCatch (parallel_makeFolder path) (parallel_check path)
  induction bound generalizing path with
  | zero => exact .throw _
  | succ bound ih =>
    unfold makeFoldersWithin
    split
    · refine .tryCatch (parallel_makeFolder path) fun error => ?_
      split
      · split
        · exact .bind (ih _) fun _ => ensure path
        · exact ensure path
      · exact parallel_check path error
    · exact .pure ()

theorem parallel_write (path : Path) (text text' : String) :
    Parallel (write path text) (write path text') := by
  intro tree other alike
  rw [run_write, run_write, alike.locate]
  rcases tree.locate path with error | location
  · exact ⟨rfl, alike⟩
  · dsimp only
    have kind : (.file (.text text') : Entry) = .folder ↔ .file (.text text) = Entry.folder :=
      iff_of_false nofun nofun
    rcases present : tree.entryAt? location with _ | _ | content
    · rw [(alike.free location).mpr present]
      have proper : location ≠ [] := ne_nil_of_free (by rw [present]; exact nofun)
      exact ⟨rfl, alike.putAt proper kind⟩
    · rw [(alike.folders location).mpr present]
      exact ⟨rfl, alike⟩
    · obtain ⟨content', present'⟩ := alike.exists_file present
      rw [present']
      have proper : location ≠ [] := ne_nil_of_free (by rw [present]; exact nofun)
      exact ⟨rfl, alike.putAt proper kind⟩

/-- Whether a file can be written does not depend on the text. -/
theorem parallel_writeFile (path : Path) (shown text text' : String) :
    Parallel (writeFile path shown text) (writeFile path shown text') := by
  have written : Parallel (ExceptT.adapt (WriteFault.file shown) (write path text))
      (ExceptT.adapt (WriteFault.file shown) (write path text')) :=
    .adapt (parallel_write path text text')
  unfold writeFile
  split
  · exact .bind (.adapt (parallel_makeFoldersWithin _ _)) fun _ => written
  · exact written

/-! ## Trees that grow -/

/-- Folders and files stay what they are, whatever the files hold, and others may be new. -/
structure Extends (tree after : FileTree) : Prop where
  here : after.here = tree.here
  wellFormed : tree.WellFormed → after.WellFormed
  folders : ∀ location, tree.entryAt? location = some .folder →
    after.entryAt? location = some .folder
  files : ∀ location content, tree.entryAt? location = some (.file content) →
    ∃ content', after.entryAt? location = some (.file content')

instance : Std.Refl Extends := ⟨fun _ => ⟨rfl, id, fun _ => id, fun _ content h => ⟨content, h⟩⟩⟩

instance : Trans Extends Extends Extends where
  trans first second :=
    ⟨second.here.trans first.here, second.wellFormed ∘ first.wellFormed,
      fun location h => second.folders location (first.folders location h),
      fun location content h =>
        have ⟨content', h⟩ := first.files location content h
        second.files location content' h⟩

/-- An entry that is put where a path leads, and where no folder stands, displaces no other. -/
theorem extends_putAt (located : tree.locate path = .ok location)
    (free : tree.entryAt? location ≠ some .folder) {entry : Entry}
    (kept : entry = .folder → tree.entryAt? location = none) :
    Extends tree (tree.putAt location entry) := by
  have proper := ne_nil_of_free free
  refine ⟨rfl, fun wf => wf.putAt (wf.folder_of_locate located) free, fun place h => ?_,
    fun place content h => ?_⟩
  · have apart : location ≠ place := by
      rintro rfl
      exact free h
    rw [entryAt?_putAt proper, if_neg apart]
    exact h
  · rw [entryAt?_putAt proper]
    split
    · rename_i same
      cases entry with
      | file content' => exact ⟨content', rfl⟩
      | folder =>
        rw [← same, kept rfl] at h
        cases h
    · exact ⟨content, h⟩

theorem extends_folder : HoldsAtFolders Extends := by
  intro tree path location located free
  exact extends_putAt located (by rw [free]; exact nofun) fun _ => free

theorem extends_writeFile (path : Path) (shown text : String) :
    Action.Leads Extends (writeFile path shown text) :=
  leads_writeFile extends_folder (fun _ _ _ located free => extends_putAt located free nofun) path
    shown

/-- A path leads to a file still. -/
theorem Extends.find_file (h : Extends tree after) {content : Content}
    (found : tree.find path = .ok (.file content)) :
    ∃ content', after.find path = .ok (.file content') := by
  obtain ⟨location, located, present⟩ := find_eq_ok_iff.mp found
  obtain ⟨content', present'⟩ := h.files _ _ present
  exact ⟨content', find_eq_ok_iff.mpr
    ⟨location, locate_of_folders h.here h.folders located, present'⟩⟩

/-! ## Folders that are there -/

theorem run_makeFolder_error {error : FileError}
    (h : (makeFolder path).run tree = (.error error, after)) : after = tree := by
  rw [run_makeFolder] at h
  split at h
  · exact (Prod.mk.inj h).2.symm
  · split at h
    · exact (Prod.mk.inj h).2.symm
    · cases (Prod.mk.inj h).1

theorem run_check (path : Path) (error : FileError) (tree : FileTree) :
    (do if !(← get).isFolder path then throw error : FileAction FileError Unit).run tree =
      if tree.isFolder path then (.ok (), tree) else (.error error, tree) := by
  rw [Action.run_bind, Action.run_get]
  dsimp only
  cases tree.isFolder path <;> rfl

theorem run_ensureFolder (path : Path) (tree : FileTree) :
    (ensureFolder path).run tree =
      match (makeFolder path).run tree with
      | (.ok _, after) => (.ok (), after)
      | (.error error, _) =>
        if tree.isFolder path then (.ok (), tree) else (.error error, tree) := by
  unfold ensureFolder
  rw [Action.run_tryCatch]
  rcases made : (makeFolder path).run tree with ⟨error | _, middle⟩
  · rw [run_makeFolder_error made]
    exact run_check path error tree
  · rfl

theorem run_makeFoldersWithin (bound : Nat) (path : Path) (tree : FileTree) :
    (makeFoldersWithin (bound + 1) path).run tree =
      if path.text.isEmpty then (.ok (), tree)
      else
        match (makeFolder path).run tree with
        | (.ok _, after) => (.ok (), after)
        | (.error error, _) =>
          if error = .notFound then
            match path.parent? with
            | none => (ensureFolder path).run tree
            | some parent =>
              match (makeFoldersWithin bound parent).run tree with
              | (.ok _, middle) => (ensureFolder path).run middle
              | (.error fault, middle) => (.error fault, middle)
          else if tree.isFolder path then (.ok (), tree) else (.error error, tree) := by
  rw [makeFoldersWithin]
  cases empty : path.text.isEmpty with
  | true => rfl
  | false =>
    rw [if_pos (by rfl), if_neg Bool.false_ne_true, Action.run_tryCatch]
    rcases made : (makeFolder path).run tree with ⟨error | _, middle⟩
    · rw [run_makeFolder_error made]
      dsimp only
      split
      · cases path.parent? with
        | none => rfl
        | some parent =>
          dsimp only
          rw [Action.run_bind]
          rcases (makeFoldersWithin bound parent).run tree with ⟨_ | _, middle⟩ <;> rfl
      · -- Another failure counts only if there is no such folder.
        exact run_check path error tree
    · rfl

/-- A folder is there, or the path is empty and asks for none. -/
def Stands (tree : FileTree) (path : Path) : Prop :=
  path.text.isEmpty = true ∨ tree.isFolder path = true

/-- Nothing is to be made where a folder stands. -/
theorem run_makeFoldersWithin_of_stands (h : Stands tree path) (bound : Nat) :
    (makeFoldersWithin (bound + 1) path).run tree = (.ok (), tree) := by
  rw [run_makeFoldersWithin]
  split
  · rfl
  · rename_i filled
    have folder : tree.isFolder path = true := h.resolve_left filled
    obtain ⟨location, located, present⟩ := find_eq_ok_iff.mp (isFolder_iff.mp folder)
    rw [run_makeFolder, located]
    dsimp only
    rw [present]
    dsimp only
    rw [if_neg (by decide), if_pos folder]

theorem isFolder_of_makeFolder (h : (makeFolder path).run tree = (.ok (), after)) :
    after.isFolder path = true := by
  rw [run_makeFolder] at h
  split at h
  · cases (Prod.mk.inj h).1
  · rename_i location located
    split at h
    · cases (Prod.mk.inj h).1
    · rename_i free
      cases h
      have extended := extends_folder tree path location located free
      have proper : location ≠ [] := ne_nil_of_free (by rw [free]; exact nofun)
      refine isFolder_iff.mpr (find_eq_ok_iff.mpr ⟨location, ?_, ?_⟩)
      · exact locate_of_folders extended.here extended.folders located
      · rw [entryAt?_putAt proper, if_pos rfl]

theorem isFolder_of_ensureFolder (h : (ensureFolder path).run tree = (.ok (), after)) :
    after.isFolder path = true := by
  rw [run_ensureFolder] at h
  rcases made : (makeFolder path).run tree with ⟨error | _, middle⟩
  · rw [made] at h
    dsimp only at h
    split at h
    · rename_i folder
      exact (Prod.mk.inj h).2 ▸ folder
    · cases (Prod.mk.inj h).1
  · rw [made] at h
    exact (Prod.mk.inj h).2 ▸ isFolder_of_makeFolder made

/-- Making folders ends with a folder that stands. -/
theorem stands_of_makeFoldersWithin {bound : Nat}
    (h : (makeFoldersWithin bound path).run tree = (.ok (), after)) : Stands after path := by
  cases bound with
  | zero => cases (Prod.mk.inj h).1
  | succ bound =>
    rw [run_makeFoldersWithin] at h
    split at h
    · exact .inl (by assumption)
    · refine .inr ?_
      split at h
      · rename_i made
        exact (Prod.mk.inj h).2 ▸ isFolder_of_makeFolder made
      · split at h
        · split at h
          · exact isFolder_of_ensureFolder h
          · split at h
            · exact isFolder_of_ensureFolder h
            · cases (Prod.mk.inj h).1
        · split at h
          · rename_i folder
            exact (Prod.mk.inj h).2 ▸ folder
          · cases (Prod.mk.inj h).1

/-- What a path leads through stands. -/
theorem WellFormed.stands_parent (wf : tree.WellFormed) {parent : Path}
    (found : path.parent? = some parent) (located : tree.locate path = .ok location) :
    Stands tree parent := by
  by_cases empty : parent.text.isEmpty = true
  · exact .inl empty
  · obtain ⟨steps, start⟩ := Path.steps_parent found
    refine .inr (isFolder_iff.mpr (wf.locate_above steps start ⟨?_, fun nul => ?_⟩ located))
    · exact fun none => empty (String.isEmpty_iff.mpr (String.toList_eq_nil_iff.mp none))
    · rcases Path.mem_parent found nul with slash | dot | nul
      · exact absurd slash (by decide)
      · exact absurd dot (by decide)
      · exact (locate_eq_ok_iff.mp located).1.2 nul

/-- A file that is there can be written, and nothing else changes. -/
theorem run_writeFile_of_file (wf : tree.WellFormed) {content : Content}
    (found : tree.find path = .ok (.file content)) (shown text : String) :
    ∃ after, (writeFile path shown text).run tree = (.ok (), after) ∧ Alike tree after := by
  obtain ⟨location, located, present⟩ := find_eq_ok_iff.mp found
  refine ⟨tree.putAt location (.file (.text text)), ?_, alike_putAt_file present⟩
  have written : (ExceptT.adapt (WriteFault.file shown) (write path text)).run tree =
      (.ok (), tree.putAt location (.file (.text text))) := by
    rw [Action.run_adapt, run_write, located]
    dsimp only
    rw [present]
    rfl
  unfold writeFile
  split
  · -- Its folder stands, so making it changes nothing.
    rename_i parent above
    have stands := run_makeFoldersWithin_of_stands (wf.stands_parent above located)
      parent.text.length
    unfold makeFolders
    rw [Action.run_bind, Action.run_adapt, stands]
    exact written
  · exact written

/-! ## Writes that fail -/

/-- The action fails on the tree. -/
def Fails {ε α : Type} (action : FileAction ε α) (tree : FileTree) : Prop :=
  ∃ error after, action.run tree = (.error error, after)

theorem ensureFolder_error {error : FileError}
    (h : (ensureFolder path).run tree = (.error error, after)) :
    after = tree ∧ Fails (makeFolder path) tree ∧ tree.isFolder path = false := by
  rw [run_ensureFolder] at h
  rcases made : (makeFolder path).run tree with ⟨fault | _, middle⟩
  · rw [made] at h
    dsimp only at h
    split at h
    · cases (Prod.mk.inj h).1
    · rename_i other
      exact ⟨(Prod.mk.inj h).2.symm, ⟨fault, middle, made⟩, by simpa using other⟩
  · rw [made] at h
    cases (Prod.mk.inj h).1

/-- A folder cannot be made on a tree where neither it nor a folder on the way to it can be. -/
theorem fails_of_makeFolder {bound : Nat} (filled : path.text.isEmpty = false)
    (fails : Fails (makeFolder path) tree) (other : tree.isFolder path = false)
    (above : ∀ parent, path.parent? = some parent →
      Fails (makeFoldersWithin bound parent) tree ∨
        (makeFoldersWithin bound parent).run tree = (.ok (), tree)) :
    Fails (makeFoldersWithin (bound + 1) path) tree := by
  obtain ⟨error, after, made⟩ := fails
  -- Once the parent is there, making the folder fails as it did.
  have ensured : (ensureFolder path).run tree = (.error error, tree) := by
    rw [run_ensureFolder, made]
    dsimp only
    rw [other, if_neg Bool.false_ne_true]
  unfold Fails
  rw [run_makeFoldersWithin, filled, if_neg Bool.false_ne_true, made]
  dsimp only
  rw [other, if_neg Bool.false_ne_true]
  split
  · cases found : path.parent? with
    | none => exact ⟨error, tree, ensured⟩
    | some parent =>
      dsimp only
      rcases above parent found with ⟨fault, last, refused⟩ | stands
      · rw [refused]
        exact ⟨fault, last, rfl⟩
      · rw [stands]
        exact ⟨error, tree, ensured⟩
  · exact ⟨error, tree, rfl⟩

/-- A folder cannot be made if the folders that its path leads through cannot be. -/
theorem fails_of_parent {bound : Nat} (wf : tree.WellFormed) (filled : path.text.isEmpty = false)
    {parent : Path} (found : path.parent? = some parent)
    (refused : Fails (makeFoldersWithin (bound + 1) parent) tree) :
    Fails (makeFoldersWithin (bound + 1 + 1) path) tree := by
  have nowhere {location : Location} (located : tree.locate path = .ok location) : False := by
    obtain ⟨fault, last, refused⟩ := refused
    rw [run_makeFoldersWithin_of_stands (wf.stands_parent found located)] at refused
    cases (Prod.mk.inj refused).1
  refine fails_of_makeFolder filled ?_ ?_ fun parent' found' => ?_
  · unfold Fails
    rw [run_makeFolder]
    cases located : tree.locate path with
    | error error => exact ⟨error, tree, rfl⟩
    | ok location => exact (nowhere located).elim
  · rw [← Bool.not_eq_true, isFolder_iff, find_eq_ok_iff]
    rintro ⟨location, located, -⟩
    exact nowhere located
  · cases found.symm.trans found'
    exact .inl refused

/-- Folders that could not be made cannot be made either on the tree that was left. -/
theorem makeFoldersWithin_fails_again {bound : Nat} (wf : tree.WellFormed) {error : FileError}
    (h : (makeFoldersWithin bound path).run tree = (.error error, after)) :
    Fails (makeFoldersWithin bound path) after := by
  induction bound generalizing path tree error with
  | zero => exact ⟨.notFound, after, rfl⟩
  | succ bound ih =>
    have again (same : after = tree) : Fails (makeFoldersWithin (bound + 1) path) after :=
      ⟨error, after, same ▸ h⟩
    rw [run_makeFoldersWithin] at h
    split at h
    · cases (Prod.mk.inj h).1
    rename_i filled
    rw [Bool.not_eq_true] at filled
    split at h
    · cases (Prod.mk.inj h).1
    split at h
    · split at h
      · exact again (ensureFolder_error h).1
      · rename_i parent found
        split at h
        · -- The folders on the way are there, and the last one cannot be made.
          rename_i middle done
          obtain ⟨rfl, fails, other⟩ := ensureFolder_error h
          refine fails_of_makeFolder filled fails other fun parent' found' => ?_
          cases found.symm.trans found'
          cases bound with
          | zero => cases (Prod.mk.inj done).1
          | succ bound =>
            exact .inr (run_makeFoldersWithin_of_stands (stands_of_makeFoldersWithin done) bound)
        · -- Some folder on the way cannot be made, so the path leads nowhere.
          rename_i fault middle refused
          cases h
          cases bound with
          | zero =>
            cases refused
            exact again rfl
          | succ bound =>
            have wf' :=
              (leads_makeFoldersWithin extends_folder (bound + 1) parent tree).wellFormed wf
            rw [refused] at wf'
            exact fails_of_parent wf' filled found (ih wf refused)
    · split at h
      · cases (Prod.mk.inj h).1
      · exact again (Prod.mk.inj h).2.symm

/-- A write that has failed fails again on the tree that it has left. -/
theorem fails_again (wf : tree.WellFormed) {shown text : String} {fault : WriteFault}
    (h : (writeFile path shown text).run tree = (.error fault, after)) :
    Fails (writeFile path shown text) after := by
  -- A text that cannot be written leaves no trace.
  have written {middle : FileTree}
      (h : (ExceptT.adapt (WriteFault.file shown) (write path text)).run middle =
        (.error fault, after)) : after = middle := by
    obtain ⟨error, refused⟩ := Action.of_run_adapt_error h
    exact run_write_error refused
  unfold writeFile at h ⊢
  unfold Fails
  cases found : path.parent? with
  | none =>
    rw [found] at h
    exact ⟨fault, after, written h ▸ h⟩
  | some parent =>
    rw [found] at h
    dsimp only at h ⊢
    rw [Action.run_bind, Action.run_adapt] at h ⊢
    unfold makeFolders at h ⊢
    rcases done : (makeFoldersWithin (parent.text.length + 1) parent).run tree with
      ⟨error | _, middle⟩
    · -- A folder could not be made, and cannot be made again.
      rw [done] at h
      cases h
      obtain ⟨error', last, refused⟩ := makeFoldersWithin_fails_again wf done
      rw [refused]
      exact ⟨_, last, rfl⟩
    · -- The folders stand, and the text cannot be written again.
      rw [done] at h
      obtain rfl := written h
      rw [run_makeFoldersWithin_of_stands (stands_of_makeFoldersWithin done)]
      exact ⟨fault, after, h⟩

end FileTree

end Phrasebook
