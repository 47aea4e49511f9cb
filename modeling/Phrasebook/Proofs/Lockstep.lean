import Phrasebook.Proofs.Shapes
import Phrasebook.Proofs.Updates

/-!
# Runs in lockstep

Two runs over the same tables go on side by side: where one can write its file, so can the other, as
the trees differ only in what the files hold.

- `Reached`: what a run has done when it has come as far as some tables;
- `run_lockstep`: a run that writes the same files as another, or files that are there, succeeds if
  the other does;
- `look_fails_alike`: it fails at a table if the other does.
-/

namespace Phrasebook.Catalogue

open FileTree (Alike Fails)

variable {catalogue : Catalogue} {update other : FileTree → Need → Update} {needs done : List Need}
  {tree tree' middle after : FileTree}

/-! ## How far a run has come -/

/-- The run has come as far as the tables `done`: it has written their files, and nothing else. -/
structure Reached (catalogue : Catalogue) (update : FileTree → Need → Update) (done : List Need)
    (tree after : FileTree) : Prop where
  changed : Changed catalogue (done.filter fun need => (update tree need).change.isSome) tree after
  stored : ∀ need ∈ done, ∀ change path text,
    (update tree need).change = some (change, path, text) →
    Stored catalogue need text tree after

theorem reached_of_run (regular : catalogue.Regular) (own : Local catalogue update)
    (valid : ∀ need ∈ needs, need.Valid) (distinct : needs.Pairwise Need.Apart)
    (wf : tree.WellFormed) {outcome : Outcome}
    (h : (catalogue.run true update needs).run tree = (.ok outcome, after)) :
    Reached catalogue update needs tree after :=
  have ⟨_, changed, stored⟩ := run_apply_spec regular own valid distinct wf h
  ⟨changed, stored⟩

/-- A step that fails leaves a run where it was. -/
theorem Reached.failed (regular : catalogue.Regular) (own : Local catalogue update)
    (valid : ∀ need ∈ done, need.Valid) {need : Need} (valid' : need.Valid)
    (reached : Reached catalogue update done tree middle) {start : Outcome} {fault : WriteFault}
    (h : (look catalogue true update start need).run middle = (.error fault, after)) :
    Reached catalogue update done tree after := by
  have grown := changed_of_look_error regular own valid' reached.changed.wellFormed h
  refine ⟨?_, fun need here change path text same => ?_⟩
  · have whole := reached.changed.append grown
    rwa [List.append_nil] at whole
  · exact (reached.stored need here change path text same).later reached.changed.here regular
      (List.forall_mem_nil _) (valid need here) (List.forall_mem_nil _) grown

/-- What is found about a table that the run has not come to is found still. -/
theorem Reached.update_eq (regular : catalogue.Regular) (wf : tree.WellFormed)
    (valid : ∀ need ∈ done, need.Valid) (reached : Reached catalogue update done tree after)
    (own : Local catalogue other) {need : Need} (valid' : need.Valid)
    (apart : ∀ first ∈ done, need.Apart first) : other after need = other tree need :=
  reached.changed.update_eq regular own wf (fun first h => valid first (List.mem_filter.mp h).1)
    valid' fun first h => apart first (List.mem_filter.mp h).1

/-- So is what is read from its file. -/
theorem Reached.read_eq (regular : catalogue.Regular) (wf : tree.WellFormed)
    (valid : ∀ need ∈ done, need.Valid) (reached : Reached catalogue update done tree after)
    {need : Need} (valid' : need.Valid) (apart : ∀ first ∈ done, need.Apart first) :
    catalogue.read after (need.path catalogue) = catalogue.read tree (need.path catalogue) :=
  read_congr fun _ => (reached.changed.find regular wf
    (fun first h => valid first (List.mem_filter.mp h).1) valid'
    fun first h => apart first (List.mem_filter.mp h).1).symm

/-- The file of a table holds the text that was written there. -/
theorem Reached.contentAt?_of_some (reached : Reached catalogue update done tree after)
    {need : Need} (here : need ∈ done) {change : FileChange} {path : Path} {text : String}
    (same : (update tree need).change = some (change, path, text)) :
    after.contentAt? (need.place catalogue tree.here) = some (.text text) :=
  reached.changed.wellFormed.contentAt?_eq_some_iff.mpr
    (reached.stored need here change path text same).text

/-- The file of a table that was not written holds what it has held. -/
theorem Reached.contentAt?_of_none (regular : catalogue.Regular) (wf : tree.WellFormed)
    (valid : ∀ need ∈ done, need.Valid) (distinct : done.Pairwise Need.Apart)
    (reached : Reached catalogue update done tree after) {need : Need} (here : need ∈ done)
    (none : (update tree need).change = none) :
    after.contentAt? (need.place catalogue tree.here) =
      tree.contentAt? (need.place catalogue tree.here) := by
  refine reached.changed.contentAt? wf fun first written same => ?_
  obtain ⟨there, some⟩ := List.mem_filter.mp written
  have apart : need.Apart first := by
    refine distinct.forall here there ?_
    rintro rfl
    rw [none] at some
    cases some
  exact apart (place_inj regular (valid need here) (valid first there) same)

/-- No other location holds anything new. -/
theorem Reached.contentAt?_elsewhere (wf : tree.WellFormed)
    (reached : Reached catalogue update done tree after) {location : Location}
    (elsewhere : ∀ need ∈ done, location ≠ need.place catalogue tree.here) :
    after.contentAt? location = tree.contentAt? location :=
  reached.changed.contentAt? wf fun need h => elsewhere need (List.mem_filter.mp h).1

/-! ## Side by side -/

/-- Where one text can be written, so can any other on a tree of the same shape. -/
theorem write_lockstep {path : Path} {text : String} (alike : Alike tree tree')
    (h : (catalogue.write path text).run tree = (.ok (), after)) (text' : String) :
    ∃ after', (catalogue.write path text').run tree' = (.ok (), after') ∧ Alike after after' :=
  (FileTree.parallel_writeFile path (catalogue.display path) text text').run_eq alike h

/-- Files can be written side by side if each is written on both sides, or is there. -/
theorem writeAll_lockstep {first second : Need → Option (FileChange × Path × String)}
    (both : ∀ need ∈ needs, ∀ change path text, first need = some (change, path, text) →
      ∃ change' text', second need = some (change', path, text'))
    (there : ∀ need ∈ needs, first need = none → ∀ change path text,
      second need = some (change, path, text) → ∃ content, tree.find path = .ok (.file content))
    (wf : tree.WellFormed) (alike : Alike tree tree')
    (h : (catalogue.writeAll (needs.filterMap first)).run tree = (.ok (), after)) :
    ∃ after', (catalogue.writeAll (needs.filterMap second)).run tree' = (.ok (), after') ∧
      Alike after after' := by
  induction needs generalizing tree tree' with
  | nil =>
    cases h
    exact ⟨tree', rfl, alike⟩
  | cons need rest ih =>
    obtain ⟨bothHere, bothLater⟩ := List.forall_mem_cons.mp both
    obtain ⟨thereHere, thereLater⟩ := List.forall_mem_cons.mp there
    rw [List.filterMap_cons] at h ⊢
    cases written : first need with
    | none =>
      rw [written] at h
      cases written' : second need with
      | none => exact ih bothLater thereLater wf alike h
      | some new =>
        obtain ⟨change, path, text⟩ := new
        -- Only the second run writes this file, which is there, so it succeeds.
        obtain ⟨content, found⟩ := thereHere written change path text written'
        obtain ⟨next, done, kept⟩ :=
          FileTree.run_writeFile_of_file wf found (catalogue.display path) text
        obtain ⟨next', done', alike'⟩ := write_lockstep alike done text
        obtain ⟨last, later, alike''⟩ := ih bothLater thereLater wf (kept.trans alike') h
        refine ⟨last, ?_, alike''⟩
        dsimp only
        rw [writeAll_cons, Action.run_bind, done']
        exact later
    | some new =>
      obtain ⟨change, path, text⟩ := new
      obtain ⟨change', text', written'⟩ := bothHere change path text written
      rw [written] at h
      dsimp only at h
      rw [writeAll_cons] at h
      obtain ⟨⟨⟩, next, done, h⟩ := Action.of_run_bind h
      -- Both write the file, with whatever texts.
      obtain ⟨next', done', alike'⟩ := write_lockstep alike done text'
      have extended := FileTree.extends_writeFile path (catalogue.display path) text tree
      unfold write at done
      rw [done] at extended
      -- A file that is there stays there.
      have later : ∀ need ∈ rest, first need = none → ∀ change path text,
          second need = some (change, path, text) →
            ∃ content, next.find path = .ok (.file content) := by
        intro need here none change path text some
        obtain ⟨content, found⟩ := thereLater need here none change path text some
        exact extended.find_file found
      obtain ⟨last, others, alike''⟩ := ih bothLater later (extended.wellFormed wf) alike' h
      refine ⟨last, ?_, alike''⟩
      rw [written']
      dsimp only
      rw [writeAll_cons, Action.run_bind, done']
      exact others

/-- A run succeeds if another does that starts on the same tree, if it writes the files that the
other one writes, and no others but files that are there. -/
theorem run_lockstep (regular : catalogue.Regular) (own : Local catalogue update)
    (own' : Local catalogue other) (valid : ∀ need ∈ needs, need.Valid)
    (distinct : needs.Pairwise Need.Apart) (wf : tree.WellFormed)
    (both : ∀ need ∈ needs, (update tree need).change ≠ none → (other tree need).change ≠ none)
    (there : ∀ need ∈ needs, (update tree need).change = none → (other tree need).change ≠ none →
      ∃ content, tree.find (need.path catalogue) = .ok (.file content))
    {outcome : Outcome} (h : (catalogue.run true update needs).run tree = (.ok outcome, after)) :
    ∃ outcome' after', (catalogue.run true other needs).run tree = (.ok outcome', after') ∧
      Alike after after' := by
  rw [run_eq_writeAll regular own' valid distinct wf]
  -- Both runs write the file of a table to one path.
  have both' : ∀ need ∈ needs, ∀ change path text,
      (update tree need).change = some (change, path, text) →
        ∃ change' text', (other tree need).change = some (change', path, text') := by
    intro need here change path text some
    obtain ⟨⟨change', path', text'⟩, some'⟩ := Option.ne_none_iff_exists'.mp
      (both need here (by rw [some]; exact nofun))
    have same := own.writes _ _ _ _ _ some
    have same' := own'.writes _ _ _ _ _ some'
    subst same same'
    exact ⟨change', text', some'⟩
  have there' : ∀ need ∈ needs, (update tree need).change = none → ∀ change path text,
      (other tree need).change = some (change, path, text) →
        ∃ content, tree.find path = .ok (.file content) := by
    intro need here none change path text some
    have same := own'.writes _ _ _ _ _ some
    subst same
    exact there need here none (by rw [some]; exact nofun)
  -- Both runs are writes of texts found before, which fail alike.
  obtain ⟨after', second, alike⟩ := writeAll_lockstep both' there' wf (.refl tree)
    (writeAll_of_run regular own valid distinct wf h)
  exact ⟨_, after', by rw [second], alike⟩

/-- A step fails if it is to write a file and cannot. -/
theorem look_eq_error_iff {need : Need} {start : Outcome} {fault : WriteFault} :
    (look catalogue true update start need).run tree = (.error fault, after) ↔
      ∃ change path text, (update tree need).change = some (change, path, text) ∧
        (catalogue.write path text).run tree = (.error fault, after) := by
  rw [run_look, run_record]
  rcases (update tree need).change with _ | ⟨change, path, text⟩
  · exact iff_of_false (fun same => by cases (Prod.mk.inj same).1) nofun
  · dsimp only
    rw [if_pos rfl]
    have single : (∃ change' path' text', some (change, path, text) = some (change', path', text') ∧
        (catalogue.write path' text').run tree = (.error fault, after)) ↔
          (catalogue.write path text).run tree = (.error fault, after) := by
      simp
    rw [single]
    rcases (catalogue.write path text).run tree with ⟨error | _, last⟩
    · constructor <;> (intro same; cases same; rfl)
    · exact iff_of_false (fun same => by cases (Prod.mk.inj same).1)
        (fun same => by cases (Prod.mk.inj same).1)

/-- Where one text cannot be written, no other can, on any tree of the same shape. -/
theorem fails_of_fails {path : Path} {text : String}
    (fails : Fails (catalogue.write path text) tree) (alike : Alike tree tree') (text' : String) :
    Fails (catalogue.write path text') tree' := by
  obtain ⟨fault, last, refused⟩ := fails
  obtain ⟨last', refused', -⟩ :=
    (FileTree.parallel_writeFile path (catalogue.display path) text text').run_eq alike refused
  exact ⟨fault, last', refused'⟩

/-- A run stops at a table whose file it cannot write. -/
theorem reached_of_fails (regular : catalogue.Regular) (own : Local catalogue update)
    {failed : Need} {rest : List Need} (valid : ∀ need ∈ done ++ failed :: rest, need.Valid)
    (distinct : (done ++ failed :: rest).Pairwise Need.Apart) (wf : tree.WellFormed)
    {outcome : Outcome} (h : (catalogue.run true update done).run tree = (.ok outcome, middle))
    {change : FileChange} {path : Path} {text : String}
    (due : (update tree failed).change = some (change, path, text))
    (fails : Fails (catalogue.write path text) middle) :
    Reached catalogue update done tree
      ((catalogue.run true update (done ++ failed :: rest)).run tree).2 := by
  have validDone (need : Need) (here : need ∈ done) := valid need (List.mem_append_left _ here)
  have validFailed := valid failed (List.mem_append_right _ List.mem_cons_self)
  obtain ⟨distinctDone, -, apart⟩ := List.pairwise_append.mp distinct
  have reached := reached_of_run regular own validDone distinctDone wf h
  obtain ⟨fault, last, refused⟩ := fails
  -- What is due to the table has not changed by the time that the run comes to it.
  have still := reached.update_eq regular wf validDone own validFailed fun first here =>
    symm (apart first here failed List.mem_cons_self)
  have stopped : (look catalogue true update outcome failed).run middle = (.error fault, last) :=
    look_eq_error_iff.mpr ⟨change, path, text, by rw [still, due], refused⟩
  -- So the run fails there, and the tables behind are not looked at.
  have whole : (catalogue.run true update (done ++ failed :: rest)).run tree =
      (.error fault, last) := by
    rw [run_eq] at h
    rw [run_eq, List.foldlM_append, Action.run_bind, h]
    dsimp only
    rw [List.foldlM_cons, Action.run_bind, stopped]
  rw [whole]
  exact reached.failed regular own validDone validFailed stopped

end Phrasebook.Catalogue
