import Mathlib.Data.List.Basic
import Mathlib.Data.List.Pairwise
import Phrasebook.Catalogue.Update
import Phrasebook.Proofs.FileActions
import Phrasebook.Proofs.TableFiles

/-!
# Runs over tables

A run looks at the tables one by one, in the tree as the tables before have left it. Since every
table has a file of its own, what it finds is what it would find in the tree at the start.

- `Local`: an update that reads and writes one table file;
- `Changed`: a tree after a run that has written the files of some tables;
- `run_idle`, `run_apply_spec`: what a run tells and writes;
- `run_eq_writeAll`: it writes the files that are due at its start, one after the other;
- `run_spec`: what a run writes even if it fails;
- `unchanged_of_run`: a run that tells of no change writes nothing;
- `find_of_unwritten`, `contentAt?_of_run`: what a run leaves as it is.
-/

namespace Phrasebook.Catalogue

/-- The path of the table that is needed. -/
def Need.path (catalogue : Catalogue) (need : Need) : Path :=
  catalogue.filePath need.space need.language

/-- The place of the table that is needed. -/
def Need.place (catalogue : Catalogue) (here : Location) (need : Need) : Location :=
  catalogue.place here need.space need.language

/-- The table can have a file. -/
def Need.Valid (need : Need) : Prop := Nameable need.space need.language

/-- Two tables differ in their namespace or their language. -/
def Need.Apart (need other : Need) : Prop :=
  ¬ (need.space = other.space ∧ need.language = other.language)

instance : Std.Symm Need.Apart := ⟨fun _ _ apart same => apart ⟨same.1.symm, same.2.symm⟩⟩

/-- An update that looks at the file of its table only, and writes no other. -/
structure Local (catalogue : Catalogue) (update : FileTree → Need → Update) : Prop where
  reads : ∀ tree other need,
    catalogue.read tree (need.path catalogue) = catalogue.read other (need.path catalogue) →
      update tree need = update other need
  writes : ∀ tree need change path text,
    (update tree need).change = some (change, path, text) → path = need.path catalogue

/-! ## Outcomes -/

/-- The outcome with an update added. -/
def Outcome.add (outcome : Outcome) (update : Update) : Outcome :=
  ⟨outcome.changes ++ (update.change.map Prod.fst).toList, outcome.issues ++ update.issues⟩

/-- An outcome tells of updates one after the other. -/
theorem foldl_add (updates : List Update) (start : Outcome) :
    updates.foldl Outcome.add start =
      ⟨start.changes ++ (updates.filterMap Update.change).map Prod.fst,
        start.issues ++ updates.flatMap Update.issues⟩ := by
  induction updates generalizing start with
  | nil => simp
  | cons update rest ih =>
    rw [List.foldl_cons, ih, Outcome.add, List.filterMap_cons, List.flatMap_cons]
    cases update.change <;> simp

variable {catalogue : Catalogue} {update : FileTree → Need → Update} {needs : List Need}
  {tree middle after : FileTree}

/-- An update is recorded; the tree changes only if its file is written. -/
theorem run_record (apply : Bool) (outcome : Outcome) (update : Update) (tree : FileTree) :
    (catalogue.record apply outcome update).run tree =
      match update.change with
      | none => (.ok (outcome.add update), tree)
      | some (_, path, text) =>
        if apply then
          match (catalogue.write path text).run tree with
          | (.ok _, after) => (.ok (outcome.add update), after)
          | (.error error, after) => (.error error, after)
        else (.ok (outcome.add update), tree) := by
  unfold record Outcome.add
  rcases update.change with _ | ⟨change, path, text⟩
  · rw [Option.map_none, Option.toList_none, List.append_nil]
    rfl
  · cases apply with
    | false => rfl
    | true =>
      show ((catalogue.write path text) >>= _).run tree = _
      rw [Action.run_bind]
      dsimp only
      rw [if_pos rfl]
      rcases (catalogue.write path text).run tree with ⟨_ | _, after⟩ <;> rfl

/-! ## Checking -/

/-- One step of a run. -/
def look (catalogue : Catalogue) (apply : Bool) (update : FileTree → Need → Update)
    (outcome : Outcome) (need : Need) : FileAction WriteFault Outcome := do
  catalogue.record apply outcome (update (← get) need)

theorem run_eq (apply : Bool) :
    catalogue.run apply update needs = needs.foldlM (look catalogue apply update) ⟨[], []⟩ := rfl

theorem run_look (apply : Bool) (outcome : Outcome) (need : Need) (tree : FileTree) :
    (look catalogue apply update outcome need).run tree =
      (catalogue.record apply outcome (update tree need)).run tree := by
  unfold look
  rw [Action.run_bind, Action.run_get]

/-- A step that writes no file always succeeds. -/
theorem run_look_idle {apply : Bool} {need : Need}
    (idle : apply = false ∨ (update tree need).change = none) (outcome : Outcome) :
    (look catalogue apply update outcome need).run tree =
      (.ok (outcome.add (update tree need)), tree) := by
  rw [run_look, run_record]
  rcases idle with rfl | none
  · rcases (update tree need).change with _ | ⟨change, path, text⟩ <;> rfl
  · rw [none]

/-- A run that writes no file always succeeds, and tells of all updates. -/
theorem run_idle {apply : Bool}
    (idle : apply = false ∨ ∀ need ∈ needs, (update tree need).change = none) :
    (catalogue.run apply update needs).run tree =
      (.ok ((needs.map (update tree)).foldl Outcome.add ⟨[], []⟩), tree) := by
  rw [run_eq]
  generalize (⟨[], []⟩ : Outcome) = start
  induction needs generalizing start with
  | nil => rfl
  | cons need rest ih =>
    have first : apply = false ∨ (update tree need).change = none :=
      idle.imp_right fun none => none need List.mem_cons_self
    have others : apply = false ∨ ∀ need ∈ rest, (update tree need).change = none :=
      idle.imp_right fun none need h => none need (List.mem_cons_of_mem _ h)
    rw [List.foldlM_cons, Action.run_bind, run_look_idle first]
    exact ih others _

/-- A run that tells of no change has found nothing to write. -/
theorem unchanged_of_run {apply : Bool} {start outcome : Outcome} (none : outcome.changes = [])
    (h : (needs.foldlM (look catalogue apply update) start).run tree = (.ok outcome, after)) :
    start.changes = [] ∧ ∀ need ∈ needs, (update tree need).change = .none := by
  induction needs generalizing tree start with
  | nil =>
    cases h
    exact ⟨none, nofun⟩
  | cons need rest ih =>
    rw [List.foldlM_cons] at h
    obtain ⟨next, middle, done, h⟩ := Action.of_run_bind h
    obtain ⟨nothing, others⟩ := ih h
    rw [run_look, run_record] at done
    cases change : (update tree need).change with
    | some new =>
      obtain ⟨change', path, text⟩ := new
      rw [change] at done
      dsimp only at done
      -- A change that is recorded is told of in the end.
      have told : next = start.add (update tree need) := by
        split at done
        · generalize (catalogue.write path text).run tree = written at done
          rcases written with ⟨_ | _, _⟩
          · cases done
          · cases done
            rfl
        · cases done
          rfl
      rw [told, Outcome.add, change] at nothing
      simp at nothing
    | none =>
      rw [change] at done
      cases done
      rw [Outcome.add, change] at nothing
      exact ⟨by simpa using nothing, List.forall_mem_cons.mpr ⟨change, others⟩⟩

/-! ## Writing -/

/-- The tree after the files of some tables were written: other entries are as they were, and new
folders stand on the way to the tables. -/
structure Changed (catalogue : Catalogue) (needs : List Need) (tree after : FileTree) : Prop where
  here : after.here = tree.here
  wellFormed : after.WellFormed
  folders : ∀ location, tree.entryAt? location = some .folder →
    after.entryAt? location = some .folder
  kept : ∀ location, (∀ need ∈ needs, location ≠ need.place catalogue tree.here) →
    after.entryAt? location = tree.entryAt? location ∨
      location <+: catalogue.folder.destination tree.here ∧ tree.entryAt? location = none ∧
        after.entryAt? location = some .folder

theorem Changed.refl (wf : tree.WellFormed) : Changed catalogue [] tree tree :=
  ⟨rfl, wf, fun _ => id, fun _ _ => .inl rfl⟩

theorem Changed.append {others : List Need} (first : Changed catalogue needs tree middle)
    (second : Changed catalogue others middle after) :
    Changed catalogue (needs ++ others) tree after := by
  refine ⟨second.here.trans first.here, second.wellFormed,
    fun location folder => second.folders _ (first.folders _ folder), fun location apart => ?_⟩
  have here := first.here
  have early := first.kept location fun need h => apart need (List.mem_append_left _ h)
  have late := second.kept location fun need h =>
    first.here ▸ apart need (List.mem_append_right _ h)
  rcases late with same | ⟨onWay, new, folder⟩
  · rw [same]
    exact early
  · rcases early with same | ⟨-, -, folder⟩
    · exact .inr ⟨here ▸ onWay, same ▸ new, by assumption⟩
    · rw [new] at folder
      cases folder

theorem changed_of_written (regular : catalogue.Regular) {need : Need} (valid : need.Valid)
    {text : String} (written : FileTree.Written (need.path catalogue) text tree after) :
    Changed catalogue [need] tree after := by
  have kept (location : Location) (apart : location ≠ need.place catalogue tree.here) := by
    have limit := congrArg List.dropLast (place_eq regular valid tree.here)
    rw [List.dropLast_concat] at limit
    exact limit ▸ written.kept location apart
  refine ⟨written.here, written.wellFormed, fun location folder => ?_, fun location apart => ?_⟩
  · have apart : location ≠ need.place catalogue tree.here := by
      rintro rfl
      exact written.free folder
    rcases kept location apart with same | ⟨-, new, -⟩
    · exact same ▸ folder
    · rw [new] at folder
      cases folder
  · exact kept location (apart need List.mem_cons_self)

/-- A tree that has only grown has no new file. -/
theorem changed_of_grown
    (grown : FileTree.Grown (catalogue.folder.destination tree.here) tree after) :
    Changed catalogue [] tree after := by
  refine ⟨grown.here, grown.wellFormed, fun location folder => ?_,
    fun location _ => grown.kept location⟩
  rcases grown.kept location with same | ⟨-, new, -⟩
  · exact same ▸ folder
  · rw [new] at folder
    cases folder

/-- A table that is apart from those that were written keeps its file. -/
theorem Changed.entryAt? (regular : catalogue.Regular)
    (changed : Changed catalogue needs tree after) (valid : ∀ need ∈ needs, need.Valid)
    {other : Need} (valid' : other.Valid)
    (apart : ∀ need ∈ needs, other.Apart need) :
    after.entryAt? (other.place catalogue tree.here) =
      tree.entryAt? (other.place catalogue tree.here) := by
  have elsewhere (need : Need) (h : need ∈ needs) :
      other.place catalogue tree.here ≠ need.place catalogue tree.here := fun same =>
    apart need h (place_inj regular valid' (valid need h) same)
  rcases changed.kept _ elsewhere with same | ⟨onWay, -, -⟩
  · exact same
  · -- The table stands in the folder, so it is not on the way to it.
    have long := onWay.length_le
    unfold Need.place at long
    rw [place_eq regular valid', List.length_append, List.length_singleton] at long
    omega

theorem Changed.find (regular : catalogue.Regular) (wf : tree.WellFormed)
    (changed : Changed catalogue needs tree after) (valid : ∀ need ∈ needs, need.Valid)
    {other : Need} (valid' : other.Valid) (apart : ∀ need ∈ needs, other.Apart need)
    {entry : Entry} :
    tree.find (other.path catalogue) = .ok entry ↔ after.find (other.path catalogue) = .ok entry :=
  FileTree.find_congr wf changed.wellFormed (direct_filePath regular valid') changed.here
    (changed.entryAt? regular valid valid' apart).symm

/-- What a location holds is kept, if it is not the place of a table. -/
theorem Changed.contentAt? (changed : Changed catalogue needs tree after) (wf : tree.WellFormed)
    {location : Location} (elsewhere : ∀ need ∈ needs, location ≠ need.place catalogue tree.here) :
    after.contentAt? location = tree.contentAt? location := by
  refine Option.ext fun content => ?_
  rw [changed.wellFormed.contentAt?_eq_some_iff, wf.contentAt?_eq_some_iff]
  rcases changed.kept location elsewhere with same | ⟨-, new, folder⟩
  · rw [same]
  · -- A folder that is new holds no text, and neither did the free place.
    rw [new, folder]
    exact iff_of_false nofun nofun

/-- What is found about a table that is apart from those that were written is found still. -/
theorem Changed.update_eq (regular : catalogue.Regular) (own : Local catalogue update)
    (wf : tree.WellFormed) (changed : Changed catalogue needs tree after)
    (valid : ∀ need ∈ needs, need.Valid) {other : Need} (valid' : other.Valid)
    (apart : ∀ need ∈ needs, other.Apart need) : update after other = update tree other :=
  own.reads _ _ _ (read_congr fun _ => (changed.find regular wf valid valid' apart).symm)

/-- The file of a table holds a text, where there was no folder before. -/
structure Stored (catalogue : Catalogue) (need : Need) (text : String) (tree after : FileTree) :
    Prop where
  located : after.locate (need.path catalogue) = .ok (need.place catalogue tree.here)
  free : tree.entryAt? (need.place catalogue tree.here) ≠ some .folder
  text : after.entryAt? (need.place catalogue tree.here) = some (.file (.text text))

theorem Stored.find {need : Need} {text : String} (stored : Stored catalogue need text tree after) :
    after.find (need.path catalogue) = .ok (.file (.text text)) :=
  FileTree.find_eq_ok_iff.mpr ⟨_, stored.located, stored.text⟩

theorem Stored.before {need : Need} {text : String} (here : middle.here = tree.here)
    (same : middle.entryAt? (need.place catalogue tree.here) =
      tree.entryAt? (need.place catalogue tree.here))
    (stored : Stored catalogue need text middle after) : Stored catalogue need text tree after :=
  ⟨here ▸ stored.located, same ▸ here ▸ stored.free, here ▸ stored.text⟩

theorem Stored.later {need : Need} {text : String} (here : middle.here = tree.here)
    (regular : catalogue.Regular) (valid : ∀ need ∈ needs, need.Valid) (valid' : need.Valid)
    (apart : ∀ other ∈ needs, need.Apart other) (stored : Stored catalogue need text tree middle)
    (changed : Changed catalogue needs middle after) : Stored catalogue need text tree after := by
  have same := changed.entryAt? regular valid valid' apart
  rw [here] at same
  exact ⟨FileTree.locate_of_folders changed.here changed.folders stored.located, stored.free,
    same.trans stored.text⟩

/-- A step of a run writes the file of its table, or leaves the tree as it is. -/
theorem run_look_spec (regular : catalogue.Regular) (own : Local catalogue update) {need : Need}
    (valid : need.Valid) (wf : tree.WellFormed) {start outcome : Outcome}
    (h : (look catalogue true update start need).run tree = (.ok outcome, after)) :
    outcome = start.add (update tree need) ∧
      Changed catalogue ([need].filter fun need => (update tree need).change.isSome) tree after ∧
        ∀ change path text, (update tree need).change = some (change, path, text) →
          Stored catalogue need text tree after := by
  cases change : (update tree need).change with
  | none =>
    rw [run_look_idle (.inr change)] at h
    cases h
    refine ⟨rfl, ?_, nofun⟩
    rw [List.filter_cons, if_neg (by simp [change])]
    exact .refl wf
  | some new =>
    obtain ⟨change', path, text⟩ := new
    -- What is due is written to the table's own path.
    have same := own.writes _ _ _ _ _ change
    subst same
    rw [run_look, run_record, change] at h
    dsimp only at h
    rw [if_pos rfl] at h
    cases done : (catalogue.write (need.path catalogue) text).run tree with
    | mk result middle =>
      rw [done] at h
      cases result with
      | error error => cases h
      | ok value =>
        cases h
        have written := FileTree.written_of_writeFile regular.direct
          (slash_notMem_fileName regular valid) (fileName_forward valid).1
          (fileName_forward valid).2 wf done
        refine ⟨rfl, ?_, fun change path text same => ?_⟩
        · rw [List.filter_cons, if_pos (by simp [change])]
          exact changed_of_written regular valid written
        · cases same
          exact ⟨written.located, written.free, written.written⟩

theorem forall_mem_singleton_filter {property : Need → Prop} {need : Need} {keep : Need → Bool}
    (h : property need) : ∀ other ∈ [need].filter keep, property other := by
  intro other filtered
  rw [List.mem_singleton.mp (List.mem_filter.mp filtered).1]
  exact h

/-- The tables that follow a step are found as they were before. -/
theorem update_of_look (regular : catalogue.Regular) (own : Local catalogue update)
    {need other : Need} (valid : need.Valid) (valid' : other.Valid) (apart : other.Apart need)
    (wf : tree.WellFormed) {start outcome : Outcome}
    (h : (look catalogue true update start need).run tree = (.ok outcome, middle)) :
    update middle other = update tree other := by
  obtain ⟨-, changed, -⟩ := run_look_spec regular own valid wf h
  exact changed.update_eq regular own wf (forall_mem_singleton_filter valid) valid'
    (forall_mem_singleton_filter apart)

/-- A run that writes its files tells of the updates of the tree at its start, writes what they say
and keeps everything else. -/
theorem run_apply_spec (regular : catalogue.Regular) (own : Local catalogue update)
    (valid : ∀ need ∈ needs, need.Valid) (distinct : needs.Pairwise Need.Apart)
    (wf : tree.WellFormed) {outcome : Outcome}
    (h : (catalogue.run true update needs).run tree = (.ok outcome, after)) :
    outcome = (needs.map (update tree)).foldl Outcome.add ⟨[], []⟩ ∧
      Changed catalogue (needs.filter fun need => (update tree need).change.isSome) tree after ∧
        ∀ need ∈ needs, ∀ change path text, (update tree need).change = some (change, path, text) →
          Stored catalogue need text tree after := by
  rw [run_eq] at h
  -- Each step adds to what was told before, so the induction is for any start.
  generalize (⟨[], []⟩ : Outcome) = start at h ⊢
  induction needs generalizing tree start with
  | nil =>
    cases h
    exact ⟨rfl, .refl wf, nofun⟩
  | cons need rest ih =>
    obtain ⟨valid, others⟩ := List.forall_mem_cons.mp valid
    obtain ⟨apart, distinct⟩ := List.pairwise_cons.mp distinct
    rw [List.foldlM_cons] at h
    obtain ⟨next, middle, done, h⟩ := Action.of_run_bind h
    obtain ⟨rfl, changed, stored⟩ := run_look_spec regular own valid wf done
    have validFirst := @forall_mem_singleton_filter Need.Valid need
      (fun need => (update tree need).change.isSome) valid
    have apartFirst (other : Need) (h : other ∈ rest) :=
      @forall_mem_singleton_filter other.Apart need
        (fun need => (update tree need).change.isSome) (symm (apart other h))
    -- The tables that follow are found as they were at the start.
    have found (other : Need) (h : other ∈ rest) : update middle other = update tree other :=
      update_of_look regular own valid (others other h) (symm (apart other h)) wf done
    obtain ⟨rfl, changed', stored'⟩ := ih others distinct changed.wellFormed _ h
    have updates : rest.map (update middle) = rest.map (update tree) :=
      List.map_congr_left found
    have written : (rest.filter fun need => (update middle need).change.isSome) =
        rest.filter fun need => (update tree need).change.isSome :=
      List.filter_congr fun other h => by rw [found other h]
    rw [written] at changed'
    refine ⟨by rw [updates]; rfl, ?_, ?_⟩
    · have whole := changed.append changed'
      rwa [← List.filter_append] at whole
    · intro other h' change path text same
      rcases List.mem_cons.mp h' with rfl | later
      · refine (stored change path text same).later changed.here regular ?_ valid ?_ changed'
        · exact fun need h => others need (List.mem_filter.mp h).1
        · exact fun need h => apart need (List.mem_filter.mp h).1
      · -- A later file is written in the middle tree, where its place is still as at the start.
        have kept := changed.entryAt? regular validFirst (others other later)
          (apartFirst other later)
        exact (stored' other later change path text (found other later ▸ same)).before
          changed.here kept

/-- Write files in turn. -/
def writeAll (catalogue : Catalogue) (files : List (FileChange × Path × String)) :
    FileAction WriteFault Unit :=
  files.forM fun (_, path, text) => catalogue.write path text

theorem writeAll_cons {change : FileChange} {path : Path} {text : String}
    {files : List (FileChange × Path × String)} :
    catalogue.writeAll ((change, path, text) :: files) =
      (catalogue.write path text >>= fun _ => catalogue.writeAll files) := rfl

/-- A run that writes does no more than to write the files that are due at its start. -/
theorem run_eq_writeAll (regular : catalogue.Regular) (own : Local catalogue update)
    (valid : ∀ need ∈ needs, need.Valid) (distinct : needs.Pairwise Need.Apart)
    (wf : tree.WellFormed) :
    (catalogue.run true update needs).run tree =
      match (catalogue.writeAll (needs.filterMap fun need => (update tree need).change)).run tree
        with
      | (.ok _, after) => (.ok ((needs.map (update tree)).foldl Outcome.add ⟨[], []⟩), after)
      | (.error fault, after) => (.error fault, after) := by
  rw [run_eq]
  generalize (⟨[], []⟩ : Outcome) = start
  induction needs generalizing tree start with
  | nil => rfl
  | cons need rest ih =>
    obtain ⟨valid, others⟩ := List.forall_mem_cons.mp valid
    obtain ⟨apart, distinct⟩ := List.pairwise_cons.mp distinct
    have step := @run_look catalogue update true start need tree
    rw [run_record] at step
    -- What is due later is due whether or not this step has been taken.
    have later {middle : FileTree} {next : Outcome}
        (done : (look catalogue true update start need).run tree = (.ok next, middle)) :
        rest.map (update middle) = rest.map (update tree) ∧
          (rest.filterMap fun need => (update middle need).change) =
            rest.filterMap fun need => (update tree need).change := by
      have found (other : Need) (h : other ∈ rest) : update middle other = update tree other :=
        update_of_look regular own valid (others other h) (symm (apart other h)) wf done
      exact ⟨List.map_congr_left found, List.filterMap_congr fun other h => by rw [found other h]⟩
    rw [List.foldlM_cons, Action.run_bind, List.filterMap_cons, List.map_cons, List.foldl_cons]
    cases change : (update tree need).change with
    | none =>
      rw [change] at step
      obtain ⟨updates, files⟩ := later step
      rw [step]
      dsimp only
      rw [ih others distinct wf]
    | some new =>
      obtain ⟨change', path, text⟩ := new
      rw [change] at step
      dsimp only at step
      rw [if_pos rfl] at step
      dsimp only
      rw [writeAll_cons, Action.run_bind]
      rcases written : (catalogue.write path text).run tree with ⟨fault | _, middle⟩
      · -- The write fails in both, with the same fault.
        rw [written] at step
        rw [step]
      · -- It succeeds, and both go on with the same tables.
        rw [written] at step
        obtain ⟨updates, files⟩ := later step
        have wf' := (run_look_spec regular own valid wf step).2.1.wellFormed
        rw [step]
        dsimp only
        rw [ih others distinct wf', updates, files]

theorem writeAll_of_run (regular : catalogue.Regular) (own : Local catalogue update)
    (valid : ∀ need ∈ needs, need.Valid) (distinct : needs.Pairwise Need.Apart)
    (wf : tree.WellFormed) {outcome : Outcome}
    (h : (catalogue.run true update needs).run tree = (.ok outcome, after)) :
    (catalogue.writeAll (needs.filterMap fun need => (update tree need).change)).run tree =
      (.ok (), after) := by
  rw [run_eq_writeAll regular own valid distinct wf] at h
  rcases written : (catalogue.writeAll
    (needs.filterMap fun need => (update tree need).change)).run tree with ⟨fault | ⟨⟩, last⟩
  · rw [written] at h
    cases h
  · rw [written] at h
    cases h
    rfl

/-- A step of a run that fails writes no file. -/
theorem changed_of_look_error (regular : catalogue.Regular) (own : Local catalogue update)
    {need : Need} (valid : need.Valid) (wf : tree.WellFormed) {start : Outcome} {fault : WriteFault}
    (h : (look catalogue true update start need).run tree = (.error fault, after)) :
    Changed catalogue [] tree after := by
  rw [run_look, run_record] at h
  cases change : (update tree need).change with
  | none =>
    rw [change] at h
    cases (Prod.mk.inj h).1
  | some new =>
    obtain ⟨change', path, text⟩ := new
    have same := own.writes _ _ _ _ _ change
    subst same
    rw [change] at h
    dsimp only at h
    rw [if_pos rfl] at h
    rcases done : (catalogue.write (need.path catalogue) text).run tree with ⟨error | _, middle⟩
    · rw [done] at h
      cases h
      exact changed_of_grown (FileTree.grown_of_writeFile regular.direct
        (slash_notMem_fileName regular valid) (fileName_forward valid).1 wf done)
    · rw [done] at h
      cases (Prod.mk.inj h).1

/-- However it ends, a run has written the files of some first tables, and these are all if it has
succeeded. -/
theorem run_spec (regular : catalogue.Regular) (own : Local catalogue update)
    (valid : ∀ need ∈ needs, need.Valid) (distinct : needs.Pairwise Need.Apart)
    (wf : tree.WellFormed) {result : Except WriteFault Outcome}
    (h : (catalogue.run true update needs).run tree = (result, after)) :
    ∃ done rest, needs = done ++ rest ∧ (rest = [] ∨ ∃ fault, result = .error fault) ∧
      Changed catalogue (done.filter fun need => (update tree need).change.isSome) tree after ∧
        ∀ need ∈ done, ∀ change path text, (update tree need).change = some (change, path, text) →
          Stored catalogue need text tree after := by
  cases result with
  | ok outcome =>
    obtain ⟨-, changed, stored⟩ := run_apply_spec regular own valid distinct wf h
    exact ⟨needs, [], (List.append_nil _).symm, .inl rfl, changed, stored⟩
  | error fault =>
    rw [run_eq] at h
    -- A run that fails has come to the tables in front of the one at which it fails.
    obtain ⟨done, failed, rest, value, middle, rfl, succeeded, refused⟩ :=
      Action.of_run_foldlM_error h
    have validFirst (need : Need) (here : need ∈ done) := valid need (List.mem_append_left _ here)
    rw [← run_eq] at succeeded
    obtain ⟨-, changed, stored⟩ := run_apply_spec regular own validFirst
      (List.pairwise_append.mp distinct).1 wf succeeded
    have grown := changed_of_look_error regular own
      (valid failed (List.mem_append_right _ List.mem_cons_self)) changed.wellFormed refused
    refine ⟨done, failed :: rest, rfl, .inr ⟨fault, rfl⟩, ?_,
      fun need here change path text same => ?_⟩
    · -- Folders that the failed write has made change no file.
      have whole := changed.append grown
      rwa [List.append_nil] at whole
    · exact (stored need here change path text same).later changed.here regular
        (List.forall_mem_nil _) (validFirst need here) (List.forall_mem_nil _) grown

/-- A table that is not to be written is found as it was after a run that writes. -/
theorem find_of_unwritten (regular : catalogue.Regular) (wf : tree.WellFormed)
    (valid : ∀ need ∈ needs, need.Valid) (distinct : needs.Pairwise Need.Apart)
    (changed : Changed catalogue (needs.filter fun need => (update tree need).change.isSome) tree
      after)
    {need : Need} (here : need ∈ needs) (none : (update tree need).change = none) (entry : Entry) :
    after.find (need.path catalogue) = .ok entry ↔ tree.find (need.path catalogue) = .ok entry := by
  refine (changed.find regular wf ?_ (valid need here) fun other h => ?_).symm
  · exact fun other h => valid other (List.mem_filter.mp h).1
  · obtain ⟨there, written⟩ := List.mem_filter.mp h
    refine distinct.forall here there ?_
    rintro rfl
    rw [none] at written
    cases written

/-- A run that writes keeps what a location holds if no path of a table leads there. -/
theorem contentAt?_of_run (regular : catalogue.Regular) (own : Local catalogue update)
    (valid : ∀ need ∈ needs, need.Valid) (distinct : needs.Pairwise Need.Apart)
    (wf : tree.WellFormed) {result : Except WriteFault Outcome}
    (h : (catalogue.run true update needs).run tree = (result, after)) {location : Location}
    (unneeded : ∀ need ∈ needs, after.locate (need.path catalogue) ≠ .ok location) :
    after.contentAt? location = tree.contentAt? location := by
  obtain ⟨done, rest, rfl, -, changed, stored⟩ := run_spec regular own valid distinct wf h
  -- A file that is written stands where its path leads after the run.
  have elsewhere : ∀ need ∈ done.filter fun need => (update tree need).change.isSome,
      location ≠ need.place catalogue tree.here := by
    intro need written there
    obtain ⟨here, written⟩ := List.mem_filter.mp written
    obtain ⟨⟨change, path, text⟩, same⟩ := Option.isSome_iff_exists.mp written
    exact unneeded need (List.mem_append_left _ here)
      (there ▸ (stored need here change path text same).located)
  exact changed.contentAt? wf elsewhere

end Phrasebook.Catalogue
