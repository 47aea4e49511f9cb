import Phrasebook.Proofs.Reconciling
import Phrasebook.Proofs.RewrittenFiles

/-!
# Reconciling twice

A second run finds the tables as the first one has left them. It has nothing to add to a table that
is read back with the placeholders that it got, unless one of them is for the empty key: a
placeholder stands for itself, and the empty text counts as none.

- `Settled`: a table to which nothing is to be added;
- `Relapses`: a table that lacks a text again once it was completed and written;
- `Idle`: a run tells of no change and writes nothing;
- `reconcile_idle_iff`: a second run is idle if and only if no table relapses.
-/

namespace Phrasebook.Catalogue

variable {catalogue : Catalogue} {tree after : FileTree} {need : Need}

/-! ## Idle runs -/

/-- Nothing is to be added to a table: it cannot be read, or it has a text for every key. -/
def Settled (catalogue : Catalogue) (tree : FileTree) (path : Path) (required : List String) :
    Prop :=
  ∀ file kind, catalogue.openTable tree path = .ok (file, kind) →
    ∀ key ∈ required, hasText file.table key = true

/-- A run of `reconcile` succeeds, tells of no change and writes nothing. -/
def Idle (catalogue : Catalogue) (identities : List Identity) (languages : List String)
    (apply : Bool) (tree : FileTree) : Prop :=
  ∃ outcome, (catalogue.reconcile identities languages apply).run tree = (.ok outcome, tree) ∧
    outcome.changes = []

/-- Updates without a change tell of none. -/
theorem changes_foldl_add {updates : List Update} {start : Outcome}
    (none : ∀ update ∈ updates, update.change = .none) :
    (updates.foldl Outcome.add start).changes = start.changes := by
  rw [foldl_add, List.filterMap_eq_nil_iff.mpr none]
  exact List.append_nil _

theorem idle_iff_needs {identities : List Identity} {languages : List String} {apply : Bool} :
    Idle catalogue identities languages apply tree ↔
      ∀ need ∈ needs identities languages, (catalogue.reconcileTable tree need).change = none := by
  constructor
  · rintro ⟨outcome, h, none⟩
    rw [run_reconcile] at h
    cases done :
      (catalogue.run apply catalogue.reconcileTable (needs identities languages)).run tree with
    | mk result middle =>
      rw [done] at h
      cases result with
      | error fault => cases h
      | ok found =>
        cases h
        have nothing : found.changes = [] := none
        rw [run_eq] at done
        exact (unchanged_of_run nothing done).2
  · intro none
    refine ⟨_, by rw [run_reconcile, run_idle (.inr none)], ?_⟩
    refine changes_foldl_add fun update h => ?_
    obtain ⟨need, here, rfl⟩ := List.mem_map.mp h
    exact none need here

theorem change_eq_none_iff :
    (catalogue.reconcileTable tree need).change = none ↔
      Settled catalogue tree (need.path catalogue) need.keys :=
  change_reconcileTable_eq_none_iff

/-- A run is idle if and only if every table that is needed is settled. -/
theorem idle_iff {identities : List Identity} {languages : List String} {apply : Bool} :
    Idle catalogue identities languages apply tree ↔
      ∀ identity ∈ identities, ∀ language ∈ languages,
        Settled catalogue tree (catalogue.filePath identity.space language)
          (keysIn identities identity.space) := by
  rw [idle_iff_needs, ← @forall_needs_iff catalogue identities languages (Settled catalogue tree)]
  exact forall₂_congr fun need _ => change_eq_none_iff

/-! ## Written tables -/

/-- A table that lacks a text again once it was completed and written: the empty text, if the table
is read back, or every text, if an empty table is read in its place. -/
def Relapses (file : TableFile) (required : List String) : Prop :=
  file.Clear (addMissing file.table required).1 ∧ "" ∈ required ∧ hasText file.table "" = false ∨
    file.Hides (addMissing file.table required).1

/-- What is opened where a completed table was written. -/
theorem openTable_of_stored {text : String} (stored : Stored catalogue need text tree after)
    {file : TableFile} {kind : ChangeKind} :
    catalogue.openTable after (need.path catalogue) = .ok (file, kind) ↔
      TableFile.parse text = .ok file ∧ kind = .updated := by
  rw [openTable_eq, read_eq, stored.find]
  dsimp only
  cases TableFile.parse text with
  | error fault => exact iff_of_false nofun nofun
  | ok found =>
    dsimp only
    constructor
    · intro same
      cases same
      exact ⟨rfl, rfl⟩
    · rintro ⟨same, rfl⟩
      cases same
      rfl

/-- A completed table that was written is settled unless it relapses. -/
theorem settled_of_stored_iff {file : TableFile} {kind : ChangeKind} (filled : need.keys ≠ [])
    (opened : catalogue.openTable tree (need.path catalogue) = .ok (file, kind))
    (stored :
      Stored catalogue need (file.renderWith (addMissing file.table need.keys).1) tree after) :
    Settled catalogue after (need.path catalogue) need.keys ↔ ¬ Relapses file need.keys := by
  obtain ⟨lead, gap, trail, tail, framed⟩ := framed_of_openTable opened
  have completed := (completed_addMissing file.table need.keys).1
  have read {found : Table} := @TableFile.parse_renderWith_iff file
    (addMissing file.table need.keys).1 found _ _ _ _ framed
  obtain ⟨first, needed⟩ := List.exists_mem_of_ne_nil _ filled
  constructor
  · rintro settled (⟨clear, relapse⟩ | hides)
    · -- It is read back, and the empty key still lacks a text.
      obtain ⟨key, needed, empty⟩ := completed.lacks_iff.mpr relapse
      obtain ⟨other, parsed, same⟩ := read.mpr (.inl ⟨clear, rfl⟩)
      have has := settled other .updated ((openTable_of_stored stored).mpr ⟨parsed, rfl⟩) key needed
      rw [same, empty] at has
      cases has
    · -- The table hides itself: an empty table is read back, which lacks every text.
      obtain ⟨other, parsed, same⟩ := read.mpr (.inr ⟨hides, rfl⟩)
      have has :=
        settled other .updated ((openTable_of_stored stored).mpr ⟨parsed, rfl⟩) first needed
      rw [same] at has
      cases has
  · intro stays other kind' opened' key needed
    obtain ⟨parsed, -⟩ := (openTable_of_stored stored).mp opened'
    rcases read.mp ⟨other, parsed, rfl⟩ with ⟨clear, same⟩ | ⟨hides, -⟩
    · -- The completed table is read back, where only the empty key could lack a text.
      rw [same]
      by_contra empty
      exact stays (.inl ⟨clear, completed.lacks_iff.mp ⟨key, needed, by simpa using empty⟩⟩)
    · exact absurd (.inr hides) stays

/-- A needed table is settled after a run unless it was written and relapses. -/
theorem settled_after_iff (regular : catalogue.Regular) (wf : tree.WellFormed) {needs : List Need}
    (valid : ∀ need ∈ needs, need.Valid) (distinct : needs.Pairwise Need.Apart) {outcome : Outcome}
    (h : (catalogue.run true catalogue.reconcileTable needs).run tree = (.ok outcome, after))
    (here : need ∈ needs) (filled : need.keys ≠ []) :
    Settled catalogue after (need.path catalogue) need.keys ↔
      ∀ file kind, catalogue.openTable tree (need.path catalogue) = .ok (file, kind) →
        (∃ key ∈ need.keys, hasText file.table key = false) → ¬ Relapses file need.keys := by
  obtain ⟨-, changed, stored⟩ := run_apply_spec regular local_reconcileTable valid distinct wf h
  by_cases settled : Settled catalogue tree (need.path catalogue) need.keys
  · -- The table was not written, so it is opened as before.
    have same : catalogue.openTable after (need.path catalogue) =
        catalogue.openTable tree (need.path catalogue) := by
      rw [openTable_eq, openTable_eq,
        read_congr (find_of_unwritten regular wf valid distinct changed here
          (change_eq_none_iff.mpr settled))]
    refine iff_of_true (fun file kind opened => settled file kind (same ▸ opened)) ?_
    rintro file kind opened ⟨key, needed, empty⟩
    have has := settled file kind opened key needed
    rw [empty] at has
    cases has
  · -- The table was written with all its texts, so what is asked is how it reads now.
    simp only [Settled, not_forall] at settled
    obtain ⟨file, kind, opened, key, needed, empty⟩ := settled
    have lacks : ∃ key ∈ need.keys, hasText file.table key = false :=
      ⟨key, needed, by simpa using empty⟩
    rw [settled_of_stored_iff filled opened (stored_of_lacks (stored need here) opened lacks)]
    constructor
    · intro stays file' kind' opened' _
      cases opened.symm.trans opened'
      exact stays
    · intro stays
      exact stays file kind opened lacks

/-! ## The second run -/

/-- A second run, which may write or only checks, is idle if and only if the first one has left
every needed table settled. If the languages are distinct and hold no slash, so that every table has
a file of its own, this is to say that no table that lacked a text relapses. -/
theorem reconcile_idle_iff (regular : catalogue.Regular) (wf : tree.WellFormed)
    {identities : List Identity} {languages : List String}
    (spaces : ∀ identity ∈ identities, LookupCall.isValidSpace identity.space = true)
    {outcome : Outcome}
    (h : (catalogue.reconcile identities languages true).run tree = (.ok outcome, after))
    (apply : Bool) :
    (Idle catalogue identities languages apply after ↔
      ∀ identity ∈ identities, ∀ language ∈ languages,
        Settled catalogue after (catalogue.filePath identity.space language)
          (keysIn identities identity.space)) ∧
    ((∀ language ∈ languages, '/' ∉ language.toList) → languages.Nodup →
      (Idle catalogue identities languages apply after ↔
        ∀ identity ∈ identities, ∀ language ∈ languages, ∀ file kind,
          catalogue.openTable tree (catalogue.filePath identity.space language) =
              .ok (file, kind) →
            (∃ key ∈ keysIn identities identity.space, hasText file.table key = false) →
              ¬ Relapses file (keysIn identities identity.space))) := by
  refine ⟨idle_iff, fun tags distinct => ?_⟩
  rw [run_reconcile] at h
  cases ran :
    (catalogue.run true catalogue.reconcileTable (needs identities languages)).run tree with
  | mk result middle =>
    rw [ran] at h
    cases result with
    | error fault => cases h
    | ok found =>
      cases h
      -- Being idle is asked of the tables one by one, in the order in which they are needed.
      rw [idle_iff_needs, ← @forall_needs_iff catalogue identities languages fun path required =>
        ∀ file kind, catalogue.openTable tree path = .ok (file, kind) →
          (∃ key ∈ required, hasText file.table key = false) → ¬ Relapses file required]
      refine forall₂_congr fun need here => ?_
      rw [change_eq_none_iff]
      exact settled_after_iff regular wf (valid_needs spaces tags) (pairwise_needs distinct) ran
        here (keys_ne_nil_of_mem_needs here)

/-- A menu with an empty key is never up to date. -/
theorem reconcile_repeats_empty_key :
    ∃ outcome after,
      (menus.reconcile [⟨"menu", ""⟩] ["en"] true).run menuFiles = (.ok outcome, after) ∧
        ∀ apply, ¬ Idle menus [⟨"menu", ""⟩] ["en"] apply after := by
  have runs : ((menus.reconcile [⟨"menu", ""⟩] ["en"] true).run menuFiles).1.toOption.isSome =
      true := by decide +kernel
  -- The table reads back as it is written, and lacks a text for the empty key.
  have opens : ((menus.openTable menuFiles (menus.filePath "menu" "en")).toOption.any
      fun (file, _) => decide (file.Clear (addMissing file.table [""]).1) &&
        !hasText file.table "") = true := by decide +kernel
  cases done : (menus.reconcile [⟨"menu", ""⟩] ["en"] true).run menuFiles with
  | mk result after =>
    rw [done] at runs
    cases result with
    | error fault => cases runs
    | ok outcome =>
      refine ⟨outcome, after, rfl, fun apply idle => ?_⟩
      have regular : menus.Regular := ⟨by decide, by decide⟩
      have wf : menuFiles.WellFormed := by decide +kernel
      have stays := ((reconcile_idle_iff regular wf (by decide) done apply).2 (by decide)
        (by decide)).mp idle ⟨"menu", ""⟩ (by decide) "en" (by decide)
      cases opened : menus.openTable menuFiles (menus.filePath "menu" "en") with
      | error fault =>
        rw [opened] at opens
        cases opens
      | ok found =>
        obtain ⟨file, kind⟩ := found
        rw [opened] at opens
        change (decide _ && !_) = true at opens
        obtain ⟨clear, empty⟩ : file.Clear (addMissing file.table [""]).1 ∧
            hasText file.table "" = false := by simpa using opens
        exact stays file kind opened ⟨"", by decide, empty⟩ (.inl ⟨clear, by decide, empty⟩)

end Phrasebook.Catalogue
