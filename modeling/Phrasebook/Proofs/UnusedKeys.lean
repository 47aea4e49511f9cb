import Phrasebook.Proofs.Checking
import Phrasebook.Proofs.Coverage

/-!
# Keys that are not looked up

Reconciling reports the keys of its tables that no identity needs. The tables of needed namespaces
are found by their paths, one by one while files are written, and all others in the folder when this
is done. Together these are the tables that count at the start, each once.

- `Unused`: an entry of a table that counts, which no identity needs;
- `unusedIn`: such entries of one table file;
- `unused_of_needs`, `unused_orphans`: what is reported about needed tables, and about the others;
- `perm_unusedEntries`: these together are all tables that count;
- `unused_keys_reported`: the unused keys that are reported are those of all tables that count.
-/

namespace Phrasebook.Catalogue

/-- An entry of a table file. -/
structure StoredEntry where
  stored : StoredTable
  file : TableFile
  key : String
  value : String

/-- The report that the key of an entry is not looked up. -/
def StoredEntry.issue (catalogue : Catalogue) (entry : StoredEntry) : Issue :=
  .unusedKey ⟨catalogue.display entry.stored.path, (entry.file.keyLine? entry.key).getD 1, 1,
    entry.key, entry.value⟩

/-- An entry of a table file that counts, and no identity needs its key. -/
structure Unused (catalogue : Catalogue) (tree : FileTree) (languages : List String)
    (identities : List Identity) (entry : StoredEntry) : Prop where
  supported : catalogue.Supported tree languages entry.stored entry.file
  held : (entry.key, entry.value) ∈ entry.file.table.entries
  unneeded : ⟨entry.stored.space, entry.key⟩ ∉ identities

variable {catalogue : Catalogue} {tree after : FileTree} {languages : List String}
  {identities : List Identity}

/-! ## One table file -/

/-- The file of a needed table, under the name it is addressed by. -/
def Need.stored (catalogue : Catalogue) (need : Need) : StoredTable :=
  ⟨need.space, need.language, need.path catalogue⟩

/-- The entries of a table file that no identity needs. -/
def unusedIn (catalogue : Catalogue) (tree : FileTree) (identities : List Identity)
    (stored : StoredTable) : List StoredEntry :=
  match catalogue.read tree stored.path with
  | .ok (some file) =>
    (file.table.entries.filter fun (key, _) =>
      !(keysIn identities stored.space).contains key).map fun (key, value) =>
        ⟨stored, file, key, value⟩
  | _ => []

theorem mem_keysIn_iff {space key : String} :
    key ∈ keysIn identities space ↔ ⟨space, key⟩ ∈ identities := by
  unfold keysIn
  simp only [List.mem_map, List.mem_filter, decide_eq_true_eq]
  constructor
  · rintro ⟨⟨space', key'⟩, ⟨used, rfl⟩, rfl⟩
    exact used
  · intro used
    exact ⟨_, ⟨used, rfl⟩, rfl⟩

theorem mem_unusedIn_iff {stored : StoredTable} {entry : StoredEntry} :
    entry ∈ catalogue.unusedIn tree identities stored ↔
      entry.stored = stored ∧ catalogue.read tree stored.path = .ok (some entry.file) ∧
        (entry.key, entry.value) ∈ entry.file.table.entries ∧
          ⟨stored.space, entry.key⟩ ∉ identities := by
  obtain ⟨stored', file', key, value⟩ := entry
  unfold unusedIn
  split
  · rename_i file readable
    simp only [List.mem_map, List.mem_filter, Bool.not_eq_true', ← Bool.not_eq_true,
      List.contains_iff_mem, mem_keysIn_iff]
    constructor
    · rintro ⟨⟨key', value'⟩, ⟨held, unneeded⟩, same⟩
      cases same
      exact ⟨rfl, readable, held, unneeded⟩
    · rintro ⟨rfl, readable', held, unneeded⟩
      cases readable.symm.trans readable'
      exact ⟨(key, value), ⟨held, unneeded⟩, rfl⟩
  · rename_i other
    refine iff_of_false List.not_mem_nil ?_
    rintro ⟨-, readable, -⟩
    exact other file' readable

/-- The keys of a table are different. -/
theorem nodup_keys_unusedIn (stored : StoredTable) :
    ((catalogue.unusedIn tree identities stored).map StoredEntry.key).Nodup := by
  unfold unusedIn
  split
  · rename_i file readable
    rw [List.map_map]
    exact file.table.distinct.sublist (List.filter_sublist.map Prod.fst)
  · exact List.nodup_nil

/-! ## Reports -/

/-- The issues about keys that are not looked up. -/
def unusedAmong (issues : List Issue) : List Issue :=
  issues.filter fun issue => issue.rule = .unusedKey

theorem unusedAmong_unusedKeys (path : Path) (file : TableFile) (required : List String) :
    unusedAmong (catalogue.unusedKeys path file required) =
      catalogue.unusedKeys path file required := by
  refine List.filter_eq_self.mpr fun issue h => ?_
  obtain ⟨entry, -, rfl⟩ := List.mem_map.mp h
  rfl

theorem map_issue_unusedIn (stored : StoredTable) :
    (catalogue.unusedIn tree identities stored).map (StoredEntry.issue catalogue) =
      match catalogue.read tree stored.path with
      | .ok (some file) =>
        catalogue.unusedKeys stored.path file (keysIn identities stored.space)
      | _ => [] := by
  unfold unusedIn unusedKeys
  rcases catalogue.read tree stored.path with fault | _ | file
  · rfl
  · rfl
  · exact List.map_map

/-- About a needed table it is reported which of its keys are not looked up, if it was there
before. -/
theorem unused_reconcileTable {need : Need} (keys : need.keys = keysIn identities need.space) :
    unusedAmong (catalogue.reconcileTable tree need).issues =
      (catalogue.unusedIn tree identities (need.stored catalogue)).map
        (StoredEntry.issue catalogue) := by
  rw [map_issue_unusedIn]
  unfold reconcileTable Need.stored Need.path
  dsimp only
  rw [openTable_eq, keys]
  rcases catalogue.read tree (catalogue.filePath need.space need.language) with fault | _ | file
  · rfl
  · dsimp only [updateOf]
    split <;> rfl
  · dsimp only [updateOf]
    split <;> exact unusedAmong_unusedKeys _ _ _

theorem unused_of_needs :
    unusedAmong ((needs identities languages).flatMap fun need =>
        (catalogue.reconcileTable tree need).issues) =
      (((needs identities languages).map (Need.stored catalogue)).flatMap
        (catalogue.unusedIn tree identities)).map (StoredEntry.issue catalogue) := by
  unfold unusedAmong
  rw [List.filter_flatMap, List.flatMap_map, List.map_flatMap]
  exact List.flatMap_congr fun need here => unused_reconcileTable (mem_needs_iff.mp here).2

/-- About a listed table of another namespace it is reported that none of its keys is looked up. -/
theorem unused_orphans :
    unusedAmong (catalogue.orphans tree (groups identities).keys languages) =
      (((catalogue.list tree).filter fun stored =>
          !(groups identities).keys.contains stored.space &&
            languages.contains stored.language).flatMap
        (catalogue.unusedIn tree identities)).map (StoredEntry.issue catalogue) := by
  unfold orphans unusedAmong
  rw [List.filter_flatMap, List.map_flatMap]
  refine List.flatMap_congr fun stored h => ?_
  obtain ⟨listed, other⟩ := List.mem_filter.mp h
  have none : keysIn identities stored.space = [] := by
    by_contra some
    have known := mem_keys_groups_iff.mpr (keysIn_ne_nil_iff.mp some)
    simp [known] at other
  rw [map_issue_unusedIn, none, ← path_of_mem_list listed]
  rcases catalogue.read tree stored.path with fault | _ | file
  · rfl
  · rfl
  · exact unusedAmong_unusedKeys _ _ _

/-! ## All tables -/

theorem nodup_stored (distinct : languages.Nodup) :
    ((needs identities languages).map (Need.stored catalogue)).Nodup := by
  unfold List.Nodup
  rw [List.pairwise_map]
  refine (pairwise_needs distinct).imp fun apart same => apart ?_
  exact ⟨congrArg StoredTable.space same, congrArg StoredTable.language same⟩

/-- The tables that count, each with the entries that no identity needs. -/
def unusedEntries (catalogue : Catalogue) (tree : FileTree) (languages : List String)
    (identities : List Identity) : List StoredEntry :=
  ((catalogue.list tree).filter fun stored => languages.contains stored.language).flatMap
    (catalogue.unusedIn tree identities)

theorem mem_unusedEntries_iff {entry : StoredEntry} :
    entry ∈ catalogue.unusedEntries tree languages identities ↔
      Unused catalogue tree languages identities entry := by
  unfold unusedEntries
  simp only [List.mem_flatMap, List.mem_filter, List.contains_iff_mem, mem_unusedIn_iff]
  constructor
  · rintro ⟨stored, ⟨listed, known⟩, rfl, readable, held, unneeded⟩
    exact ⟨⟨listed, known, readable⟩, held, unneeded⟩
  · rintro ⟨⟨listed, known, readable⟩, held, unneeded⟩
    exact ⟨_, ⟨listed, known⟩, rfl, readable, held, unneeded⟩

theorem nodup_unusedEntries :
    ((catalogue.unusedEntries tree languages identities).map fun entry =>
      (entry.stored, entry.key)).Nodup := by
  unfold unusedEntries
  rw [List.map_flatMap, List.nodup_flatMap]
  constructor
  · intro stored _
    refine List.Nodup.of_map Prod.snd ?_
    rw [List.map_map]
    exact nodup_keys_unusedIn stored
  · refine (nodup_list.filter _).imp fun {stored stored'} apart => ?_
    intro pair here there
    obtain ⟨entry, told, rfl⟩ := List.mem_map.mp here
    obtain ⟨entry', told', same⟩ := List.mem_map.mp there
    refine apart ?_
    rw [← (mem_unusedIn_iff.mp told).1, ← (mem_unusedIn_iff.mp told').1]
    exact (congrArg Prod.fst same).symm

/-- The needed tables of which anything is told are the listed ones of needed namespaces. -/
theorem mem_stored_iff (regular : catalogue.Regular) (wf : tree.WellFormed)
    (placed : catalogue.folder.text ≠ "")
    (spaces : ∀ identity ∈ identities, LookupCall.isValidSpace identity.space = true)
    (tags : ∀ language ∈ languages,
      language ≠ "" ∧ '.' ∉ language.toList ∧ '/' ∉ language.toList)
    {stored : StoredTable} (telling : catalogue.unusedIn tree identities stored ≠ []) :
    stored ∈ (needs identities languages).map (Need.stored catalogue) ↔
      stored ∈ (catalogue.list tree).filter fun stored =>
        (groups identities).keys.contains stored.space && languages.contains stored.language := by
  rw [List.mem_map, List.mem_filter, Bool.and_eq_true, List.contains_iff_mem,
    List.contains_iff_mem, mem_keys_groups_iff]
  constructor
  · rintro ⟨need, here, rfl⟩
    obtain ⟨⟨⟨identity, used, same⟩, known⟩, -⟩ := mem_needs_iff.mp here
    obtain ⟨filled, clean, slashless⟩ := tags _ known
    have valid : Nameable need.space need.language := ⟨same ▸ spaces identity used, slashless⟩
    -- What tells anything has been read, and a table that can be read at its path is listed.
    obtain ⟨entry, told⟩ := List.exists_mem_of_ne_nil _ telling
    have listed := mem_list_of_read regular wf placed valid filled clean
      (mem_unusedIn_iff.mp told).2.1
    exact ⟨listed, ⟨identity, used, same⟩, known⟩
  · rintro ⟨listed, used, known⟩
    refine ⟨⟨stored.space, stored.language, keysIn identities stored.space⟩,
      mem_needs_iff.mpr ⟨⟨used, known⟩, rfl⟩, ?_⟩
    unfold Need.stored Need.path
    dsimp only
    rw [← path_of_mem_list listed]

/-- The needed tables and the listed ones of other namespaces tell together what all listed tables
of the languages tell. -/
theorem perm_unusedEntries (regular : catalogue.Regular) (wf : tree.WellFormed)
    (placed : catalogue.folder.text ≠ "")
    (spaces : ∀ identity ∈ identities, LookupCall.isValidSpace identity.space = true)
    (tags : ∀ language ∈ languages,
      language ≠ "" ∧ '.' ∉ language.toList ∧ '/' ∉ language.toList)
    (distinct : languages.Nodup) :
    (((needs identities languages).map (Need.stored catalogue)).flatMap
          (catalogue.unusedIn tree identities) ++
        ((catalogue.list tree).filter fun stored =>
            !(groups identities).keys.contains stored.space &&
              languages.contains stored.language).flatMap
          (catalogue.unusedIn tree identities)).Perm
      (catalogue.unusedEntries tree languages identities) := by
  have needed := flatMap_perm_of_telling (nodup_stored distinct) (nodup_list.filter _)
    fun _ telling => mem_stored_iff regular wf placed spaces tags telling
  refine (needed.append_right _).trans ?_
  unfold unusedEntries
  rw [← List.flatMap_append]
  refine List.Perm.flatMap_right _ ?_
  -- The namespace of a listed table is needed or not.
  rw [← List.filter_filter, ← List.filter_filter]
  exact List.filter_append_perm _ _

/-! ## Reconciling -/

/-- The run that writes finds the same as one that does not. -/
theorem issues_reconcile (regular : catalogue.Regular) (wf : tree.WellFormed)
    (spelled : tree.Spelled)
    (spaces : ∀ identity ∈ identities, LookupCall.isValidSpace identity.space = true)
    (tags : ∀ language ∈ languages, '.' ∉ language.toList ∧ '/' ∉ language.toList)
    (distinct : languages.Nodup) {apply : Bool} {outcome : Outcome}
    (h : (catalogue.reconcile identities languages apply).run tree = (.ok outcome, after)) :
    outcome.issues =
      ((needs identities languages).flatMap fun need =>
          (catalogue.reconcileTable tree need).issues) ++
        catalogue.orphans tree (groups identities).keys languages := by
  -- A check tells the same, and it looks at no other tree.
  have idle : ∃ left,
      (catalogue.reconcile identities languages false).run tree = (.ok outcome, left) := by
    cases apply with
    | true => exact ⟨tree, (check_predicts_reconcile regular wf spelled spaces tags distinct h).1⟩
    | false => exact ⟨after, h⟩
  obtain ⟨left, told⟩ := idle
  rw [run_reconcile, run_idle (.inl rfl), foldl_add] at told
  dsimp only at told
  rw [← Except.ok.inj (Prod.mk.inj told).1, List.flatMap_map]
  rfl

/-- The reported keys that are not looked up are the entries of all table files that counted before
the run and that no identity needs, each once, with the values that stood there. -/
theorem unused_keys_reported (regular : catalogue.Regular) (placed : catalogue.folder.text ≠ "")
    (wf : tree.WellFormed) (spelled : tree.Spelled)
    (spaces : ∀ identity ∈ identities, LookupCall.isValidSpace identity.space = true)
    (tags : ∀ language ∈ languages,
      language ≠ "" ∧ '.' ∉ language.toList ∧ '/' ∉ language.toList)
    (distinct : languages.Nodup) {apply : Bool} {outcome : Outcome}
    (h : (catalogue.reconcile identities languages apply).run tree = (.ok outcome, after)) :
    ∃ unused : List StoredEntry,
      (unused.map fun entry => (entry.stored, entry.key)).Nodup ∧
      (∀ entry, entry ∈ unused ↔ Unused catalogue tree languages identities entry) ∧
      (outcome.issues.filter fun issue => issue.rule = .unusedKey).Perm
        (unused.map (StoredEntry.issue catalogue)) := by
  refine ⟨catalogue.unusedEntries tree languages identities, nodup_unusedEntries,
    fun entry => mem_unusedEntries_iff, ?_⟩
  have told := issues_reconcile regular wf spelled spaces (fun language known => (tags language
    known).2) distinct h
  -- Issues come from the needed tables and from the others, of each of which keys are told.
  have reported : (outcome.issues.filter fun issue => issue.rule = .unusedKey) =
      unusedAmong _ ++ unusedAmong _ := (congrArg _ told).trans (List.filter_append ..)
  rw [reported, unused_of_needs, unused_orphans, ← List.map_append]
  exact (perm_unusedEntries regular wf placed spaces tags distinct).map _

/-- A menu of which one text is used, beside a table of a namespace that is not used, and one in a
language that is not supported. -/
def halfUsedFiles : FileTree where
  entries := .ofList [
    (["lang"], .folder),
    (["lang", "menu.en.ts"],
      .file (.text "default \x7b\"Open\":\"\",\"Quit\":\"Leave\"\x7d I18NTABLEEND")),
    (["lang", "menu.fr.ts"], .file (.text "default \x7b\"Back\":\"Retour\"\x7d I18NTABLEEND")),
    (["lang", "old.en.ts"], .file (.text "default \x7b\"Undo\":\"Undo it\"\x7d I18NTABLEEND"))]
  here := []

/-- The text that is filled in is not reported, and the German menu, which is new, neither. -/
theorem unused_menu_keys_reported :
    ∃ outcome after,
      (menus.reconcile [⟨"menu", "Open"⟩] ["en", "de"] true).run halfUsedFiles =
        (.ok outcome, after) ∧
      outcome.changes.map FileChange.path = ["lang/menu.en.ts", "lang/menu.de.ts"] ∧
      (outcome.issues.filter fun issue => issue.rule = .unusedKey).Perm
        [.unusedKey ⟨"lang/menu.en.ts", 1, 1, "Quit", "Leave"⟩,
          .unusedKey ⟨"lang/old.en.ts", 1, 1, "Undo", "Undo it"⟩] := by
  have runs : (fun done : Except WriteFault Outcome × FileTree =>
      done.1.toOption.map fun outcome => outcome.changes.map FileChange.path)
        ((menus.reconcile [⟨"menu", "Open"⟩] ["en", "de"] true).run halfUsedFiles) =
      some ["lang/menu.en.ts", "lang/menu.de.ts"] := by
    decide +kernel
  -- The names in the folder stand sorted, so sorting them is the identity.
  have entries : (menus.unusedEntries halfUsedFiles ["en", "de"] [⟨"menu", "Open"⟩]).map
      (StoredEntry.issue menus) =
      [.unusedKey ⟨"lang/menu.en.ts", 1, 1, "Quit", "Leave"⟩,
        .unusedKey ⟨"lang/old.en.ts", 1, 1, "Undo", "Undo it"⟩] := by
    have names : halfUsedFiles.namesIn menus.folder =
        ["menu.en.ts", "menu.fr.ts", "old.en.ts"] := by
      decide +kernel
    unfold unusedEntries
    rw [list_of_sorted names (by decide)]
    decide +kernel
  cases done : (menus.reconcile [⟨"menu", "Open"⟩] ["en", "de"] true).run halfUsedFiles with
  | mk result after =>
    rw [done] at runs
    cases result with
    | error fault => cases runs
    | ok outcome =>
      refine ⟨outcome, after, rfl, Option.some.inj runs, ?_⟩
      obtain ⟨unused, different, members, reported⟩ :=
        @unused_keys_reported menus halfUsedFiles _ _ _ ⟨by decide, by decide⟩ (by decide)
          (by decide +kernel) (by decide +kernel) (by decide) (by decide) (by decide) _ _ done
      -- Without repetition, the entries are determined by membership.
      have same : unused.Perm
          (menus.unusedEntries halfUsedFiles ["en", "de"] [⟨"menu", "Open"⟩]) :=
        (List.perm_ext_iff_of_nodup different.of_map nodup_unusedEntries.of_map).mpr
          fun entry => (members entry).trans mem_unusedEntries_iff.symm
      exact entries ▸ reported.trans (same.map _)

end Phrasebook.Catalogue
