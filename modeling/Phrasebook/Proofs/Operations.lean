import Phrasebook.Proofs.Contents
import Phrasebook.Proofs.Filling
import Phrasebook.Proofs.MarkedTexts

/-!
# Tables after any runs

Runs of `reconcile` and `fill` read the tables that earlier runs have written. What they write is
composed of texts that were in the tables before or were handed to one of the runs, so a file that
they leave can be read unless a mark of a table file stands in such a text.

- `Operation`, `performAll`: runs that write tables, one after the other;
- `Composed`: a file that is put together from known texts;
- `Known`: the texts of the tables and those that are handed to the runs;
- `runs_keep_tables_readable`: after any runs a file is what it was, or composed of known texts,
  and then it is read unless a mark is in the way.
-/

namespace Phrasebook

/-- The text is read as a table file. -/
def TableFile.Readable (text : String) : Prop := ∃ file, parse text = .ok file

namespace Catalogue

/-! ## Composed files -/

/-- A file with a table in it all of whose keys and values are known. -/
def Composed (known : String → Prop) (text : String) : Prop :=
  ∃ file table, (∃ lead gap trail tail, TableFile.Framed file lead gap trail tail) ∧
    (∀ entry ∈ OrderedMap.entries table, known entry.1 ∧ known entry.2) ∧
      text = file.renderWith table

/-- A key or a value of a table in the tree. -/
def InTables (tree : FileTree) (text : String) : Prop :=
  ∃ location value file, tree.contentAt? location = some (.text value) ∧
    TableFile.parse value = .ok file ∧
      ∃ entry ∈ file.table.entries, text = entry.1 ∨ text = entry.2

variable {catalogue : Catalogue} {known : String → Prop} {tree after : FileTree} {need : Need}

/-- A composed file is read unless a mark in one of its texts is in the way. -/
theorem readable_iff {file : TableFile} {table : Table}
    (framed : ∃ lead gap trail tail, file.Framed lead gap trail tail) :
    TableFile.Readable (file.renderWith table) ↔ file.Clear table ∨ file.Hides table := by
  obtain ⟨lead, gap, trail, tail, framed⟩ := framed
  constructor
  · rintro ⟨other, parsed⟩
    exact ((TableFile.parse_renderWith_iff framed).mp ⟨other, parsed, rfl⟩).imp And.left And.left
  · intro open'
    obtain ⟨other, parsed, -⟩ : ∃ other, TableFile.parse (file.renderWith table) = .ok other ∧
        (other.table = table ∨ other.table = .empty) := by
      rcases open' with clear | hides
      · obtain ⟨other, parsed, same⟩ :=
          (TableFile.parse_renderWith_iff framed).mpr (.inl ⟨clear, rfl⟩)
        exact ⟨other, parsed, .inl same⟩
      · obtain ⟨other, parsed, same⟩ :=
          (TableFile.parse_renderWith_iff framed).mpr (.inr ⟨hides, rfl⟩)
        exact ⟨other, parsed, .inr same⟩
    exact ⟨other, parsed⟩

/-- What is read from a composed file is known. -/
theorem Composed.known_of_parse {text : String} {file : TableFile} (h : Composed known text)
    (parsed : TableFile.parse text = .ok file) :
    ∀ entry ∈ file.table.entries, known entry.1 ∧ known entry.2 := by
  obtain ⟨source, table, ⟨lead, gap, trail, tail, framed⟩, all, rfl⟩ := h
  intro entry here
  rcases (TableFile.parse_renderWith_iff framed).mp ⟨file, parsed, rfl⟩ with
    ⟨-, same⟩ | ⟨-, empty⟩
  · exact all entry (same ▸ here)
  · rw [empty] at here
    cases here

/-- As long as only composed files are written, all texts in tables are known. -/
theorem known_of_rewritten (before : ∀ text, InTables tree text → known text)
    (h : FileTree.Rewritten (Composed known) tree after) :
    ∀ text, InTables after text → known text := by
  rintro text ⟨location, value, file, held, parsed, entry, here, same⟩
  rcases h location with kept | ⟨value', composed, written⟩
  · exact before text ⟨location, value, file, kept ▸ held, parsed, entry, here, same⟩
  · rw [held] at written
    cases written
    have both := composed.known_of_parse parsed entry here
    rcases same with rfl | rfl
    · exact both.1
    · exact both.2

/-- If all texts in tables are known, only files composed of known texts are written. -/
def Composes (known : String → Prop) (tree after : FileTree) : Prop :=
  (∀ text, InTables tree text → known text) → FileTree.Rewritten (Composed known) tree after

instance : Std.Refl (Composes known) := ⟨fun tree _ => Std.Refl.refl tree⟩

instance : Trans (Composes known) (Composes known) (Composes known) where
  trans first second before :=
    (first before).trans (second (known_of_rewritten before (first before)))

/-! ## Completed and filled tables -/

/-- The texts of a table that is opened are texts of the tree. -/
theorem known_of_openTable (before : ∀ text, InTables tree text → known text) {path : Path}
    {file : TableFile} {kind : ChangeKind}
    (opened : catalogue.openTable tree path = .ok (file, kind)) :
    ∀ entry ∈ file.table.entries, known entry.1 ∧ known entry.2 := by
  intro entry here
  rcases read_of_openTable opened with found | ⟨-, rfl⟩
  · obtain ⟨text, found, parsed⟩ := parse_of_read found
    obtain ⟨location, -, present⟩ := FileTree.find_eq_ok_iff.mp found
    have held := FileTree.contentAt?_of_file present
    exact ⟨before _ ⟨location, text, file, held, parsed, entry, here, .inl rfl⟩,
      before _ ⟨location, text, file, held, parsed, entry, here, .inr rfl⟩⟩
  · cases here

/-- A text becomes a translation or stays as it is. -/
theorem known_textOf {options : FillOptions} {identity : Identity} {language current : String}
    (texts : ∀ text ∈ options.translations.entries.map Prod.snd, known text)
    (before : known current) : known (options.textOf identity language current) := by
  cases found : options.translations.get? (identity, language) with
  | none =>
    rw [FillOptions.textOf_of_none found]
    exact before
  | some value =>
    rw [FillOptions.textOf_of_some found]
    split
    · exact texts value (List.mem_map.mpr ⟨_, OrderedMap.mem_entries_iff.mpr found, rfl⟩)
    · exact before

theorem Filled.all_known {options : FillOptions} {table filled : Table}
    (h : Filled options need table filled)
    (before : ∀ entry ∈ table.entries, known entry.1 ∧ known entry.2)
    (keys : ∀ key ∈ need.keys, known key)
    (texts : ∀ text ∈ options.translations.entries.map Prod.snd, known text) :
    ∀ entry ∈ filled.entries, known entry.1 ∧ known entry.2 := by
  rintro ⟨key, value⟩ here
  have found := OrderedMap.mem_entries_iff.mp here
  by_cases needed : key ∈ need.keys
  · refine ⟨keys key needed, ?_⟩
    cases has : hasText table key with
    | false =>
      rw [h.empty key needed has] at found
      cases found
      exact known_textOf texts (keys key needed)
    | true =>
      obtain ⟨old, present, some⟩ := hasText_iff.mp has
      rw [h.text key needed old present some] at found
      cases found
      exact known_textOf texts (before (key, old) (OrderedMap.mem_entries_iff.mpr present)).2
  · rw [h.others key needed] at found
    exact before (key, value) (OrderedMap.mem_entries_iff.mpr found)

/-! ## Runs -/

/-- A run composes its files if each of its updates does. -/
theorem leads_run {update : FileTree → Need → Update} {needs : List Need}
    (composed : ∀ tree, (∀ text, InTables tree text → known text) → ∀ need ∈ needs,
      ∀ change path text, (update tree need).change = some (change, path, text) →
        Composed known text) :
    Action.Leads (Composes known) (catalogue.run true update needs) := by
  rw [run_eq]
  refine .foldlM (fun outcome need here => ?_) _
  intro tree before
  rw [run_look, run_record]
  cases change : (update tree need).change with
  | none => exact Std.Refl.refl tree
  | some new =>
    obtain ⟨change', path, text⟩ := new
    have written := @FileTree.rewrites_writeFile _ path (catalogue.display path) text
      (composed tree before need here change' path text change) tree
    unfold write
    dsimp only
    rw [if_pos rfl]
    rcases done : (writeFile path (catalogue.display path) text).run tree with ⟨_ | _, after⟩
    · rwa [done] at written
    · rwa [done] at written

theorem leads_reconcile {identities : List Identity} {languages : List String}
    (keys : ∀ key ∈ identities.map Identity.key, known key) :
    Action.Leads (Composes known) (catalogue.reconcile identities languages true) := by
  unfold reconcile
  refine .bind (leads_run fun tree before need here change path text changed => ?_) fun outcome =>
    .bind .get fun tree => .pure _
  obtain ⟨file, kind, opened, -, rfl⟩ := change_reconcileTable_eq_some changed
  exact ⟨file, _, framed_of_openTable opened,
    (completed_addMissing file.table need.keys).1.all_known (known_of_openTable before opened)
      (known_of_mem_needs (List.forall_mem_map.mp keys) here), rfl⟩

theorem leads_fill {identities : List Identity} {languages : List String} {options : FillOptions}
    (keys : ∀ key ∈ identities.map Identity.key, known key)
    (texts : ∀ text ∈ options.translations.entries.map Prod.snd, known text) :
    Action.Leads (Composes known) (catalogue.fill identities languages options true) := by
  unfold fill
  refine leads_run fun tree before need here change path text changed => ?_
  obtain ⟨file, kind, opened, -, rfl⟩ := change_fillTable_eq_some changed
  exact ⟨file, _, framed_of_openTable opened,
    (filled_filledTable options need file.table).all_known (known_of_openTable before opened)
      (known_of_mem_needs (List.forall_mem_map.mp keys) here) texts, rfl⟩

/-! ## Runs in turn -/

/-- A run over the tables of a catalogue that writes them. -/
inductive Operation where
  | reconcile (identities : List Identity) (languages : List String)
  | fill (identities : List Identity) (languages : List String) (options : FillOptions)

/-- What a run does. -/
def Operation.perform (catalogue : Catalogue) : Operation → FileAction WriteFault Outcome
  | .reconcile identities languages => catalogue.reconcile identities languages true
  | .fill identities languages options => catalogue.fill identities languages options true

/-- The texts that a run is handed: the keys that it requires, and translations. -/
def Operation.texts : Operation → List String
  | .reconcile identities _ => identities.map Identity.key
  | .fill identities _ options =>
    identities.map Identity.key ++ options.translations.entries.map Prod.snd

/-- The tree after some runs, each on what the one before it has left, be it done or failed. -/
def performAll (catalogue : Catalogue) (operations : List Operation) (tree : FileTree) : FileTree :=
  operations.foldl (fun tree operation => ((operation.perform catalogue).run tree).2) tree

/-- The texts of the tables in a tree, and those that are handed to some runs. -/
def Known (operations : List Operation) (tree : FileTree) (text : String) : Prop :=
  (∃ operation ∈ operations, text ∈ operation.texts) ∨ InTables tree text

theorem leads_perform {operation : Operation} (handed : ∀ text ∈ operation.texts, known text) :
    Action.Leads (Composes known) (operation.perform catalogue) := by
  cases operation with
  | reconcile identities languages => exact leads_reconcile handed
  | fill identities languages options =>
    exact leads_fill (fun key here => handed key (List.mem_append_left _ here))
      fun text here => handed text (List.mem_append_right _ here)

theorem composes_performAll {operations : List Operation}
    (handed : ∀ operation ∈ operations, ∀ text ∈ operation.texts, known text) :
    Composes known tree (performAll catalogue operations tree) := by
  induction operations generalizing tree with
  | nil => exact Std.Refl.refl tree
  | cons operation rest ih =>
    obtain ⟨first, later⟩ := List.forall_mem_cons.mp handed
    exact Trans.trans (leads_perform first tree) (ih later)

/-- After any runs, a file holds what it held, or a table composed of known texts: this is read
unless a mark in it is in the way. So if no known text holds a mark, every file that is new or
changed is read, and a table that is found malformed was so from the start. -/
theorem runs_keep_tables_readable (catalogue : Catalogue) (operations : List Operation)
    (tree : FileTree) :
    (∀ location,
      (performAll catalogue operations tree).contentAt? location = tree.contentAt? location ∨
      ∃ file table, (∃ lead gap trail tail, TableFile.Framed file lead gap trail tail) ∧
        (∀ entry ∈ OrderedMap.entries table,
          Known operations tree entry.1 ∧ Known operations tree entry.2) ∧
        (performAll catalogue operations tree).contentAt? location =
          some (.text (file.renderWith table)) ∧
        (TableFile.Readable (file.renderWith table) ↔ file.Clear table ∨ file.Hides table)) ∧
    ((∀ text, Known operations tree text → TableFile.Unmarked text) →
      (∀ location,
        (performAll catalogue operations tree).contentAt? location = tree.contentAt? location ∨
        ∃ text, (performAll catalogue operations tree).contentAt? location = some (.text text) ∧
          TableFile.Readable text) ∧
      ∀ path fault,
        catalogue.read (performAll catalogue operations tree) path = .error (.malformed fault) →
          ∃ location text, tree.contentAt? location = some (.text text) ∧
            TableFile.parse text = .error fault) := by
  -- Each file is what it was or was composed by a run, of known texts.
  have rewritten := @composes_performAll catalogue (Known operations tree) tree operations
    (fun operation here text handed => .inl ⟨operation, here, handed⟩) fun text old => .inr old
  refine ⟨fun location => ?_, fun unmarked => ?_⟩
  · rcases rewritten location with same | ⟨_, ⟨file, table, framed, all, rfl⟩, written⟩
    · exact .inl same
    · exact .inr ⟨file, table, framed, all, written, readable_iff framed⟩
  · have readable (location : Location) :
        (performAll catalogue operations tree).contentAt? location = tree.contentAt? location ∨
        ∃ text, (performAll catalogue operations tree).contentAt? location = some (.text text) ∧
          TableFile.Readable text := by
      rcases rewritten location with same | ⟨_, ⟨file, table, framed, all, rfl⟩, written⟩
      · exact .inl same
      · have clear := TableFile.clear_of_unmarked (fun entry here =>
          ⟨unmarked _ (all entry here).1, unmarked _ (all entry here).2⟩) file
        exact .inr ⟨_, written, (readable_iff framed).mpr (.inl clear)⟩
    refine ⟨readable, fun path fault malformed => ?_⟩
    obtain ⟨text, found, parsed⟩ := parse_of_malformed malformed
    obtain ⟨location, -, present⟩ := FileTree.find_eq_ok_iff.mp found
    have held := FileTree.contentAt?_of_file present
    rcases readable location with same | ⟨text', held', file, accepted⟩
    · exact ⟨location, text, same ▸ held, parsed⟩
    · -- A file that was written would be read.
      rw [held] at held'
      cases held'
      rw [accepted] at parsed
      cases parsed

/-- Two runs that are handed ordinary keys and an ordinary translation. -/
def menuRuns : List Operation :=
  [.reconcile [⟨"menu", "Open"⟩, ⟨"menu", "Quit"⟩] ["en", "de"],
    .fill [⟨"menu", "Open"⟩] ["de"]
      ⟨.ofList [((⟨"menu", "Open"⟩, "de"), "Auf")], [], some "en"⟩]

/-- A key that is a mark spoils the menu; ordinary keys and translations do not. -/
theorem menus_spoiled_by_mark :
    (∃ text, (performAll menus [.reconcile [⟨"menu", "I18NTABLEEND"⟩] ["en"]] menuFiles).contentAt?
        ["lang", "menu.en.ts"] = some (.text text) ∧ ¬ TableFile.Readable text) ∧
    ∀ location,
      (performAll menus menuRuns menuFiles).contentAt? location = menuFiles.contentAt? location ∨
      ∃ text, (performAll menus menuRuns menuFiles).contentAt? location = some (.text text) ∧
        TableFile.Readable text := by
  constructor
  · have spoiled : ((performAll menus [.reconcile [⟨"menu", "I18NTABLEEND"⟩] ["en"]]
        menuFiles).contentAt? ["lang", "menu.en.ts"]).any (fun content =>
          match content with
          | .text text => (TableFile.parse text).toOption.isNone
          | .bytes _ => false) = true := by decide +kernel
    obtain ⟨content, held, unread⟩ := (Option.any_eq_true _ _).mp spoiled
    cases content with
    | bytes value => cases unread
    | text text =>
      refine ⟨text, held, fun ⟨file, parsed⟩ => ?_⟩
      dsimp only at unread
      rw [parsed] at unread
      cases unread
  · have read : (TableFile.parse
        "default \x7b\"Open\":\"Open it\",\"Quit\":\"\"\x7d I18NTABLEEND").toOption.any
          (fun file => decide (∀ entry ∈ file.table.entries,
            TableFile.Unmarked entry.1 ∧ TableFile.Unmarked entry.2)) = true := by decide +kernel
    refine ((runs_keep_tables_readable menus menuRuns menuFiles).2 ?_).1
    rintro text
      (⟨operation, here, handed⟩ | ⟨location, value, file, held, parsed, entry, here, same⟩)
    · have unmarked :
          ∀ operation ∈ menuRuns, ∀ text ∈ operation.texts, TableFile.Unmarked text := by
        decide +kernel
      exact unmarked operation here text handed
    · -- The only text in the tree is the menu.
      have file_eq : ∀ pair ∈ menuFiles.entries.entries, pair.2 = .folder ∨ pair.2 = .file (.text
          "default \x7b\"Open\":\"Open it\",\"Quit\":\"\"\x7d I18NTABLEEND") := by decide +kernel
      have present : menuFiles.entries.get? location = some (.file (.text value)) := by
        unfold FileTree.contentAt? at held
        split at held
        · cases held
          assumption
        · cases held
      rcases file_eq _ (OrderedMap.mem_entries_iff.mpr present) with folder | text
      · cases folder
      · cases text
        rw [parsed] at read
        have all := of_decide_eq_true (show decide (∀ entry ∈ file.table.entries,
          TableFile.Unmarked entry.1 ∧ TableFile.Unmarked entry.2) = true from read)
        rcases same with rfl | rfl
        · exact (all entry here).1
        · exact (all entry here).2

end Catalogue

end Phrasebook
