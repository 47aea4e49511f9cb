import Phrasebook.Proofs.Listing
import Phrasebook.Proofs.Projects
import Phrasebook.Proofs.Reconciling
import Phrasebook.Proofs.Recording

/-!
# Tables under the names they are addressed by

The file of a table is named after a namespace and a language, and the name is read back when tables
are listed. Namespaces are checked before they name a file. Languages are not, and a language with a
slash or a dot, or without a character, names a file that is not listed as its own.

- `Addressable`: what a program may address, whatever the language;
- `Path.Inside`, `inside_iff`: which files stand directly inside the folder;
- `filter_list_eq`: what the list says about one file;
- `listed_as_addressed_iff`: which tables are listed under the name they are addressed by.
-/

namespace Phrasebook

open Source

/-- The path of something directly inside a folder: one step further. -/
def Path.Inside (path folder : Path) : Prop :=
  ∃ name, Path.IsStep name ∧ path.steps = folder.steps ++ [name.toList] ∧
    path.isAbsolute = folder.isAbsolute

/-! ## What is addressed -/

/-- A namespace that a lookup names in some program, and a language that some constructor names. -/
def Addressable (space language : String) : Prop :=
  (∃ program file callee arguments lookup,
    LookupCall.classify program file callee arguments = some (.ok lookup) ∧
      lookup.identity.space = space) ∧
  ∃ arguments languages, Extraction.languagesOf arguments = .ok languages ∧ language ∈ languages

/-- A program with a method that looks keys up in a namespace. -/
def spacedLookup : Program :=
  ⟨#[], #[⟨"text", .member, 0, "I18NNSLOCTEXTSYMBOL", some .namespacedLookup, none⟩], []⟩

/-- A namespace has to be fit to name a file; any text is a language. -/
theorem addressable_iff {space language : String} :
    Addressable space language ↔ LookupCall.isValidSpace space = true := by
  constructor
  · rintro ⟨⟨program, file, callee, arguments, lookup, classified, rfl⟩, -⟩
    exact (LookupCall.ok_of_classify classified).2
  · intro valid
    refine ⟨⟨spacedLookup, 0, .member (.group []) (some "text"),
      [.text 0 0 (.ofString space), .text 0 0 (.ofString "")], ⟨⟨space, ""⟩, 0, 0⟩, ?_, rfl⟩, ?_⟩
    · have marked : spacedLookup.calleeMarker? 0 (.member (.group []) (some "text")) =
          some .namespacedLookup := by decide
      simp [LookupCall.classify, marked, LookupCall.ofSpacedArguments, LookupCall.literal,
        Literal.text?, Literal.ofString, valid, bind, Except.bind, pure, Except.pure]
    · refine ⟨[.array [.text 0 0 (.ofString language)]], [language], ?_, List.mem_singleton_self _⟩
      rfl

namespace Catalogue

variable {catalogue : Catalogue} {tree : FileTree} {space language : String}

/-! ## Inside the folder -/

theorem isAbsolute_fileName (valid : LookupCall.isValidSpace space = true) :
    (Path.mk (catalogue.fileName space language)).isAbsolute = false := by
  obtain ⟨some, clean⟩ := isValidSpace_iff.mp valid
  obtain ⟨c, rest, written⟩ := List.exists_cons_of_ne_nil some
  have first : c ≠ '/' := (clean c (written ▸ List.mem_cons_self)).2.1
  unfold Path.isAbsolute
  rw [toList_fileName, written]
  simp [first]

/-- With a slash in its language the name of a file is cut in two steps at least. -/
theorem two_le_steps_fileName (regular : catalogue.Regular)
    (filled : ∃ c ∈ catalogue.extension.toList, c ≠ '.')
    (valid : LookupCall.isValidSpace space = true) (slash : '/' ∈ language.toList) :
    2 ≤ (Path.mk (catalogue.fileName space language)).steps.length := by
  obtain ⟨front, back, cut, clean⟩ := List.eq_append_cons_of_mem slash
  have written : (catalogue.fileName space language).toList =
      (space.toList ++ '.' :: front) ++ '/' :: (back ++ '.' :: catalogue.extension.toList) := by
    rw [toList_fileName, cut]
    simp
  obtain ⟨c, inExtension, other⟩ := filled
  -- The last step holds a character of the extension, the first one those of the namespace.
  obtain ⟨last, among, here⟩ := Path.exists_mem_pieces
    (List.mem_append_right back (List.mem_cons_of_mem '.' inExtension))
    (fun same => regular.extension (same ▸ inExtension))
  have lastSaid : Path.isBlank last = false := by
    rw [Bool.eq_false_iff]
    intro blank
    simp only [Path.isBlank, Bool.or_eq_true, List.isEmpty_iff, beq_iff_eq] at blank
    rcases blank with rfl | rfl
    · cases here
    · exact other (List.mem_singleton.mp here)
  obtain ⟨some, letters⟩ := isValidSpace_iff.mp valid
  obtain ⟨first, rest, spaceWritten⟩ := List.exists_cons_of_ne_nil some
  have firstSaid : Path.isBlank (space.toList ++ '.' :: front) = false := by
    rw [spaceWritten]
    simp [Path.isBlank, (letters first (spaceWritten ▸ List.mem_cons_self)).1]
  have slashless : '/' ∉ space.toList ++ '.' :: front := by
    intro inFront
    rcases List.mem_append.mp inFront with inSpace | later
    · exact (letters _ inSpace).2.1 rfl
    · exact clean ((List.mem_cons.mp later).resolve_left (by decide))
  have alone : (Path.pieces (space.toList ++ '.' :: front)).filter
      (fun piece => !Path.isBlank piece) = [space.toList ++ '.' :: front] := by
    rw [Path.pieces_of_clean slashless]
    simp [firstSaid]
  have more : 0 < ((Path.pieces (back ++ '.' :: catalogue.extension.toList)).filter
      fun piece => !Path.isBlank piece).length :=
    List.length_pos_of_mem (List.mem_filter.mpr ⟨among, by simp [lastSaid]⟩)
  unfold Path.steps
  rw [written, Path.pieces_append_slash, List.filter_append, alone, List.length_append,
    List.length_singleton]
  omega

/-- The file of a table stands directly inside the folder exactly if its language holds no slash. -/
theorem inside_iff (regular : catalogue.Regular)
    (filled : ∃ c ∈ catalogue.extension.toList, c ≠ '.')
    (valid : LookupCall.isValidSpace space = true) :
    (catalogue.filePath space language).Inside catalogue.folder ↔ '/' ∉ language.toList := by
  constructor
  · rintro ⟨name, -, one, -⟩ slash
    have relative : (Path.mk (catalogue.fileName space language)).isAbsolute = false :=
      isAbsolute_fileName valid
    have steps : (catalogue.filePath space language).steps = _ :=
      (Path.steps_join_relative relative).1
    have many := two_le_steps_fileName regular filled valid slash
    rw [List.append_cancel_left (steps.symm.trans one)] at many
    simp at many
  · intro clean
    have slashless := slash_notMem_fileName regular ⟨valid, clean⟩
    have forward := @fileName_forward catalogue _ _ ⟨valid, clean⟩
    exact ⟨_, ⟨slashless, forward⟩, Path.steps_join slashless forward.1⟩

/-! ## The list -/

/-- Among the values of some distinct items those of one of them are its own. -/
theorem filter_filterMap_eq {α β : Type} [DecidableEq α] {items : List α} {value? : α → Option β}
    {wanted : β → Bool} {target : α} (distinct : items.Nodup)
    (own : ∀ item ∈ items, ∀ value ∈ value? item, wanted value = true ↔ item = target) :
    (items.filterMap value?).filter wanted =
      if target ∈ items then (value? target).toList else [] := by
  induction items with
  | nil => rfl
  | cons item rest ih =>
    obtain ⟨fresh, distinct⟩ := List.nodup_cons.mp distinct
    have later := ih distinct fun item among => own item (List.mem_cons_of_mem _ among)
    have here := own item List.mem_cons_self
    by_cases same : item = target
    · -- The item that is wanted: no other one is, so it comes alone.
      subst same
      rw [if_neg fresh] at later
      rw [if_pos List.mem_cons_self, List.filterMap_cons]
      cases found : value? item with
      | none => exact later
      | some value =>
        dsimp only
        rw [List.filter_cons_of_pos ((here value found).mpr rfl), later]
        rfl
    · have others : (target ∈ item :: rest) ↔ target ∈ rest := by simp [Ne.symm same]
      rw [if_congr others rfl rfl, ← later, List.filterMap_cons]
      cases found : value? item with
      | none => rfl
      | some value =>
        exact List.filter_cons_of_neg fun wanted => same ((here value found).mp wanted)

/-- What the list says about the file of a name: what the name tells, if it stands in the folder. -/
theorem filter_list_eq (wf : tree.WellFormed) (spelled : tree.Spelled) {name : String}
    (relative : (Path.mk name).isAbsolute = false) :
    (catalogue.list tree).filter (fun stored => stored.path = catalogue.folder.join name) =
      if name ∈ tree.namesIn catalogue.folder then (catalogue.stored? tree name).toList
      else [] := by
  rw [list_eq]
  refine (filter_filterMap_eq (List.nodup_mergeSort.mpr (tree.nodup_namesIn catalogue.folder))
    fun other among stored found => ?_).trans (if_congr List.mem_mergeSort rfl rfl)
  rw [decide_eq_true_iff, (stored?_eq_some_iff.mp found).1]
  refine ⟨fun same => ?_, fun same => same ▸ rfl⟩
  have slashless := spelled.notMem wf (List.mem_mergeSort.mp among)
  exact Path.join_inj (Path.isAbsolute_of_clean slashless) relative same

/-- Once the file of a table is there, it is listed as one table, under the name it is addressed by,
exactly if no slash and no dot stands in its language, and something does. -/
theorem listed_once_iff (regular : catalogue.Regular) (wf : tree.WellFormed)
    (spelled : tree.Spelled) (placed : catalogue.folder.text ≠ "")
    (valid : LookupCall.isValidSpace space = true)
    (file : tree.isFile (catalogue.filePath space language) = true) :
    (catalogue.list tree).filter (fun stored => stored.path = catalogue.filePath space language) =
        [⟨space, language, catalogue.filePath space language⟩] ↔
      '/' ∉ language.toList ∧ '.' ∉ language.toList ∧ language ≠ "" := by
  have listed := @filter_list_eq catalogue tree wf spelled (catalogue.fileName space language)
    (isAbsolute_fileName valid)
  rw [filePath, ← fileName, listed]
  by_cases clean : '/' ∉ language.toList
  · obtain ⟨content, found⟩ : ∃ content,
        tree.find (catalogue.filePath space language) = .ok (.file content) := by
      unfold FileTree.isFile at file
      split at file
      · exact ⟨_, by assumption⟩
      · cases file
    rw [if_pos (mem_namesIn_of_find regular wf placed ⟨valid, clean⟩ found)]
    have some : space ≠ "" := by
      rintro rfl
      exact (isValidSpace_iff.mp valid).1 rfl
    rw [Option.toList_eq_singleton_iff, stored?_eq_some_iff, nameParts?_eq_some_iff]
    exact ⟨fun ⟨_, _, _, _, said, single⟩ => ⟨clean, single, said⟩,
      fun ⟨_, single, said⟩ => ⟨rfl, file, rfl, some, said, single⟩⟩
  · -- With a slash it is the name of no entry.
    have absent : catalogue.fileName space language ∉ tree.namesIn catalogue.folder := by
      intro among
      refine spelled.notMem wf among ?_
      rw [toList_fileName]
      simp [not_not.mp clean]
    rw [if_neg absent]
    exact ⟨nofun, fun h => absurd h.1 clean⟩

/-- Every namespace that is addressed is fit to name a file, but any text is a language. The file of
a table stands directly inside the folder if its language holds no slash, and then no other such
table has the same file. Once there, it is listed as one table, under the name it is addressed by,
exactly if the language is written without slashes and dots, and is not empty. -/
theorem listed_as_addressed_iff {config : Config} (allowed : config.problem? = none)
    (ending : catalogue.extension = config.extension) (regular : catalogue.Regular)
    (placed : catalogue.folder.text ≠ "") (wf : tree.WellFormed) (spelled : tree.Spelled) :
    (∀ space language, Addressable space language ↔ LookupCall.isValidSpace space = true) ∧
    (∀ space language, Addressable space language →
      ((catalogue.filePath space language).Inside catalogue.folder ↔ '/' ∉ language.toList) ∧
      (tree.isFile (catalogue.filePath space language) = true →
        ((catalogue.list tree).filter (fun stored =>
              stored.path = catalogue.filePath space language) =
            [⟨space, language, catalogue.filePath space language⟩] ↔
          '/' ∉ language.toList ∧ '.' ∉ language.toList ∧ language ≠ ""))) ∧
    ∀ space language space' language', Addressable space language → Addressable space' language' →
      '/' ∉ language.toList → '/' ∉ language'.toList →
        catalogue.place tree.here space language = catalogue.place tree.here space' language' →
          space = space' ∧ language = language' := by
  have filled : ∃ c ∈ catalogue.extension.toList, c ≠ '.' :=
    ending ▸ (Config.extension_of_allowed allowed).2
  refine ⟨fun _ _ => addressable_iff, fun space language addressed => ⟨?_, fun file => ?_⟩, ?_⟩
  · exact inside_iff regular filled (addressable_iff.mp addressed)
  · exact listed_once_iff regular wf spelled placed (addressable_iff.mp addressed) file
  · intro space language space' language' addressed addressed' clean clean' same
    exact place_inj regular ⟨addressable_iff.mp addressed, clean⟩
      ⟨addressable_iff.mp addressed', clean'⟩ same

/-- The menu in English and in the Portuguese of Brazil. -/
def localeFiles : FileTree where
  entries := .ofList [
    (["lang"], .folder),
    (["lang", "menu.en.ts"], .file (.text "")),
    (["lang", "menu.pt.BR.ts"], .file (.text ""))]
  here := []

theorem portuguese_menu_lost :
    ((menus.list localeFiles).filter fun stored => stored.path = menus.filePath "menu" "en") =
        [⟨"menu", "en", menus.filePath "menu" "en"⟩] ∧
      ((menus.list localeFiles).filter fun stored => stored.path = menus.filePath "menu" "pt.BR") ≠
        [⟨"menu", "pt.BR", menus.filePath "menu" "pt.BR"⟩] := by
  have allowed : ({} : Config).problem? = none := by decide
  have regular : menus.Regular := ⟨by decide, by decide⟩
  have wf : localeFiles.WellFormed := by decide +kernel
  have spelled : localeFiles.Spelled := by decide +kernel
  obtain ⟨-, listed, -⟩ :=
    listed_as_addressed_iff allowed rfl regular (by decide) wf spelled
  have english := (listed "menu" "en" (addressable_iff.mpr (by decide))).2 (by decide +kernel)
  have portuguese := (listed "menu" "pt.BR" (addressable_iff.mpr (by decide))).2 (by decide +kernel)
  exact ⟨english.mpr (by decide), fun same => absurd (portuguese.mp same).2.1 (by decide)⟩

/-- The name tells another namespace and another language. -/
example : menus.nameParts? (menus.fileName "menu" "pt.BR") = some ("menu.pt", "BR") := by
  decide +kernel

end Catalogue

end Phrasebook
