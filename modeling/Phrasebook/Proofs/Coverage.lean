import Phrasebook.Proofs.Ordinals

/-!
# Coverage

Which texts a numbering knows: those of the tables that can be read, in the languages that are
supported.

- `Catalogue.Supported`: a table that counts;
- `Catalogue.readings`: the texts of these tables, in the order in which they are seen;
- `coverageOf_eq_foldl`: the coverage is made of them one by one;
- `find_ofTables_ne_missing_iff`: a text is known if such a table has its key.
-/

namespace Phrasebook

/-- A table file of one of the given languages that can be read. -/
structure Catalogue.Supported (catalogue : Catalogue) (tree : FileTree) (languages : List String)
    (stored : StoredTable) (file : TableFile) : Prop where
  listed : stored ∈ catalogue.list tree
  language : stored.language ∈ languages
  readable : catalogue.read tree stored.path = .ok (some file)

/-- A table file with the entries that are read from it. -/
theorem Catalogue.exists_read {catalogue : Catalogue} {tree : FileTree} {path : Path}
    {entries : List (String × String)}
    (h : ((catalogue.read tree path).toOption.bind id).map (fun file => file.table.entries) =
      some entries) :
    ∃ file, catalogue.read tree path = .ok (some file) ∧ file.table.entries = entries := by
  cases found : catalogue.read tree path with
  | error fault =>
    rw [found] at h
    cases h
  | ok file? =>
    cases file? with
    | none =>
      rw [found] at h
      cases h
    | some file =>
      rw [found] at h
      exact ⟨file, rfl, Option.some.inj h⟩

/-- What a table says about a text: its value in a language. -/
structure Reading where
  identity : Identity
  language : String
  value : String
deriving Repr, DecidableEq

namespace Catalogue

/-- What the file of a table says; nothing if it cannot be read. -/
def readingsOf (catalogue : Catalogue) (tree : FileTree) (stored : StoredTable) : List Reading :=
  match catalogue.read tree stored.path with
  | .ok (some file) =>
    file.table.entries.map fun (key, value) => ⟨⟨stored.space, key⟩, stored.language, value⟩
  | _ => []

/-- What the tables that count say: file by file in the order of their names, and the entries of a
file in the order of its table. -/
def readings (catalogue : Catalogue) (tree : FileTree) (languages : List String) : List Reading :=
  ((catalogue.list tree).filter fun stored => languages.contains stored.language).flatMap
    (catalogue.readingsOf tree)

variable {catalogue : Catalogue} {tree : FileTree} {languages : List String}

theorem mem_readingsOf_iff {stored : StoredTable} {reading : Reading} :
    reading ∈ catalogue.readingsOf tree stored ↔
      ∃ file, catalogue.read tree stored.path = .ok (some file) ∧
        stored.space = reading.identity.space ∧ stored.language = reading.language ∧
          file.table.get? reading.identity.key = some reading.value := by
  obtain ⟨⟨space, key⟩, language, value⟩ := reading
  unfold readingsOf
  split
  · rename_i file readable
    rw [List.mem_map]
    constructor
    · rintro ⟨⟨key', value'⟩, entry, same⟩
      cases same
      exact ⟨file, readable, rfl, rfl, OrderedMap.mem_entries_iff.mp entry⟩
    · rintro ⟨file', readable', rfl, rfl, found⟩
      cases readable.symm.trans readable'
      exact ⟨(key, value), OrderedMap.mem_entries_iff.mpr found, rfl⟩
  · rename_i other
    refine iff_of_false List.not_mem_nil ?_
    rintro ⟨file, readable, -⟩
    exact other file readable

/-- The tables that count say what stands in them. -/
theorem mem_readings_iff {reading : Reading} :
    reading ∈ catalogue.readings tree languages ↔
      ∃ stored file, catalogue.Supported tree languages stored file ∧
        stored.space = reading.identity.space ∧ stored.language = reading.language ∧
          file.table.get? reading.identity.key = some reading.value := by
  unfold readings
  simp only [List.mem_flatMap, mem_readingsOf_iff, List.mem_filter, List.contains_iff_mem]
  constructor
  · rintro ⟨stored, ⟨listed, known⟩, file, readable, told⟩
    exact ⟨stored, file, ⟨listed, known, readable⟩, told⟩
  · rintro ⟨stored, file, ⟨listed, known, readable⟩, told⟩
    exact ⟨stored, ⟨listed, known⟩, file, readable, told⟩

/-- Something is said about a text if a table that counts has its key. -/
theorem exists_reading_iff {identity : Identity} :
    (∃ reading ∈ catalogue.readings tree languages, reading.identity = identity) ↔
      ∃ stored file, catalogue.Supported tree languages stored file ∧
        stored.space = identity.space ∧ identity.key ∈ file.table.keys := by
  simp only [mem_readings_iff]
  constructor
  · rintro ⟨reading, ⟨stored, file, supported, space, -, found⟩, rfl⟩
    exact ⟨stored, file, supported, space, OrderedMap.mem_keys_iff.mpr ⟨_, found⟩⟩
  · rintro ⟨stored, file, supported, space, known⟩
    obtain ⟨value, found⟩ := OrderedMap.mem_keys_iff.mp known
    exact ⟨⟨identity, stored.language, value⟩, ⟨stored, file, supported, space, rfl, found⟩, rfl⟩

end Catalogue

namespace Numbering

variable {catalogue : Catalogue} {tree : FileTree} {languages : List String}
  {defaultLanguage : Option String}

/-! ## Coverage, reading by reading -/

/-- Add what a table says about a text to the coverage. -/
def cover (defaultLanguage : Option String) (coverage : Coverage) (reading : Reading) : Coverage :=
  coverEntry reading.identity.space reading.language (some reading.language == defaultLanguage)
    coverage (reading.identity.key, reading.value)

/-- A table file adds what it says. -/
theorem fst_coverFile (progress : Coverage × List Issue) (stored : StoredTable) :
    (coverFile catalogue tree defaultLanguage progress stored).1 =
      (catalogue.readingsOf tree stored).foldl (cover defaultLanguage) progress.1 := by
  unfold coverFile Catalogue.readingsOf
  rcases catalogue.read tree stored.path with fault | _ | file
  · rfl
  · rfl
  · dsimp only
    rw [List.foldl_map]
    rfl

/-- The coverage that the numbering of a catalogue comes from. -/
def coverageOf (catalogue : Catalogue) (tree : FileTree) (languages : List String)
    (defaultLanguage : Option String) : Coverage :=
  (((catalogue.list tree).filter fun table => languages.contains table.language).foldl
    (coverFile catalogue tree defaultLanguage) (.empty, [])).1

theorem ofTables_eq :
    (ofTables catalogue tree languages defaultLanguage).1 =
      ofCoverage (coverageOf catalogue tree languages defaultLanguage) languages := rfl

/-- The coverage is made of what the tables say, one after the other. -/
theorem coverageOf_eq_foldl :
    coverageOf catalogue tree languages defaultLanguage =
      (catalogue.readings tree languages).foldl (cover defaultLanguage) .empty := by
  have files (tables : List StoredTable) (progress : Coverage × List Issue) :
      (tables.foldl (coverFile catalogue tree defaultLanguage) progress).1 =
        (tables.flatMap (catalogue.readingsOf tree)).foldl (cover defaultLanguage) progress.1 := by
    induction tables generalizing progress with
    | nil => rfl
    | cons stored rest ih =>
      rw [List.foldl_cons, ih, fst_coverFile, List.flatMap_cons, List.foldl_append]
  exact files _ _

/-- The texts that are covered are those that some table has, in the order in which they are first
seen. -/
theorem keys_coverageOf :
    (coverageOf catalogue tree languages defaultLanguage).keys =
      ((catalogue.readings tree languages).map Reading.identity).eraseDups := by
  rw [coverageOf_eq_foldl]
  refine (OrderedMap.keys_foldl_set Reading.identity _ _ .empty).trans ?_
  rw [OrderedMap.keys_empty, List.nil_append]
  exact congrArg List.eraseDups (List.filter_eq_self.mpr fun _ _ => by simp)

theorem mem_keys_coverageOf {identity : Identity} :
    identity ∈ (coverageOf catalogue tree languages defaultLanguage).keys ↔
      ∃ stored file, catalogue.Supported tree languages stored file ∧
        stored.space = identity.space ∧ identity.key ∈ file.table.keys := by
  rw [keys_coverageOf, List.mem_eraseDups, List.mem_map]
  exact Catalogue.exists_reading_iff

/-- A text is known if a table of a supported language has its key. -/
theorem find_ofTables_ne_missing_iff {identity : Identity} :
    (ofTables catalogue tree languages defaultLanguage).1.find identity ≠ .missing ↔
      ∃ stored file, catalogue.Supported tree languages stored file ∧
        stored.space = identity.space ∧ identity.key ∈ file.table.keys := by
  rw [ofTables_eq, ne_eq, find_eq_missing_iff, Decidable.not_not, keys_ofCoverage,
    mem_keys_coverageOf]

end Numbering

end Phrasebook
