import Mathlib.Data.List.Perm.Subperm
import Phrasebook.Proofs.Listing
import Phrasebook.Proofs.Rekeying

/-!
# Texts that every language has

Numbering counts the languages of a text and compares the count with that of all languages. This is
the same as asking every language, since the languages of a text are counted once each and are all
supported.

- `Catalogue.Holds`, `Catalogue.Translated`: some table has a text, and has it in a language;
- `Catalogue.lacking`: the languages that do not have a text;
- `mem_covered_iff`, `nodup_covered`: the languages that are counted;
- `find_of_translations`: what calls may use for a text, and what is told about it.
-/

namespace Phrasebook

/-! ## Translations -/

/-- The value is a translation: it is not empty, and it is no placeholder unless it belongs to the
default language. -/
def Reading.Translates (reading : Reading) (defaultLanguage : Option String) : Prop :=
  reading.value ≠ "" ∧
    (reading.value ≠ reading.identity.key ∨ some reading.language = defaultLanguage)

instance (reading : Reading) (defaultLanguage : Option String) :
    Decidable (reading.Translates defaultLanguage) := by
  unfold Reading.Translates
  infer_instance

namespace Catalogue

/-- A table that counts has the key of a text. -/
def Holds (catalogue : Catalogue) (tree : FileTree) (languages : List String)
    (identity : Identity) : Prop :=
  ∃ stored file, catalogue.Supported tree languages stored file ∧
    stored.space = identity.space ∧ identity.key ∈ file.table.keys

/-- A table that counts has a text in a language, which is no placeholder unless it is in the
default language. -/
def Translated (catalogue : Catalogue) (tree : FileTree) (languages : List String)
    (defaultLanguage : Option String) (identity : Identity) (language : String) : Prop :=
  ∃ stored file value, catalogue.Supported tree languages stored file ∧
    stored.space = identity.space ∧ stored.language = language ∧
      file.table.get? identity.key = some value ∧
        value ≠ "" ∧ (value ≠ identity.key ∨ some language = defaultLanguage)

variable {catalogue : Catalogue} {tree : FileTree} {languages : List String}
  {defaultLanguage : Option String} {identity : Identity} {language : String}

theorem holds_iff :
    catalogue.Holds tree languages identity ↔
      ∃ reading ∈ catalogue.readings tree languages, reading.identity = identity :=
  exists_reading_iff.symm

theorem translated_iff :
    catalogue.Translated tree languages defaultLanguage identity language ↔
      ∃ reading ∈ catalogue.readings tree languages, reading.identity = identity ∧
        reading.language = language ∧ reading.Translates defaultLanguage := by
  unfold Translated
  simp only [mem_readings_iff]
  constructor
  · rintro ⟨stored, file, value, supported, space, rfl, found, filled, genuine⟩
    exact ⟨⟨identity, stored.language, value⟩, ⟨stored, file, supported, space, rfl, found⟩, rfl,
      rfl, filled, genuine⟩
  · rintro ⟨reading, ⟨stored, file, supported, space, spoken, found⟩, rfl, rfl, filled, genuine⟩
    exact ⟨stored, file, reading.value, supported, space, spoken, found, filled, genuine⟩

instance : Decidable (catalogue.Holds tree languages identity) := decidable_of_iff' _ holds_iff

instance : Decidable (catalogue.Translated tree languages defaultLanguage identity language) :=
  decidable_of_iff' _ translated_iff

/-- The languages that do not have a text, in their order. -/
def lacking (catalogue : Catalogue) (tree : FileTree) (languages : List String)
    (defaultLanguage : Option String) (identity : Identity) : List String :=
  languages.filter fun language =>
    ¬ catalogue.Translated tree languages defaultLanguage identity language

theorem lacking_eq_nil_iff :
    catalogue.lacking tree languages defaultLanguage identity = [] ↔
      ∀ language ∈ languages,
        catalogue.Translated tree languages defaultLanguage identity language := by
  simp [lacking, List.filter_eq_nil_iff]

theorem lacking_eq :
    catalogue.lacking tree languages defaultLanguage identity =
      languages.filter fun language =>
        ¬ ∃ reading ∈ catalogue.readings tree languages, reading.identity = identity ∧
          reading.language = language ∧ reading.Translates defaultLanguage :=
  List.filter_congr fun _ _ => decide_eq_decide.mpr (not_congr translated_iff)

/-- A language that has a text is supported. -/
theorem Translated.supported
    (h : catalogue.Translated tree languages defaultLanguage identity language) :
    language ∈ languages := by
  obtain ⟨stored, file, value, supported, -, rfl, -⟩ := h
  exact supported.language

end Catalogue

namespace Numbering

variable {catalogue : Catalogue} {tree : FileTree} {languages : List String}
  {defaultLanguage : Option String} {identity : Identity}

/-! ## Languages that are counted -/

theorem isTranslated_iff (reading : Reading) :
    isTranslated (some reading.language == defaultLanguage) reading.identity.key reading.value =
        true ↔ reading.Translates defaultLanguage := by
  have genuine : isPlaceholder reading.identity.key reading.value = false ↔
      reading.value ≠ reading.identity.key := by
    rw [isPlaceholder, beq_eq_false_iff_ne, ne_comm]
  unfold isTranslated Reading.Translates
  simp only [Bool.and_eq_true, Bool.or_eq_true, Bool.not_eq_true', genuine, beq_iff_eq,
    String.isEmpty_eq_false_iff]
  rw [or_comm]

/-- The languages of a text, as far as they are covered. -/
def covered (coverage : Coverage) (identity : Identity) : List String :=
  (coverage.get? identity).getD []

/-- A reading adds its language to its text, if it translates the text and the language is new. -/
theorem covered_cover (coverage : Coverage) (reading : Reading) :
    covered (cover defaultLanguage coverage reading) identity =
      if reading.identity = identity ∧ reading.Translates defaultLanguage ∧
          reading.language ∉ covered coverage identity then
        covered coverage identity ++ [reading.language]
      else covered coverage identity := by
  unfold covered cover coverEntry
  dsimp only
  rw [OrderedMap.get?_insert]
  by_cases same : reading.identity = identity
  · subst same
    rw [if_pos rfl, Option.getD_some]
    simp only [Bool.and_eq_true, isTranslated_iff, Bool.not_eq_true', true_and]
    refine if_congr (and_congr_right fun _ => ?_) rfl rfl
    rw [← Bool.not_eq_true, List.contains_iff_mem]
  · have other : ¬ (⟨reading.identity.space, reading.identity.key⟩ : Identity) = identity := same
    rw [if_neg other, if_neg fun h => same h.1]

theorem nodup_covered (readings : List Reading) (coverage : Coverage)
    (distinct : (covered coverage identity).Nodup) :
    (covered (readings.foldl (cover defaultLanguage) coverage) identity).Nodup := by
  induction readings generalizing coverage with
  | nil => exact distinct
  | cons reading rest ih =>
    refine ih _ ?_
    rw [covered_cover]
    split
    · rename_i new
      refine List.nodup_append.mpr ⟨distinct, List.nodup_singleton _, ?_⟩
      rintro language known _ last rfl
      exact new.2.2 (List.mem_singleton.mp last ▸ known)
    · exact distinct

theorem mem_covered_iff (readings : List Reading) (coverage : Coverage) {language : String} :
    language ∈ covered (readings.foldl (cover defaultLanguage) coverage) identity ↔
      language ∈ covered coverage identity ∨
        ∃ reading ∈ readings, reading.identity = identity ∧ reading.language = language ∧
          reading.Translates defaultLanguage := by
  induction readings generalizing coverage with
  | nil => simp
  | cons reading rest ih =>
    have step : language ∈ covered (cover defaultLanguage coverage reading) identity ↔
        language ∈ covered coverage identity ∨
          (reading.identity = identity ∧ reading.language = language ∧
            reading.Translates defaultLanguage) := by
      rw [covered_cover]
      split
      · rename_i new
        simp [new.1, new.2.1, eq_comm]
      · rename_i old
        refine ⟨.inl, fun h => h.elim id ?_⟩
        rintro ⟨here, rfl, translates⟩
        exact Decidable.byContradiction fun new => old ⟨here, translates, new⟩
    rw [List.foldl_cons, ih, step, or_assoc]
    simp only [List.mem_cons, exists_eq_or_imp]

/-- The languages that are counted for a text are those that have it, each once. -/
theorem counted_languages {known : List String}
    (h : (coverageOf catalogue tree languages defaultLanguage).get? identity = some known) :
    known.Nodup ∧ ∀ language, language ∈ known ↔
      catalogue.Translated tree languages defaultLanguage identity language := by
  have here : covered (coverageOf catalogue tree languages defaultLanguage) identity = known := by
    rw [covered, h, Option.getD_some]
  rw [coverageOf_eq_foldl] at here
  constructor
  · exact here ▸ nodup_covered _ .empty List.nodup_nil
  · intro language
    rw [← here, mem_covered_iff, Catalogue.translated_iff]
    exact or_iff_right (List.not_mem_nil (a := language))

/-- Some of the languages, counted once each, are as many as all of them only if they are all. -/
theorem length_eq_iff {known : List String} (distinct : known.Nodup) (among : known ⊆ languages)
    (distinct' : languages.Nodup) :
    known.length = languages.length ↔ ∀ language ∈ languages, language ∈ known := by
  constructor
  · intro same language h
    have all := (List.subperm_of_subset distinct among).perm_of_length_le (Nat.le_of_eq same.symm)
    exact all.mem_iff.mpr h
  · intro all
    exact Nat.le_antisymm (distinct.length_le_of_subset among) (distinct'.length_le_of_subset all)

/-- The count of the languages of a text is that of all languages exactly if none lacks it. -/
theorem full_iff (distinct : languages.Nodup) {known : List String}
    (h : (coverageOf catalogue tree languages defaultLanguage).get? identity = some known) :
    known.length = languages.length ↔
      catalogue.lacking tree languages defaultLanguage identity = [] := by
  obtain ⟨once, counted⟩ := counted_languages h
  have among : known ⊆ languages := fun language h => ((counted language).mp h).supported
  rw [length_eq_iff once among distinct, Catalogue.lacking_eq_nil_iff]
  exact forall₂_congr fun language _ => counted language

/-! ## What calls may use -/

theorem missing_iff :
    (ofTables catalogue tree languages defaultLanguage).1.find identity = .missing ↔
      ¬ catalogue.Holds tree languages identity := by
  rw [Catalogue.Holds, ← find_ofTables_ne_missing_iff, ne_eq, Decidable.not_not]

/-- A text that a table holds is counted, with a number and with its languages. -/
theorem exists_text_of_holds (h : catalogue.Holds tree languages identity) :
    ∃ text, (ofTables catalogue tree languages defaultLanguage).1.texts.get? identity = some text ∧
      (coverageOf catalogue tree languages defaultLanguage).get? identity =
        some text.translatedIn := by
  have known : identity ∈ (ofTables catalogue tree languages defaultLanguage).1.texts.keys := by
    rw [ofTables_eq, keys_ofCoverage]
    exact mem_keys_coverageOf.mpr h
  obtain ⟨text, found⟩ := OrderedMap.mem_keys_iff.mp known
  exact ⟨text, found, get?_translatedIn found⟩

theorem mature_iff (distinct : languages.Nodup) :
    (∃ ordinal, (ofTables catalogue tree languages defaultLanguage).1.find identity =
        .mature ordinal) ↔
      catalogue.Holds tree languages identity ∧
        catalogue.lacking tree languages defaultLanguage identity = [] := by
  simp only [find_eq_mature_iff]
  constructor
  · rintro ⟨ordinal, text, found, full, -⟩
    have covered := get?_translatedIn found
    exact ⟨mem_keys_coverageOf.mp (OrderedMap.mem_keys_iff.mpr ⟨_, covered⟩),
      (full_iff distinct covered).mp full⟩
  · rintro ⟨holds, none⟩
    obtain ⟨text, found, covered⟩ := exists_text_of_holds holds
    exact ⟨text.ordinal, text, found, (full_iff distinct covered).mpr none, rfl⟩

theorem immature_iff (distinct : languages.Nodup) :
    (∃ text, (ofTables catalogue tree languages defaultLanguage).1.find identity =
        .immature text) ↔
      catalogue.Holds tree languages identity ∧
        catalogue.lacking tree languages defaultLanguage identity ≠ [] := by
  simp only [find_eq_immature_iff]
  constructor
  · rintro ⟨text, found, short⟩
    have covered := get?_translatedIn found
    exact ⟨mem_keys_coverageOf.mp (OrderedMap.mem_keys_iff.mpr ⟨_, covered⟩),
      mt (full_iff distinct covered).mpr short⟩
  · rintro ⟨holds, some⟩
    obtain ⟨text, found, covered⟩ := exists_text_of_holds holds
    exact ⟨text, found, mt (full_iff distinct covered).mp some⟩

/-- What is told about a text that waits for translations: the languages that lack it. -/
theorem filter_translatedIn {text : NumberedText}
    (h : (ofTables catalogue tree languages defaultLanguage).1.find identity = .immature text) :
    languages.filter (fun language => !text.translatedIn.contains language) =
      catalogue.lacking tree languages defaultLanguage identity := by
  have counted := (counted_languages (get?_translatedIn (find_eq_immature_iff.mp h).1)).2
  refine List.filter_congr fun language _ => ?_
  rw [Bool.eq_iff_iff, Bool.not_eq_true', ← Bool.not_eq_true, List.contains_iff_mem, counted,
    decide_eq_true_iff]

/-- Calls may use the number of a text if a table of every language has it, and they use its key if
a table holds it, but not in every language; then the languages that lack it are told, for every
text that is looked up, and there is one. A text that no table holds is missing. -/
theorem find_of_translations (some : languages ≠ []) (distinct : languages.Nodup) :
    let numbering := (ofTables catalogue tree languages defaultLanguage).1
    (∀ identity,
      (numbering.find identity = .missing ↔ ¬ catalogue.Holds tree languages identity) ∧
      ((∃ ordinal, numbering.find identity = .mature ordinal) ↔
        ∀ language ∈ languages,
          catalogue.Translated tree languages defaultLanguage identity language) ∧
      ((∃ text, numbering.find identity = .immature text) ↔
        catalogue.Holds tree languages identity ∧
          catalogue.lacking tree languages defaultLanguage identity ≠ [])) ∧
    ∀ extraction : Extraction, numbering.partialTranslations extraction =
      (extraction.callSites.entries.filter fun (identity, _) =>
        catalogue.Holds tree languages identity ∧
          catalogue.lacking tree languages defaultLanguage identity ≠ []).map
        fun (identity, sites) =>
          .partialTranslation identity
            (catalogue.lacking tree languages defaultLanguage identity)
            (sites.head?.map CallSite.context) := by
  intro numbering
  refine ⟨fun identity => ⟨missing_iff, (mature_iff distinct).trans ?_, immature_iff distinct⟩,
    fun extraction => ?_⟩
  · rw [Catalogue.lacking_eq_nil_iff]
    refine and_iff_right_of_imp fun all => ?_
    -- What one language has some table holds, and there is a language.
    obtain ⟨language, known⟩ := List.exists_mem_of_ne_nil _ some
    obtain ⟨stored, file, value, supported, space, -, found, -⟩ := all language known
    exact ⟨stored, file, supported, space, OrderedMap.mem_keys_iff.mpr ⟨value, found⟩⟩
  · unfold partialTranslations
    rw [← List.filterMap_eq_map', List.filterMap_filter]
    refine List.filterMap_congr fun entry _ => ?_
    obtain ⟨identity, sites⟩ := entry
    have waits := @immature_iff catalogue tree languages defaultLanguage identity distinct
    -- A text that is not immature is left out of the issues.
    have quiet (h : ∀ text, numbering.find identity ≠ .immature text) :
        ¬ decide (catalogue.Holds tree languages identity ∧
          catalogue.lacking tree languages defaultLanguage identity ≠ []) = true := by
      rw [decide_eq_true_iff, ← waits]
      exact not_exists.mpr h
    dsimp only
    cases found : numbering.find identity with
    | immature text =>
      rw [if_pos (decide_eq_true (waits.mp ⟨text, found⟩))]
      dsimp only
      exact congrArg (fun missing => Option.some (Issue.partialTranslation identity missing _))
        (filter_translatedIn found)
    | missing => rw [if_neg (quiet (found ▸ nofun))]
    | mature ordinal => rw [if_neg (quiet (found ▸ nofun))]

/-- Greetings in two languages; the German ones are not finished. -/
def twoGreetings : FileTree where
  entries := .ofList [
    (["lang"], .folder),
    (["lang", "default.de.ts"],
      .file (.text "default \x7b\"Bye\":\"Bye\",\"Hello\":\"Hallo\"\x7d I18NTABLEEND")),
    (["lang", "default.en.ts"],
      .file (.text "default \x7b\"Hello\":\"Hello\",\"Bye\":\"See you\"\x7d I18NTABLEEND"))]
  here := []

theorem readings_twoGreetings :
    greetings.readings twoGreetings ["en", "de"] =
      [⟨⟨"default", "Bye"⟩, "de", "Bye"⟩, ⟨⟨"default", "Hello"⟩, "de", "Hallo"⟩,
        ⟨⟨"default", "Hello"⟩, "en", "Hello"⟩, ⟨⟨"default", "Bye"⟩, "en", "See you"⟩] := by
  have names : twoGreetings.namesIn greetings.folder = ["default.de.ts", "default.en.ts"] := by
    decide +kernel
  unfold Catalogue.readings
  rw [Catalogue.list_of_sorted names (by decide)]
  decide +kernel

/-- The English greeting is its own key, which the default language may use, but the German farewell
is a placeholder. -/
theorem find_of_greetings :
    let numbering := (ofTables greetings twoGreetings ["en", "de"] (some "en")).1
    (∃ ordinal, numbering.find ⟨"default", "Hello"⟩ = .mature ordinal) ∧
      (∃ text, numbering.find ⟨"default", "Bye"⟩ = .immature text) ∧
      numbering.find ⟨"default", "0"⟩ = .missing ∧
      numbering.partialTranslations
          ⟨["en", "de"], .ofList [(⟨"default", "Hello"⟩, []), (⟨"default", "Bye"⟩, [])], []⟩ =
        [.partialTranslation ⟨"default", "Bye"⟩ ["de"] none] := by
  intro numbering
  obtain ⟨found, told⟩ :=
    @find_of_translations greetings twoGreetings ["en", "de"] (some "en") (by decide) (by decide)
  have translated := @Catalogue.translated_iff greetings twoGreetings ["en", "de"] (some "en")
  have holds := @Catalogue.holds_iff greetings twoGreetings ["en", "de"]
  have lacking := @Catalogue.lacking_eq greetings twoGreetings ["en", "de"] (some "en")
  rw [readings_twoGreetings] at translated holds lacking
  simp only [translated, holds, lacking] at found told
  refine ⟨(found _).2.1.mpr ?_, (found _).2.2.mpr ?_, (found _).1.mpr ?_, (told _).trans ?_⟩
  · decide +kernel
  · decide +kernel
  · decide +kernel
  · decide +kernel

end Numbering

end Phrasebook
