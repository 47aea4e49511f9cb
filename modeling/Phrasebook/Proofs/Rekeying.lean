import Phrasebook.Numbering.Apply
import Phrasebook.Proofs.Coverage

/-!
# Tables with numbers for keys

`Numbering.numberEntries` writes numbers for the keys of a table, and calls write the same numbers.
So a call finds in the new table what it found in the old one.

- `entries_numberEntries`: no two entries become one;
- `rekeyed_keeps_lookups`: each entry is found under what calls write for its key;
- `literal_call_keeps_lookups_iff`: a call that writes its key still is not misled, unless no table
  has the key and it reads like a number in use.
-/

namespace Phrasebook.Numbering

variable {catalogue : Catalogue} {tree : FileTree} {languages : List String}
  {defaultLanguage : Option String} {stored : StoredTable} {file : TableFile}

/-! ## Tables -/

/-- The keys of a table that counts are known. -/
theorem find_ne_missing (h : catalogue.Supported tree languages stored file) {key : String}
    (known : key ∈ file.table.keys) :
    (ofTables catalogue tree languages defaultLanguage).1.find ⟨stored.space, key⟩ ≠ .missing :=
  find_ofTables_ne_missing_iff.mpr ⟨stored, file, h, rfl, known⟩

/-- No two entries of a table that counts become one. -/
theorem entries_numberEntries (h : catalogue.Supported tree languages stored file) :
    ((ofTables catalogue tree languages defaultLanguage).1.numberEntries stored.space
        file.table).entries =
      file.table.entries.map fun (key, value) =>
        ((ofTables catalogue tree languages defaultLanguage).1.keyOf ⟨stored.space, key⟩,
          value) := by
  refine OrderedMap.entries_ofList ?_
  rw [List.map_map]
  have differ := List.pairwise_map.mp file.table.distinct
  refine List.pairwise_map.mpr (List.Pairwise.imp_of_mem ?_ differ)
  intro entry other mem mem' differ same
  refine differ (keyOf_inj ?_ ?_ same)
  · exact find_ne_missing h (List.mem_map_of_mem mem)
  · exact find_ne_missing h (List.mem_map_of_mem mem')

/-- An entry of the new table is an entry of the old one under another key. -/
theorem get?_numberEntries_eq_some_iff (h : catalogue.Supported tree languages stored file)
    {written value : String} :
    ((ofTables catalogue tree languages defaultLanguage).1.numberEntries stored.space
        file.table).get? written = some value ↔
      ∃ key, file.table.get? key = some value ∧
        (ofTables catalogue tree languages defaultLanguage).1.keyOf ⟨stored.space, key⟩ =
          written := by
  rw [← OrderedMap.mem_entries_iff, entries_numberEntries h, List.mem_map]
  constructor
  · rintro ⟨⟨key, text⟩, entry, same⟩
    obtain ⟨rfl, rfl⟩ := Prod.mk.inj same
    exact ⟨key, OrderedMap.mem_entries_iff.mp entry, rfl⟩
  · rintro ⟨key, found, rfl⟩
    exact ⟨(key, value), OrderedMap.mem_entries_iff.mpr found, rfl⟩

/-- In a table that counts, with numbers for keys, no two entries are merged: there are the same
values in the same order, each under what calls write for its key: the number of the text if every
language has it, and its key otherwise. -/
theorem rekeyed_keeps_lookups (h : catalogue.Supported tree languages stored file) :
    let numbering := (ofTables catalogue tree languages defaultLanguage).1
    let rekeyed := numbering.numberEntries stored.space file.table
    numbering.numberTable stored.space file = file.renderWith rekeyed ∧
      rekeyed.size = file.table.size ∧
      rekeyed.entries.map Prod.snd = file.table.entries.map Prod.snd ∧
      rekeyed.keys = file.table.keys.map (fun key => numbering.keyOf ⟨stored.space, key⟩) ∧
      ∀ key value, file.table.get? key = some value →
        (∀ ordinal, numbering.find ⟨stored.space, key⟩ = .mature ordinal →
          rekeyed.get? (toString ordinal) = some value) ∧
        ((∀ ordinal, numbering.find ⟨stored.space, key⟩ ≠ .mature ordinal) →
          rekeyed.get? key = some value) := by
  intro numbering rekeyed
  have entries : rekeyed.entries = _ := entries_numberEntries h
  refine ⟨rfl, ?_, ?_, ?_, fun key value found => ⟨fun ordinal mature => ?_, fun literal => ?_⟩⟩
  · rw [OrderedMap.size, entries, List.length_map]
    rfl
  · rw [entries, List.map_map]
    rfl
  · rw [OrderedMap.keys, entries, List.map_map, OrderedMap.keys, List.map_map]
    rfl
  · exact (get?_numberEntries_eq_some_iff h).mpr ⟨key, found, keyOf_mature mature⟩
  · exact (get?_numberEntries_eq_some_iff h).mpr ⟨key, found, keyOf_literal literal⟩

/-- A catalogue of greetings in which `1` waits for its translation. -/
def greetings : Catalogue := ⟨⟨"/lang"⟩, "ts", ⟨"/"⟩⟩

/-- The file of the greetings. -/
def greetingFiles : FileTree :=
  let table := "\x7b\"Hello\": \"Hi\", \"1\": \"1\", \"Bye\": \"Ciao\"\x7d"
  ⟨⟨[(["lang"], .folder),
    (["lang", "default.en.ts"], .file (.text ("export default " ++ table ++ "; I18NTABLEEND")))],
    by decide⟩, []⟩

theorem exists_greetings : ∃ file, greetings.Supported greetingFiles ["en"]
    ⟨"default", "en", ⟨"/lang/default.en.ts"⟩⟩ file ∧
      file.table.entries = [("Hello", "Hi"), ("1", "1"), ("Bye", "Ciao")] := by
  obtain ⟨file, readable, entries⟩ := Catalogue.exists_read
    (by decide +kernel :
      ((greetings.read greetingFiles ⟨"/lang/default.en.ts"⟩).toOption.bind id).map
        (fun file => file.table.entries) = some [("Hello", "Hi"), ("1", "1"), ("Bye", "Ciao")])
  exact ⟨file, ⟨by decide +kernel, by decide, readable⟩, entries⟩

/-- Two greetings have numbers, one waits for its translation, and no greeting has the key `0`. -/
theorem find_greetings :
    ["Hello", "Bye", "1", "0"].map (fun key =>
      (ofTables greetings greetingFiles ["en"] none).1.find ⟨"default", key⟩) =
        [.mature 0, .mature 3, .immature ⟨2, []⟩, .missing] := by decide +kernel

/-- The number of the last greeting passes over the key `1`, whose entry stays as it is. -/
theorem rekeyed_keeps_greetings :
    ∃ file, greetings.Supported greetingFiles ["en"]
        ⟨"default", "en", ⟨"/lang/default.en.ts"⟩⟩ file ∧
      let rekeyed := (ofTables greetings greetingFiles ["en"] none).1.numberEntries "default"
        file.table
      rekeyed.size = 3 ∧ rekeyed.get? "0" = some "Hi" ∧ rekeyed.get? "1" = some "1" ∧
        rekeyed.get? "3" = some "Ciao" := by
  obtain ⟨file, supported, entries⟩ := exists_greetings
  obtain ⟨-, size, -, -, kept⟩ :=
    @rekeyed_keeps_lookups greetings greetingFiles ["en"] none _ file supported
  have found (key text : String)
      (h : OrderedMap.find? key [("Hello", "Hi"), ("1", "1"), ("Bye", "Ciao")] = some text) :
      file.table.get? key = some text := by
    rw [OrderedMap.get?, entries, h]
  obtain ⟨hello, bye, immature, -⟩ : _ ∧ _ ∧ _ ∧ _ := by simpa using find_greetings
  refine ⟨file, supported, ?_, ?_, ?_, ?_⟩
  · rw [size, OrderedMap.size, entries]
    rfl
  · exact (kept "Hello" "Hi" (found _ _ (by decide))).1 0 hello
  · refine (kept "1" "1" (found _ _ (by decide))).2 fun ordinal mature => ?_
    rw [immature] at mature
    cases mature
  · exact (kept "Bye" "Ciao" (found _ _ (by decide))).1 3 bye

/-! ## Calls that write their key still -/

section Call

variable {program : Program} {index start : Nat} {callee : Source.Node}
  {arguments : List Source.Node} {lookup : LookupCall} {numbering : Numbering}

/-- A lookup that is not edited has no number. -/
theorem find_ne_mature_of_not_edited
    (call : LookupCall.classify program index callee arguments = some (.ok lookup))
    (literal : ∀ edit, nodeOutcome? program numbering index (.call start callee arguments) ≠
      some (.edited edit)) (ordinal : Nat) :
    numbering.find lookup.identity ≠ .mature ordinal := by
  intro mature
  refine literal ⟨lookup.keyStart, lookup.keyStop, toString ordinal⟩ ?_
  rw [nodeOutcome?, call]
  simp only [mature]

/-- A key that calls use as it is reads like no number of its namespace if a table has it. -/
theorem ordinal_ne_key_of_literal {space key other : String} {ordinal : Nat}
    (mature : (ofTables catalogue tree languages defaultLanguage).1.find ⟨space, other⟩ =
      .mature ordinal)
    (known : (ofTables catalogue tree languages defaultLanguage).1.find ⟨space, key⟩ ≠ .missing)
    (literal : ∀ ordinal,
      (ofTables catalogue tree languages defaultLanguage).1.find ⟨space, key⟩ ≠ .mature ordinal) :
    toString ordinal ≠ key := by
  intro same
  have written : (ofTables catalogue tree languages defaultLanguage).1.keyOf ⟨space, other⟩ =
      (ofTables catalogue tree languages defaultLanguage).1.keyOf ⟨space, key⟩ := by
    rw [keyOf_mature mature, keyOf_literal literal, same]
  have known' : (ofTables catalogue tree languages defaultLanguage).1.find ⟨space, other⟩ ≠
      .missing := by
    rw [mature]
    exact nofun
  obtain rfl : other = key := keyOf_inj known' known written
  exact literal ordinal mature

/-- A call that writes its key still finds under it, in every table of its namespace with numbers
for keys, what it found before, and no number reads like the key. This fails just if no table has
the key and it reads like the number of a text of its namespace. -/
theorem literal_call_keeps_lookups_iff
    (call : LookupCall.classify program index callee arguments = some (.ok lookup))
    (literal : ∀ edit,
      nodeOutcome? program (ofTables catalogue tree languages defaultLanguage).1 index
        (.call start callee arguments) ≠ some (.edited edit)) :
    let numbering := (ofTables catalogue tree languages defaultLanguage).1
    let space := lookup.identity.space
    let key := lookup.identity.key
    (∀ stored file, catalogue.Supported tree languages stored file → stored.space = space →
      (∀ other ∈ file.table.keys, ∀ ordinal,
        numbering.find ⟨space, other⟩ = .mature ordinal → toString ordinal ≠ key) ∧
      (numbering.numberEntries space file.table).get? key = file.table.get? key) ↔
    ¬ (numbering.find ⟨space, key⟩ = .missing ∧
      ∃ other ordinal, numbering.find ⟨space, other⟩ = .mature ordinal ∧
        toString ordinal = key) := by
  intro numbering space key
  have unnumbered : ∀ ordinal, numbering.find ⟨space, key⟩ ≠ .mature ordinal :=
    find_ne_mature_of_not_edited call literal
  constructor
  · rintro safe ⟨-, other, ordinal, mature, same⟩
    have known : numbering.find ⟨space, other⟩ ≠ .missing := by
      rw [mature]
      exact nofun
    obtain ⟨stored, file, supported, here, mem⟩ :=
      find_ofTables_ne_missing_iff.mp known
    exact (safe stored file supported here).1 other mem ordinal mature same
  · intro apart stored file supported here
    -- A known key is not a number already taken, so only one that no table has can clash.
    have differ : ∀ other ∈ file.table.keys, ∀ ordinal,
        numbering.find ⟨space, other⟩ = .mature ordinal → toString ordinal ≠ key := by
      intro other mem ordinal mature same
      refine ordinal_ne_key_of_literal mature (fun missing => ?_) unnumbered same
      exact apart ⟨missing, other, ordinal, mature, same⟩
    refine ⟨differ, Option.ext fun value => ?_⟩
    rw [← here] at differ unnumbered ⊢
    rw [get?_numberEntries_eq_some_iff supported]
    constructor
    · -- A value under the key stood under it before, since no other entry was moved there.
      rintro ⟨other, found, written⟩
      have mem : other ∈ file.table.keys := OrderedMap.mem_keys_iff.mpr ⟨value, found⟩
      rw [keyOf_literal] at written
      · exact written ▸ found
      · intro ordinal mature
        rw [keyOf_mature mature] at written
        exact differ other mem ordinal mature written
    · intro found
      exact ⟨key, found, keyOf_literal unnumbered⟩

end Call

/-- A program whose only declaration looks keys up. -/
def greeter : Program :=
  ⟨#[], #[⟨"locText", .member, 0, "* I18NLOCTEXTSYMBOL ", some .lookup, none⟩], []⟩

/-- No table has the key `0`, which reads like the number of the first greeting, so a call that
looks it up finds that greeting. -/
theorem literal_call_misled :
    LookupCall.classify greeter 0 (.member (.name 0 "i18n") (some "locText"))
        [.text 13 16 ⟨"0", true⟩] = some (.ok ⟨⟨"default", "0"⟩, 13, 16⟩) ∧
      (∀ edit,
        nodeOutcome? greeter (ofTables greetings greetingFiles ["en"] none).1 0
          (.call 0 (.member (.name 0 "i18n") (some "locText")) [.text 13 16 ⟨"0", true⟩]) ≠
            some (.edited edit)) ∧
      ¬ ∀ stored file, greetings.Supported greetingFiles ["en"] stored file →
        stored.space = "default" →
        (∀ other ∈ file.table.keys, ∀ ordinal,
          (ofTables greetings greetingFiles ["en"] none).1.find ⟨"default", other⟩ =
            .mature ordinal → toString ordinal ≠ "0") ∧
        ((ofTables greetings greetingFiles ["en"] none).1.numberEntries "default"
          file.table).get? "0" = file.table.get? "0" := by
  have call : LookupCall.classify greeter 0 (.member (.name 0 "i18n") (some "locText"))
      [.text 13 16 ⟨"0", true⟩] = some (.ok ⟨⟨"default", "0"⟩, 13, 16⟩) := rfl
  obtain ⟨hello, -, -, missing⟩ : _ ∧ _ ∧ _ ∧ _ := by simpa using find_greetings
  -- No table has the key `0`, so the call is not edited.
  have literal : ∀ edit,
      nodeOutcome? greeter (ofTables greetings greetingFiles ["en"] none).1 0
        (.call 0 (.member (.name 0 "i18n") (some "locText")) [.text 13 16 ⟨"0", true⟩]) ≠
          some (.edited edit) := by
    intro edit
    rw [nodeOutcome?, call]
    simp only [missing]
    exact nofun
  refine ⟨call, literal, fun safe => ?_⟩
  -- The text of `Hello` is renumbered to `0`, which the call then finds.
  exact (literal_call_keeps_lookups_iff call literal).mp safe ⟨missing, "Hello", 0, hello, rfl⟩

end Phrasebook.Numbering
