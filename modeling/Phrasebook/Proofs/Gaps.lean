import Phrasebook.Proofs.Maturity

/-!
# Numbers without needless gaps

In each namespace the numbers of the texts grow from 0 on, in the order in which the texts are first
seen. A number is left out only where it has to be: it reads like a key that calls use as it is.

- `Catalogue.Literal`: a key that calls use as it is;
- `mem_literalKeys_coverageOf`: the keys whose decimal forms are left out are these;
- `ordinals_least`: the numbers of a namespace are the least that are possible.
-/

namespace Phrasebook

/-- A key that calls use as it is: some table has its text, but not every language has it. -/
def Catalogue.Literal (catalogue : Catalogue) (tree : FileTree) (languages : List String)
    (defaultLanguage : Option String) (space key : String) : Prop :=
  catalogue.Holds tree languages ⟨space, key⟩ ∧
    catalogue.lacking tree languages defaultLanguage ⟨space, key⟩ ≠ []

namespace Numbering

variable {catalogue : Catalogue} {tree : FileTree} {languages : List String}
  {defaultLanguage : Option String}

theorem mem_literalKeys_coverageOf (distinct : languages.Nodup) {space key : String} :
    key ∈ literalKeys (coverageOf catalogue tree languages defaultLanguage) languages space ↔
      catalogue.Literal tree languages defaultLanguage space key := by
  rw [mem_literalKeys_iff, Catalogue.Literal]
  constructor
  · rintro ⟨known, covered, short⟩
    exact ⟨mem_keys_coverageOf.mp (OrderedMap.mem_keys_iff.mpr ⟨known, covered⟩),
      mt (full_iff distinct covered).mpr short⟩
  · rintro ⟨holds, some⟩
    obtain ⟨text, -, covered⟩ := exists_text_of_holds holds
    exact ⟨text.translatedIn, covered, mt (full_iff distinct covered).mp some⟩

/-- The texts of a namespace have numbers in the order in which they are first seen in its tables.
The numbers grow, and none reads like a key that calls use as it is; but any smaller number that no
text of the namespace has reads like such a key. The search for a number always ends, at the first
one that is free. -/
theorem ordinals_least (distinct : languages.Nodup) (space : String) :
    let numbering := (ofTables catalogue tree languages defaultLanguage).1
    let texts := numbering.texts.entries.filter fun text => text.1.space = space
    texts.map Prod.fst =
        ((catalogue.readings tree languages).map Reading.identity).eraseDups.filter
          (fun identity => identity.space = space) ∧
      (texts.map fun text => text.2.ordinal).Pairwise (· < ·) ∧
      (∀ text ∈ texts, ∀ key, catalogue.Literal tree languages defaultLanguage space key →
        toString text.2.ordinal ≠ key) ∧
      (∀ text ∈ texts, ∀ number < text.2.ordinal, (∀ other ∈ texts, other.2.ordinal ≠ number) →
        catalogue.Literal tree languages defaultLanguage space (toString number)) ∧
      ∀ keys start, ∃ steps ≤ keys.length, firstFree keys start = start + steps ∧
        toString (start + steps) ∉ keys ∧ ∀ earlier < steps, toString (start + earlier) ∈ keys := by
  intro numbering texts
  have assigned : numbering.texts.entries = assign _ _ _ := entries_ofCoverage
  have here {text : Identity × NumberedText} (h : text ∈ texts) :
      text ∈ assign (literalKeys (coverageOf catalogue tree languages defaultLanguage) languages)
          .empty (coverageOf catalogue tree languages defaultLanguage).entries ∧
        text.1.space = space := by
    obtain ⟨among, inSpace⟩ := List.mem_filter.mp h
    exact ⟨assigned ▸ among, of_decide_eq_true inSpace⟩
  refine ⟨?_, ?_, fun text h key literal => ?_, fun text h number less free => ?_, firstFree_steps⟩
  · -- The order is that in which the tables were read.
    have keys : numbering.texts.keys = _ := keys_ofCoverage.trans keys_coverageOf
    rw [← keys, OrderedMap.keys, List.filter_map]
    rfl
  · -- The numbers grow.
    refine List.pairwise_map.mpr ?_
    have grows := (assigned ▸ pairwise_assign _ _ : numbering.texts.entries.Pairwise _)
    refine (grows.filter _).imp_of_mem fun {text later} h h' less => less ?_
    rw [(here h).2, (here h').2]
  · -- No number reads like a literal key.
    rintro rfl
    obtain ⟨among, rfl⟩ := here h
    exact not_literal_of_mem_assign among ((mem_literalKeys_coverageOf distinct).mpr literal)
  · -- A number that was passed over belongs to another text or reads like a literal key.
    obtain ⟨among, rfl⟩ := here h
    rcases assigned_or_literal among (Nat.zero_le number) less with
      ⟨other, among', inSpace, found⟩ | literal
    · refine absurd found (free other (List.mem_filter.mpr ⟨assigned ▸ among', ?_⟩))
      exact decide_eq_true inSpace
    · exact (mem_literalKeys_coverageOf distinct).mp literal

/-- The greetings have numbers in their order, and no number reads like the key `1`, whose text
waits for its translation. -/
theorem greetings_numbered :
    let numbering := (ofTables greetings greetingFiles ["en"] none).1
    let texts := numbering.texts.entries.filter fun text => text.1.space = "default"
    texts.map Prod.fst = [⟨"default", "Hello"⟩, ⟨"default", "1"⟩, ⟨"default", "Bye"⟩] ∧
      (texts.map fun text => text.2.ordinal).Pairwise (· < ·) ∧
      ∀ text ∈ texts, toString text.2.ordinal ≠ "1" := by
  intro numbering texts
  obtain ⟨order, grows, apart, -, -⟩ :=
    @ordinals_least greetings greetingFiles ["en"] none (by decide) "default"
  refine ⟨order.trans (by decide +kernel), grows, fun text h => apart text h "1" ⟨?_, ?_⟩⟩
  · decide +kernel
  · decide +kernel

end Numbering

end Phrasebook
