import Phrasebook.Proofs.Search
import Phrasebook.Table.File

/-!
# The text around a table

A table file is read by the marks around its table. What stands around the table of a file that was
read, or of a new file, holds the same marks around every table that is written in its place.

- `TableFile.Framed`: the marks that the text around a table holds;
- `framed_of_parse`, `framed_scaffold`: what is read and what is new is framed.
-/

namespace Phrasebook.TableFile

/-- The marks around a table: no end word before it, the start word before it or nowhere, the brace
of the table as the first one after the start word, and the end word after it with no brace between
them. -/
structure Framed (file : TableFile) (lead gap trail tail : List Char) : Prop where
  before : file.before = lead ++ gap
  after : file.after = trail ++ endWord.toList ++ tail
  noOpening : '\x7b' ∉ gap
  noClosing : '\x7d' ∉ trail
  noEnd : ¬ endWord.toList <:+: file.before
  firstEnd : ¬ endWord.toList <:+: trail ++ endWord.toList.dropLast
  start : (∃ front, lead = front ++ startWord.toList ∧
      ¬ startWord.toList <:+: front ++ startWord.toList.dropLast) ∨
    lead = [] ∧ ¬ startWord.toList <:+: gap ∧ ¬ startWord.toList <:+: trail

theorem endWord_ne_nil : endWord.toList ≠ [] := by decide

theorem startWord_ne_nil : startWord.toList ≠ [] := by decide

/-- A text that is read is cut at its marks. -/
theorem parse_eq_ok {text : String} {file : TableFile} (h : parse text = .ok file) :
    ∃ head lead body gap rest inner trail tail,
      Text.splitAtWord? endWord.toList text.toList = some (head, tail) ∧
      splitAtStart head = (lead, body) ∧
      Text.splitAtWord? ['\x7b'] body = some (gap, rest) ∧
      Text.splitAtLast? '\x7d' rest = some (inner, trail) ∧
      Table.parse ('\x7b' :: (inner ++ ['\x7d'])) = .ok file.table ∧
      file = ⟨lead ++ gap, '\x7b' :: (inner ++ ['\x7d']), trail ++ endWord.toList ++ tail,
        file.table⟩ := by
  unfold parse at h
  split at h
  · rename_i head tail ends
    split at h
    rename_i lead body starts
    split at h
    · rename_i gap rest opens
      split at h
      · rename_i inner trail closes
        dsimp only at h
        cases read : Table.parse ('\x7b' :: (inner ++ ['\x7d'])) with
        | error fault =>
          rw [read] at h
          cases h
        | ok table =>
          rw [read] at h
          cases h
          -- All cuts were found and the table was read; every other branch is an error.
          exact ⟨head, lead, body, gap, rest, inner, trail, tail, ends, starts, opens, closes, read,
            rfl⟩
      · cases h
    · cases h
  · cases h

theorem splitAtStart_eq {text lead body : List Char} (h : splitAtStart text = (lead, body)) :
    text = lead ++ body ∧
      ((∃ front, lead = front ++ startWord.toList ∧
        ¬ startWord.toList <:+: front ++ startWord.toList.dropLast) ∨
      lead = [] ∧ ¬ startWord.toList <:+: body) := by
  unfold splitAtStart at h
  split at h
  · rename_i front after found
    obtain ⟨whole, first⟩ := (Text.splitAtWord?_eq_some_iff startWord_ne_nil).mp found
    cases h
    exact ⟨whole, .inl ⟨front, rfl, first⟩⟩
  · rename_i none
    cases h
    exact ⟨rfl, .inr ⟨rfl, Text.splitAtWord?_eq_none_iff.mp none⟩⟩

/-- The table of a file that is read stands in braces, and is framed. -/
theorem framed_of_parse {text : String} {file : TableFile} (h : parse text = .ok file) :
    text.toList = file.before ++ file.region ++ file.after ∧
      Table.parse file.region = .ok file.table ∧
        ∃ lead gap trail tail, file.Framed lead gap trail tail := by
  obtain ⟨head, lead, body, gap, rest, inner, trail, tail, ends, starts, opens, closes, read,
    whole⟩ := parse_eq_ok h
  obtain ⟨cutEnd, firstEnd⟩ := (Text.splitAtWord?_eq_some_iff endWord_ne_nil).mp ends
  obtain ⟨cutStart, start⟩ := splitAtStart_eq starts
  obtain ⟨cutOpening, noOpening⟩ := Text.splitAtWord?_singleton.mp opens
  obtain ⟨cutClosing, noClosing⟩ := Text.splitAtLast?_eq_some_iff.mp closes
  rw [whole]
  dsimp only
  have head_eq : head = lead ++ gap ++ '\x7b' :: (inner ++ '\x7d' :: trail) := by
    rw [cutStart, cutOpening, cutClosing, List.append_assoc]
  -- An end word on either side would have been found before the one that was.
  refine ⟨?_, read, lead, gap, trail, tail, rfl, rfl, noOpening, noClosing, ?_, ?_, ?_⟩
  · rw [cutEnd, head_eq]
    simp
  · intro inside
    refine firstEnd (inside.trans ?_)
    rw [head_eq]
    exact ⟨[], _, by simp; rfl⟩
  · intro inside
    refine firstEnd (inside.trans ?_)
    rw [head_eq]
    exact ⟨lead ++ gap ++ '\x7b' :: (inner ++ ['\x7d']), [], by simp⟩
  · refine start.imp_right fun ⟨empty, first⟩ => ⟨empty, fun inside => ?_, fun inside => ?_⟩
    · refine first (inside.trans ?_)
      rw [cutOpening]
      exact (List.prefix_append _ _).isInfix
    · refine first (inside.trans ?_)
      rw [cutOpening, cutClosing]
      exact ⟨gap ++ '\x7b' :: (inner ++ ['\x7d']), [], by simp⟩

theorem framed_scaffold : ∃ lead gap trail tail, scaffold.Framed lead gap trail tail := by
  refine ⟨"/* eslint-disable */\n\n/** I18NTABLESYMBOL".toList, " */\nexport default ".toList,
    "; /** ".toList, " */\n".toList, by decide, by decide, by decide, by decide, ?_, ?_, ?_⟩
  · decide
  · decide
  · exact .inl ⟨"/* eslint-disable */\n\n/** ".toList, by decide, by decide⟩

end Phrasebook.TableFile
