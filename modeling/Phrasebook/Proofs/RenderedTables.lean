import Phrasebook.Proofs.MarkedTexts

/-!
# Tables that are rendered and read

A table that is rendered into a file is read back, with the same text before and after it, as long
as its texts keep clear of the words that mark its place. Only the start word is harmless in them,
if the file already has one before its table.

- `TableFile.Opened`: a file that was read, or a new one;
- `TableFile.read_back_iff_spares`: the tables that spare the marks in a file, and no others, are
  read back.
-/

namespace Phrasebook.TableFile

/-- A file that was read, or a new one. -/
inductive Opened : TableFile → Prop where
  | read {text : String} {file : TableFile} (h : parse text = .ok file) : Opened file
  | new : Opened scaffold

variable {file : TableFile} {table : Table}

theorem Opened.framed (opened : file.Opened) :
    ∃ lead gap trail tail, file.Framed lead gap trail tail := by
  cases opened with
  | read h => exact (framed_of_parse h).2.2
  | new => exact framed_scaffold

/-- No word stands in the text of the empty table. -/
theorem spares_empty (file : TableFile) : file.Spares .empty :=
  ⟨List.forall_mem_nil _, fun _ => List.forall_mem_nil _⟩

/-- A table that is rendered into a file is read back with the same entries in the same order and
with the same text before and after it, so that rendering it again gives the same file, if and only
if no key or value holds a word that would be taken for a mark. -/
theorem read_back_iff_spares (opened : file.Opened) (table : Table) :
    (∃ again, parse (file.renderWith table) = .ok again ∧ again.table = table ∧
        again.before = file.before ∧ again.region = table.toJson ∧ again.after = file.after ∧
          again.render = file.renderWith table) ↔
      file.Spares table := by
  obtain ⟨lead, gap, trail, tail, framed⟩ := opened.framed
  constructor
  · rintro ⟨again, read, same, -⟩
    -- The marks are clear, or the table is empty and has no texts to speak of.
    rcases (parse_renderWith_iff framed).mp ⟨again, read, same⟩ with ⟨clear, -⟩ | ⟨-, rfl⟩
    · exact clear_iff_spares.mp clear
    · exact spares_empty file
  · intro spares
    exact ⟨_, parse_renderWith framed (clear_iff_spares.mpr spares), rfl, rfl, rfl, rfl, rfl⟩

/-- A table with a brace, a quote, a line feed, a backslash and even the start word in its texts. -/
def awkward : Table := .ofList [("I18NTABLESYMBOL \x7b", "\"\x7d\n"), ("\\", "")]

/-- A new file has the start word before its table, so it takes such a table. A file without a start
word does not: the start word in the table is taken for its own. -/
theorem awkward_read_back :
    (∃ again, parse (scaffold.renderWith awkward) = .ok again ∧ again.table = awkward ∧
        again.before = scaffold.before ∧ again.region = awkward.toJson ∧
          again.after = scaffold.after ∧ again.render = scaffold.renderWith awkward) ∧
      ∃ file, parse "\x7b\x7d I18NTABLEEND" = .ok file ∧
        ¬ ∃ again, parse (file.renderWith awkward) = .ok again ∧ again.table = awkward ∧
          again.before = file.before ∧ again.region = awkward.toJson ∧
            again.after = file.after ∧ again.render = file.renderWith awkward := by
  refine ⟨(read_back_iff_spares .new awkward).mpr ⟨by decide, by decide⟩, ?_⟩
  -- Nothing marks the start in this file, so a start word in the table is taken for the mark.
  have unmarked : ((parse "\x7b\x7d I18NTABLEEND").toOption.any fun file =>
      decide (¬ startWord.toList <:+: file.before)) = true := by decide +kernel
  cases read : parse "\x7b\x7d I18NTABLEEND" with
  | error fault =>
    rw [read] at unmarked
    cases unmarked
  | ok file =>
    rw [read] at unmarked
    refine ⟨file, rfl, ?_⟩
    rw [read_back_iff_spares (.read read)]
    intro spares
    exact (spares.noStart (of_decide_eq_true unmarked) _ List.mem_cons_self).1 (by decide)

end Phrasebook.TableFile
