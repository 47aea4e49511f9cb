import Phrasebook.Proofs.InsideTexts
import Phrasebook.Proofs.TableText

/-!
# Table files that are read back

A file in which a table has taken the place of another is read back, unless the words that mark its
parts stand in the text of the table.

- `TableFile.Clear`: the marks are not in the way;
- `TableFile.Hides`: braces in a text of the table are taken for the table;
- `parse_renderWith_iff`: what is read from the file.
-/

namespace Phrasebook.TableFile

/-- The words that mark the parts of a file are not in the text of a table, except for the start
word if the file has it before its table. -/
structure Clear (file : TableFile) (table : Table) : Prop where
  noEnd : ¬ endWord.toList <:+: table.toJson
  noStart : startWord.toList <:+: file.before ∨ ¬ startWord.toList <:+: table.toJson

instance (file : TableFile) (table : Table) : Decidable (file.Clear table) :=
  decidable_of_iff (¬ endWord.toList <:+: table.toJson ∧
      (startWord.toList <:+: file.before ∨ ¬ startWord.toList <:+: table.toJson))
    ⟨fun h => ⟨h.1, h.2⟩, fun h => ⟨h.noEnd, h.noStart⟩⟩

/-- A file without a start word has one in the text of a table, followed by a pair of braces with
nothing between them and then by the end word. -/
def Hides (file : TableFile) (table : Table) : Prop :=
  ¬ startWord.toList <:+: file.before ∧
    ∃ body rest lead gap inner trail,
      Text.splitAtWord? endWord.toList table.toJson = some (body, rest) ∧
      Text.splitAtWord? startWord.toList body =
        some (lead, gap ++ '\x7b' :: (inner ++ '\x7d' :: trail)) ∧
      '\x7b' ∉ gap ∧ (∀ c ∈ inner, Json.isBlank c = true) ∧ '\x7d' ∉ trail

variable {file other : TableFile} {table found : Table} {lead gap trail tail : List Char}

/-! ## The text of a table -/

theorem toJson_eq_braces (table : Table) :
    ∃ inner, table.toJson = '\x7b' :: (inner ++ ['\x7d']) := by
  have ends (isFirst : Bool) (entries : List (String × String)) :
      ∃ inner, Json.memberLines isFirst entries = inner ++ ['\x7d'] := by
    induction entries generalizing isFirst with
    | nil =>
      cases isFirst with
      | true => exact ⟨[], rfl⟩
      | false => exact ⟨['\n'], rfl⟩
    | cons entry rest ih =>
      obtain ⟨name, value⟩ := entry
      obtain ⟨inner, same⟩ := ih false
      rw [Json.memberLines, same]
      exact ⟨(if isFirst then [] else [',']) ++ '\n' :: ' ' :: ' ' :: ' ' :: ' ' :: '"' ::
        (name.toList.flatMap Json.escape ++ '"' :: ':' :: ' ' :: '"' ::
          (value.toList.flatMap Json.escape ++ '"' :: inner)), by simp⟩
  obtain ⟨inner, same⟩ := ends true table.entries
  exact ⟨inner, by rw [Table.toJson_eq, same]⟩

/-! ## Cutting the text -/

/-- What is read from a text that is cut at its marks. -/
theorem parse_of_cut {text : String} {head lead body gap rest inner trail tail : List Char}
    (ends : Text.splitAtWord? endWord.toList text.toList = some (head, tail))
    (starts : splitAtStart head = (lead, body))
    (opens : Text.splitAtWord? ['\x7b'] body = some (gap, rest))
    (closes : Text.splitAtLast? '\x7d' rest = some (inner, trail))
    (read : Table.parse ('\x7b' :: (inner ++ ['\x7d'])) = .ok found) :
    parse text = .ok ⟨lead ++ gap, '\x7b' :: (inner ++ ['\x7d']),
      trail ++ endWord.toList ++ tail, found⟩ := by
  unfold parse
  rw [ends]
  dsimp only
  rw [starts]
  dsimp only
  rw [opens]
  dsimp only
  rw [closes]
  dsimp only
  rw [read]
  rfl

/-- Without the end word in the text of the table, the file ends where it did. -/
theorem cut_end_outside (framed : file.Framed lead gap trail tail)
    (absent : ¬ endWord.toList <:+: table.toJson) :
    Text.splitAtWord? endWord.toList (file.before ++ table.toJson ++ file.after) =
      some (file.before ++ table.toJson ++ trail, tail) := by
  obtain ⟨inner, same⟩ := toJson_eq_braces table
  rw [same] at absent ⊢
  -- Behind the table, the mark is the first one.
  have closing : Text.splitAtWord? endWord.toList ('\x7d' :: (trail ++ endWord.toList ++ tail)) =
      some ('\x7d' :: trail, tail) := by
    refine (Text.splitAtWord?_eq_some_iff endWord_ne_nil).mpr ⟨by simp, fun inside => ?_⟩
    rcases (Text.infix_append_cons_iff endWord_ne_nil (by decide)).mp
      (show endWord.toList <:+: [] ++ '\x7d' :: (trail ++ endWord.toList.dropLast) from inside) with
      none | inside
    · exact endWord_ne_nil (List.infix_nil.mp none)
    · exact framed.firstEnd inside
  -- In front of its last brace, there is none.
  have body : ¬ endWord.toList <:+: file.before ++ '\x7b' :: inner := by
    rw [Text.infix_append_cons_iff endWord_ne_nil (by decide)]
    rintro (inside | inside)
    · exact framed.noEnd inside
    · exact absent (inside.trans ⟨['\x7b'], ['\x7d'], by simp⟩)
  have whole := (Text.splitAtWord?_behind endWord_ne_nil (by decide) body closing).1
  rw [framed.after]
  simpa using whole

/-- With the end word in it, the file ends there. -/
theorem cut_end_inside (framed : file.Framed lead gap trail tail) {body rest : List Char}
    (found : Text.splitAtWord? endWord.toList table.toJson = some (body, rest)) :
    Text.splitAtWord? endWord.toList (file.before ++ table.toJson ++ file.after) =
      some (file.before ++ body, rest ++ file.after) ∧ ∃ others, body = '\x7b' :: others := by
  obtain ⟨inner, same⟩ := toJson_eq_braces table
  rw [same] at found ⊢
  have whole := Text.splitAtWord?_append endWord_ne_nil found file.after
  rw [List.append_assoc]
  exact Text.splitAtWord?_behind endWord_ne_nil (by decide) framed.noEnd whole

theorem lead_of_absent (framed : file.Framed lead gap trail tail)
    (absent : ¬ startWord.toList <:+: file.before) :
    lead = [] ∧ gap = file.before ∧ ¬ startWord.toList <:+: trail := by
  rcases framed.start with ⟨front, rfl, -⟩ | ⟨rfl, -, after⟩
  · refine absurd ⟨front, gap, ?_⟩ absent
    rw [framed.before]
  · exact ⟨rfl, framed.before.symm, after⟩

/-- A start word before the table is found again; without one, a text that does not have it either
is looked at from the start of the file on. -/
theorem cut_start (framed : file.Framed lead gap trail tail) {others : List Char}
    (clean : startWord.toList <:+: file.before ∨ ¬ startWord.toList <:+: others) :
    splitAtStart (file.before ++ '\x7b' :: others) = (lead, gap ++ '\x7b' :: others) := by
  by_cases started : startWord.toList <:+: file.before
  · rcases framed.start with ⟨front, rfl, first⟩ | ⟨rfl, absent, -⟩
    · have found : Text.splitAtWord? startWord.toList (file.before ++ '\x7b' :: others) =
          some (front, gap ++ '\x7b' :: others) := by
        refine (Text.splitAtWord?_eq_some_iff startWord_ne_nil).mpr ⟨?_, first⟩
        rw [framed.before]
        simp
      unfold splitAtStart
      rw [found]
    · rw [framed.before] at started
      exact absurd started absent
  · obtain ⟨rfl, rfl, -⟩ := lead_of_absent framed started
    have none : Text.splitAtWord? startWord.toList (file.before ++ '\x7b' :: others) = none := by
      rw [Text.splitAtWord?_eq_none_iff, Text.infix_append_cons_iff startWord_ne_nil (by decide)]
      exact fun inside => inside.elim started (clean.resolve_left started)
    unfold splitAtStart
    rw [none]

/-- A start word that only the table has is found in it. -/
theorem cut_start_inside {others front rest : List Char}
    (absent : ¬ startWord.toList <:+: file.before)
    (found : Text.splitAtWord? startWord.toList ('\x7b' :: others) = some (front, rest)) :
    splitAtStart (file.before ++ '\x7b' :: others) =
      (file.before ++ front ++ startWord.toList, rest) := by
  unfold splitAtStart
  rw [(Text.splitAtWord?_behind startWord_ne_nil (by decide) absent found).1]

/-! ## Reading -/

theorem start_of_braces {inner others : List Char}
    (same : table.toJson = '\x7b' :: (inner ++ ['\x7d']))
    (clean : ¬ startWord.toList <:+: table.toJson) (after : ¬ startWord.toList <:+: others) :
    ¬ startWord.toList <:+: inner ++ '\x7d' :: others := by
  rw [Text.infix_append_cons_iff startWord_ne_nil (by decide)]
  rintro (inside | inside)
  · refine clean (inside.trans ?_)
    rw [same]
    exact ⟨['\x7b'], ['\x7d'], by simp⟩
  · exact after inside

/-- A table is read back where no mark is in the way. -/
theorem parse_renderWith (framed : file.Framed lead gap trail tail) (clear : file.Clear table) :
    parse (file.renderWith table) =
      .ok ⟨file.before, table.toJson, file.after, table⟩ := by
  obtain ⟨inner, same⟩ := toJson_eq_braces table
  -- The four cuts of `parse`, from the outermost to the braces.
  have ends := cut_end_outside framed clear.noEnd
  have clean : startWord.toList <:+: file.before ∨
      ¬ startWord.toList <:+: inner ++ '\x7d' :: trail := by
    by_cases started : startWord.toList <:+: file.before
    · exact .inl started
    · exact .inr (start_of_braces same (clear.noStart.resolve_left started)
        (lead_of_absent framed started).2.2)
  have starts : splitAtStart (file.before ++ table.toJson ++ trail) =
      (lead, gap ++ '\x7b' :: (inner ++ '\x7d' :: trail)) := by
    rw [← cut_start framed clean, same]
    simp
  have opens := Text.splitAtWord?_singleton.mpr
    ⟨(rfl : gap ++ '\x7b' :: (inner ++ '\x7d' :: trail) = _), framed.noOpening⟩
  have closes := Text.splitAtLast?_eq_some_iff.mpr
    ⟨(rfl : inner ++ '\x7d' :: trail = _), framed.noClosing⟩
  have read : Table.parse ('\x7b' :: (inner ++ ['\x7d'])) = .ok table := by
    rw [← same]
    exact Table.parse_toJson
  unfold renderWith
  rw [parse_of_cut (by rwa [String.toList_ofList]) starts opens closes read, ← framed.before,
    ← framed.after, ← same]

/-- Braces in a text of the table are read as an empty table where the marks are around them. -/
theorem parse_hidden (framed : file.Framed lead gap trail tail) (hides : file.Hides table) :
    ∃ other, parse (file.renderWith table) = .ok other ∧ other.table = .empty := by
  obtain ⟨absent, body, rest, lead', gap', inner, trail', found, started, noOpening, blank,
    noClosing⟩ := hides
  obtain ⟨ends, others, rfl⟩ := cut_end_inside framed found
  have starts := cut_start_inside absent started
  have opens := Text.splitAtWord?_singleton.mpr
    ⟨(rfl : gap' ++ '\x7b' :: (inner ++ '\x7d' :: trail') = _), noOpening⟩
  have closes := Text.splitAtLast?_eq_some_iff.mpr
    ⟨(rfl : inner ++ '\x7d' :: trail' = _), noClosing⟩
  unfold renderWith
  rw [parse_of_cut (by rwa [String.toList_ofList]) starts opens closes (Table.parse_blank blank)]
  exact ⟨_, rfl, rfl⟩

theorem append_start_ne_nil (front gap : List Char) : front ++ startWord.toList ++ gap ≠ [] := by
  intro none
  exact startWord_ne_nil (List.append_eq_nil_iff.mp (List.append_eq_nil_iff.mp none).1).2

/-- A text that ends at an end word inside the table is read only if a start word is inside, too. -/
theorem hides_of_end (framed : file.Framed lead gap trail tail)
    (h : parse (file.renderWith table) = .ok other) (ended : endWord.toList <:+: table.toJson) :
    file.Hides table ∧ other.table = .empty := by
  obtain ⟨body, rest, found⟩ := Text.exists_splitAtWord? ended
  obtain ⟨whole, -⟩ := (Text.splitAtWord?_eq_some_iff endWord_ne_nil).mp found
  obtain ⟨cut, others, rfl⟩ := cut_end_inside framed found
  obtain ⟨head, lead', body', gap', rest', inner, trail', tail', ends, starts, opens, closes, read,
    -⟩ := parse_eq_ok h
  unfold renderWith at ends
  rw [String.toList_ofList] at ends
  cases ends.symm.trans cut
  obtain ⟨cutClosing, noClosing⟩ := Text.splitAtLast?_eq_some_iff.mp closes
  by_cases clean : startWord.toList <:+: file.before ∨ ¬ startWord.toList <:+: '\x7b' :: others
  · -- The table would be read from its own brace, and so in whole.
    have clean := clean.imp_right fun absent inside => absent (List.infix_cons inside)
    cases starts.symm.trans (cut_start framed clean)
    cases opens.symm.trans (Text.splitAtWord?_singleton.mpr ⟨rfl, framed.noOpening⟩)
    have part : '\x7b' :: (inner ++ ['\x7d']) <+: table.toJson := by
      rw [whole, cutClosing]
      exact ⟨trail' ++ endWord.toList ++ rest, by simp⟩
    obtain ⟨same, -⟩ := Table.of_parse_part part read
    have longer := congrArg List.length (same.trans whole)
    have filled := List.length_pos_iff.mpr endWord_ne_nil
    rw [cutClosing] at longer
    simp only [List.length_cons, List.length_append, List.length_nil] at longer
    omega
  · -- The start word inside opens the text, and what is behind it is a part of the table.
    rw [not_or, not_not] at clean
    obtain ⟨absent, started⟩ := clean
    obtain ⟨front, after, inside⟩ := Text.exists_splitAtWord? started
    obtain ⟨within, -⟩ := (Text.splitAtWord?_eq_some_iff startWord_ne_nil).mp inside
    cases starts.symm.trans (cut_start_inside absent inside)
    obtain ⟨cutOpening, noOpening⟩ := Text.splitAtWord?_singleton.mp opens
    rw [cutClosing] at cutOpening
    rw [cutOpening] at inside within
    have place : table.toJson = (front ++ startWord.toList ++ gap') ++
        '\x7b' :: (inner ++ '\x7d' :: (trail' ++ endWord.toList ++ rest)) := by
      rw [whole, within]
      simp
    obtain ⟨blank, empty⟩ := (Table.parse_inside_iff place (append_start_ne_nil _ _)).mp read
    exact ⟨⟨absent, _, rest, front, gap', inner, trail', found, inside, noOpening, blank,
      noClosing⟩, empty⟩

/-- A text that ends behind the table is read only if its own brace opens it. -/
theorem clear_of_no_end (framed : file.Framed lead gap trail tail)
    (h : parse (file.renderWith table) = .ok other) (open' : ¬ endWord.toList <:+: table.toJson) :
    file.Clear table := by
  refine ⟨open', ?_⟩
  by_contra misled
  rw [not_or, not_not] at misled
  obtain ⟨absent, started⟩ := misled
  obtain ⟨inner₀, same⟩ := toJson_eq_braces table
  obtain ⟨head, lead', body', gap', rest', inner, trail', tail', ends, starts, opens, closes, read,
    -⟩ := parse_eq_ok h
  unfold renderWith at ends
  rw [String.toList_ofList] at ends
  cases ends.symm.trans (cut_end_outside framed open')
  obtain ⟨front, after, inside⟩ := Text.exists_splitAtWord? started
  have inside := Text.splitAtWord?_append startWord_ne_nil inside trail
  obtain ⟨within, -⟩ := (Text.splitAtWord?_eq_some_iff startWord_ne_nil).mp inside
  rw [same, List.cons_append] at inside
  rw [List.append_assoc, same, List.cons_append] at starts
  cases starts.symm.trans (cut_start_inside absent inside)
  obtain ⟨cutOpening, noOpening⟩ := Text.splitAtWord?_singleton.mp opens
  obtain ⟨cutClosing, noClosing⟩ := Text.splitAtLast?_eq_some_iff.mp closes
  rw [cutOpening, cutClosing, same] at within
  -- The last brace in the text is the one that closes the table.
  have last : Text.splitAtLast? '\x7d' ('\x7b' :: (inner₀ ++ ['\x7d']) ++ trail) =
      some ('\x7b' :: inner₀, trail) :=
    Text.splitAtLast?_eq_some_iff.mpr ⟨by simp, framed.noClosing⟩
  have last' : Text.splitAtLast? '\x7d' ('\x7b' :: (inner₀ ++ ['\x7d']) ++ trail) =
      some (front ++ startWord.toList ++ gap' ++ '\x7b' :: inner, trail') :=
    Text.splitAtLast?_eq_some_iff.mpr ⟨by rw [within]; simp, noClosing⟩
  obtain ⟨braces, -⟩ := Prod.mk.inj (Option.some.inj (last.symm.trans last'))
  have place : table.toJson = (front ++ startWord.toList ++ gap') ++
      '\x7b' :: (inner ++ '\x7d' :: []) := by
    rw [same, ← List.cons_append, braces]
    simp
  have filled := append_start_ne_nil front gap'
  obtain ⟨blank, -⟩ := (Table.parse_inside_iff place filled).mp read
  rcases List.mem_append.mp (Table.within_of_toJson place filled).quote_mem with quote | quote
  · exact absurd (blank _ quote) (by decide)
  · exact absurd quote (by decide)

/-- What is read from a file in which a table was put in place of its own. -/
theorem parse_renderWith_iff (framed : file.Framed lead gap trail tail) :
    (∃ other, parse (file.renderWith table) = .ok other ∧ other.table = found) ↔
      file.Clear table ∧ found = table ∨ file.Hides table ∧ found = .empty := by
  constructor
  · rintro ⟨other, h, rfl⟩
    by_cases ended : endWord.toList <:+: table.toJson
    · exact .inr (hides_of_end framed h ended)
    · have clear := clear_of_no_end framed h ended
      cases h.symm.trans (parse_renderWith framed clear)
      exact .inl ⟨clear, rfl⟩
  · rintro (⟨clear, rfl⟩ | ⟨hides, rfl⟩)
    · exact ⟨_, parse_renderWith framed clear, rfl⟩
    · exact parse_hidden framed hides

end Phrasebook.TableFile
