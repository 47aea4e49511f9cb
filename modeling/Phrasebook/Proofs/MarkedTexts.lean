import Phrasebook.Proofs.RewrittenFiles

/-!
# Marks in the texts of a table

The words that mark the parts of a table file are made of capital letters and digits. No escape of
the written form holds a capital letter, so such a word is in the text of a table if and only if it
is in one of its keys or values.

- `IsMark`: a word of capital letters and digits;
- `infix_toJson_iff`: where a mark is in the text of a table;
- `TableFile.clear_iff_spares`: which texts a table may hold so that the marks around it in a file
  are left alone;
- `TableFile.Unmarked`: a text that holds no mark of a table file;
- `TableFile.clear_of_unmarked`: a table of such texts leaves the marks around it alone.
-/

namespace Phrasebook

/-- A word of capital letters and digits that begins with a letter. -/
structure IsMark (word : List Char) : Prop where
  first : word.head?.any Char.isUpper = true
  letters : ∀ c ∈ word, (c.isUpper || c.isDigit) = true

namespace Json

variable {word text others : List Char}

/-! ## Written letters -/

theorem escape_of_letter {c : Char} (letter : (c.isUpper || c.isDigit) = true) :
    escape c = [c] := by
  have other {d : Char} (h : (d.isUpper || d.isDigit) = false) : c ≠ d := by
    rintro rfl
    rw [letter] at h
    cases h
  have visible : ¬ c.toNat < 0x20 := by
    have upper : c.isUpper = decide (c.val ≥ 'A'.val ∧ c.val ≤ 'Z'.val) := rfl
    have digit : c.isDigit = (decide (c.val ≥ '0'.val) && decide (c.val ≤ '9'.val)) := rfl
    simp only [upper, digit, Bool.or_eq_true, decide_eq_true_eq, Bool.and_eq_true, ge_iff_le,
      UInt32.le_iff_toNat_le] at letter
    show ¬ c.val.toNat < 32
    have first : 'A'.val.toNat = 65 := rfl
    have zero : '0'.val.toNat = 48 := rfl
    omega
  unfold escape
  rw [if_neg (other rfl), if_neg (other rfl), if_neg (other rfl), if_neg (other rfl),
    if_neg (other rfl), if_neg (other rfl), if_neg (other rfl), if_neg visible]

/-- A capital letter is in no written form but its own. -/
theorem eq_of_mem_escape {c d : Char} (capital : c.isUpper = true) (h : c ∈ escape d) : c = d := by
  have other {e : Char} (lower : e.isUpper = false) : c ≠ e := by
    rintro rfl
    rw [capital] at lower
    cases lower
  have digits : ∀ value < 16, (hexDigit value).isUpper = false := by decide
  rcases escape_cases d with ⟨same, -⟩ | ⟨e, same, -, escaped⟩ | ⟨control, same⟩
  · rw [same] at h
    exact List.mem_singleton.mp h
  · rw [same, List.mem_cons, List.mem_singleton] at h
    rcases h with slash | rfl
    · exact absurd slash (other rfl)
    · -- The letters behind a backslash are small ones and signs.
      unfold simpleEscape? at escaped
      split at escaped <;> first | cases capital | cases escaped
  · rw [same] at h
    simp only [List.mem_cons, List.not_mem_nil, or_false] at h
    rcases h with slash | u | zero | zero | digit | digit
    · exact absurd slash (other rfl)
    · exact absurd u (other rfl)
    · exact absurd zero (other rfl)
    · exact absurd zero (other rfl)
    · exact absurd digit (other (digits _ (by omega)))
    · exact absurd digit (other (digits _ (Nat.mod_lt _ (by decide))))

/-- Letters are the beginning of a written string if they are the beginning of the string. -/
theorem prefix_flatMap_escape_iff (plain : ∀ c ∈ word, (c.isUpper || c.isDigit) = true) :
    word <+: text.flatMap escape ↔ word <+: text := by
  induction word generalizing text with
  | nil => exact iff_of_true List.nil_prefix List.nil_prefix
  | cons c rest ih =>
    obtain ⟨letter, plain⟩ := List.forall_mem_cons.mp plain
    cases text with
    | nil => rfl
    | cons d more =>
      rw [List.flatMap_cons, List.cons_prefix_cons]
      -- Letters and digits are written as themselves, and no other character begins with one.
      by_cases same : c = d
      · rw [← same, escape_of_letter letter, List.singleton_append, List.cons_prefix_cons, ih plain]
      · have apart : ¬ c :: rest <+: escape d ++ more.flatMap escape := by
          rcases escape_cases d with ⟨written, -⟩ | ⟨e, written, -⟩ | ⟨-, written⟩
          · rw [written]
            exact fun led => same (List.cons_prefix_cons.mp led).1
          · rw [written]
            intro led
            rw [(List.cons_prefix_cons.mp led).1] at letter
            cases letter
          · rw [written]
            intro led
            rw [(List.cons_prefix_cons.mp led).1] at letter
            cases letter
        exact iff_of_false apart fun led => same led.1

/-- Text that does not have the first letter of a word hides none of it. -/
theorem infix_append_iff_of_notMem {c : Char} {rest front : List Char} (clean : c ∉ front) :
    c :: rest <:+: front ++ others ↔ c :: rest <:+: others := by
  induction front with
  | nil => rfl
  | cons d more ih =>
    obtain ⟨other, clean⟩ := not_or.mp (mt List.mem_cons.mpr clean)
    rw [List.cons_append, List.infix_cons_iff, ih clean]
    exact or_iff_right fun led => other (List.cons_prefix_cons.mp led).1

/-- A mark is in a written string if and only if it is in the string. -/
theorem infix_flatMap_escape_iff (mark : IsMark word) :
    word <:+: text.flatMap escape ↔ word <:+: text := by
  obtain ⟨first, letters⟩ := mark
  cases word with
  | nil => cases first
  | cons c rest =>
    have capital : c.isUpper = true := first
    induction text with
    | nil => rfl
    | cons d more ih =>
      have led := @prefix_flatMap_escape_iff (c :: rest) (d :: more) letters
      have behind : c :: rest <:+: more.flatMap escape ↔ c :: rest <:+: more := ih
      rw [List.infix_cons_iff, ← behind, ← led, List.flatMap_cons]
      by_cases same : c = d
      · rw [← same, escape_of_letter (letters c List.mem_cons_self), List.singleton_append,
          List.infix_cons_iff]
      · -- What is written for another letter holds no capital letter, so the word is behind it.
        have clean : c ∉ escape d := fun h => same (eq_of_mem_escape capital h)
        rw [infix_append_iff_of_notMem clean]
        refine (or_iff_right fun inside => ?_).symm
        rw [← List.flatMap_cons, led] at inside
        exact same (List.cons_prefix_cons.mp inside).1

/-! ## Written tables -/

theorem IsMark.notMem (mark : IsMark word) {c : Char} (h : (c.isUpper || c.isDigit) = false) :
    c ∉ word := by
  intro here
  rw [mark.letters c here] at h
  cases h

theorem infix_memberLines_iff (mark : IsMark word) {isFirst : Bool}
    {entries : List (String × String)} :
    word <:+: memberLines isFirst entries ↔
      ∃ entry ∈ entries, word <:+: entry.1.toList ∨ word <:+: entry.2.toList := by
  obtain ⟨c, rest, rfl⟩ : ∃ c rest, word = c :: rest := by
    cases word with
    | nil => cases mark.first
    | cons c rest => exact ⟨c, rest, rfl⟩
  have filled : c :: rest ≠ [] := List.cons_ne_nil c rest
  have capital : c.isUpper = true := mark.first
  -- No capital stands in what is written around the texts.
  have signs {front : List Char} (clean : front.all fun d => !d.isUpper) : c ∉ front := by
    intro here
    have small := List.all_eq_true.mp clean c here
    rw [capital] at small
    cases small
  -- A word without quotes is on one side of each quote.
  have quoted {text others : List Char} := @Text.infix_append_cons_iff (c :: rest) text others '"'
    filled (IsMark.notMem mark rfl)
  induction entries generalizing isFirst with
  | nil =>
    refine iff_of_false (fun inside => ?_) (by simp)
    have here := inside.subset List.mem_cons_self
    cases isFirst with
    | true => exact signs (by decide) here
    | false => exact signs (by decide) here
  | cons entry more ih =>
    obtain ⟨name, value⟩ := entry
    -- One line: an opening, the name, a colon, the value and the lines that follow.
    have line : memberLines isFirst ((name, value) :: more) =
        ((if isFirst then [] else [',']) ++ ['\n', ' ', ' ', ' ', ' ', '"']) ++
          (name.toList.flatMap escape ++ '"' :: ([':', ' ', '"'] ++
            (value.toList.flatMap escape ++ '"' :: memberLines false more))) := by
      simp [memberLines]
    have opening : c ∉ (if isFirst then [] else [',']) ++ ['\n', ' ', ' ', ' ', ' ', '"'] := by
      cases isFirst with
      | true => exact signs (by decide)
      | false => exact signs (by decide)
    have later : c :: rest <:+: memberLines false more ↔
        ∃ entry ∈ more, c :: rest <:+: entry.1.toList ∨ c :: rest <:+: entry.2.toList := ih
    rw [line, infix_append_iff_of_notMem opening, quoted,
      infix_append_iff_of_notMem (signs (by decide)), quoted, later, infix_flatMap_escape_iff mark,
      infix_flatMap_escape_iff mark, List.exists_mem_cons_iff, or_assoc]

end Json

/-- A mark is in the text of a table if and only if it is in a key or a value. -/
theorem Table.infix_toJson_iff {word : List Char} (mark : IsMark word) {table : Table} :
    word <:+: table.toJson ↔
      ∃ entry ∈ table.entries, word <:+: entry.1.toList ∨ word <:+: entry.2.toList := by
  rw [Table.toJson_eq, List.infix_cons_iff, Json.infix_memberLines_iff mark]
  refine or_iff_right fun led => ?_
  obtain ⟨first, -⟩ := mark
  cases word with
  | nil => cases first
  | cons c rest =>
    rw [(List.cons_prefix_cons.mp led).1] at first
    cases first

namespace TableFile

theorem isMark_endWord : IsMark endWord.toList :=
  ⟨by decide, List.all_eq_true.mp (by decide)⟩

theorem isMark_startWord : IsMark startWord.toList :=
  ⟨by decide, List.all_eq_true.mp (by decide)⟩

/-- No key and no value of a table holds the end word, nor the start word unless that stands before
the table in the file. -/
structure Spares (file : TableFile) (table : Table) : Prop where
  noEnd : ∀ entry ∈ table.entries,
    ¬ endWord.toList <:+: entry.1.toList ∧ ¬ endWord.toList <:+: entry.2.toList
  noStart : ¬ startWord.toList <:+: file.before → ∀ entry ∈ table.entries,
    ¬ startWord.toList <:+: entry.1.toList ∧ ¬ startWord.toList <:+: entry.2.toList

/-- A table may hold such texts if and only if the marks around it stay what they are. -/
theorem clear_iff_spares {file : TableFile} {table : Table} :
    file.Clear table ↔ file.Spares table := by
  have without {word : List Char} (mark : IsMark word) :
      ¬ word <:+: table.toJson ↔
        ∀ entry ∈ table.entries, ¬ word <:+: entry.1.toList ∧ ¬ word <:+: entry.2.toList := by
    rw [Table.infix_toJson_iff mark]
    simp only [not_exists, not_and, not_or]
  constructor
  · rintro ⟨noEnd, noStart⟩
    refine ⟨(without isMark_endWord).mp noEnd, fun absent => ?_⟩
    exact (without isMark_startWord).mp (noStart.resolve_left absent)
  · rintro ⟨noEnd, noStart⟩
    refine ⟨(without isMark_endWord).mpr noEnd, ?_⟩
    rw [or_iff_not_imp_left, without isMark_startWord]
    exact noStart

/-- A text that holds neither mark of a table file. -/
def Unmarked (text : String) : Prop :=
  ¬ endWord.toList <:+: text.toList ∧ ¬ startWord.toList <:+: text.toList

instance (text : String) : Decidable (Unmarked text) :=
  inferInstanceAs (Decidable (_ ∧ _))

/-- A table whose texts hold no mark is not in the way of the marks around it. -/
theorem clear_of_unmarked {table : Table}
    (unmarked : ∀ entry ∈ table.entries, Unmarked entry.1 ∧ Unmarked entry.2) (file : TableFile) :
    file.Clear table := by
  refine clear_iff_spares.mpr ⟨fun entry here => ?_, fun _ entry here => ?_⟩
  · exact ⟨(unmarked entry here).1.1, (unmarked entry here).2.1⟩
  · exact ⟨(unmarked entry here).1.2, (unmarked entry here).2.2⟩

end TableFile

end Phrasebook
