import Mathlib.Data.List.TakeWhile
import Phrasebook.Proofs.OrderedMap
import Phrasebook.Proofs.Values
import Phrasebook.Table.File

/-!
# Written tables

A table that is written is read back, and its text is read in whole or not at all.

- `toJson_eq`: the text of a table, entry by entry;
- `Table.parse_toJson`: the table is read back;
- `Table.of_parse_part`: nothing shorter than the text is read as a table.
-/

namespace Phrasebook.Json

/-! ## Members on lines of their own -/

/-- The members of an object whose brace is open, one a line, and the brace that closes it. -/
def memberLines : Bool → List (String × String) → List Char
  | true, [] => ['\x7d']
  | false, [] => ['\n', '\x7d']
  | isFirst, (name, value) :: rest =>
    (if isFirst then [] else [',']) ++ '\n' :: ' ' :: ' ' :: ' ' :: ' ' :: '"' ::
      (name.toList.flatMap escape ++ '"' :: ':' :: ' ' :: '"' ::
        (value.toList.flatMap escape ++ '"' :: memberLines false rest))

/-- Members with strings as their values. -/
def textMembers (entries : List (String × String)) : List (String × Value) :=
  entries.map fun (name, value) => (name, .string value)

theorem memberLines_cons_append {isFirst : Bool} {name value : String}
    {rest : List (String × String)} (after : List Char) :
    memberLines isFirst ((name, value) :: rest) ++ after =
      (if isFirst then [] else [',']) ++ '\n' :: ' ' :: ' ' :: ' ' :: ' ' :: '"' ::
        (name.toList.flatMap escape ++ '"' :: ':' :: ' ' :: '"' ::
          (value.toList.flatMap escape ++ '"' :: (memberLines false rest ++ after))) := by
  simp [memberLines]

theorem length_le_memberLines (isFirst : Bool) (entries : List (String × String)) :
    entries.length ≤ (memberLines isFirst entries).length := by
  induction entries generalizing isFirst with
  | nil => exact Nat.zero_le _
  | cons entry rest ih =>
    obtain ⟨name, value⟩ := entry
    have others := ih false
    simp only [memberLines, List.length_append, List.length_cons]
    omega

theorem run_hasMember_end (isFirst : Bool) (after : List Char) :
    (hasMember isFirst).run (memberLines isFirst [] ++ after) = .ok (false, '\x7d' :: after) := by
  cases isFirst <;> rfl

theorem run_hasMember_line (isFirst : Bool) (after : List Char) :
    (hasMember isFirst).run ((if isFirst then [] else [',']) ++ '\n' :: ' ' :: ' ' :: ' ' :: ' ' ::
      '"' :: after) = .ok (true, '"' :: after) := by
  cases isFirst <;> rfl

/-- A written string is read as a value. -/
theorem run_read_quoted (depth : Nat) (letters rest : List Char) :
    (Value.read depth).run (' ' :: '"' :: (letters.flatMap escape ++ '"' :: rest)) =
      .ok (.string (String.ofList letters), rest) := by
  have text : readText.run ('"' :: (letters.flatMap escape ++ '"' :: rest)) =
      .ok (String.ofList letters, rest) := by
    rw [run_readText, List.tail_cons, readLetters_quoted]
    rfl
  have here : (' ' :: '"' :: (letters.flatMap escape ++ '"' :: rest)).dropWhile isBlank =
      '"' :: (letters.flatMap escape ++ '"' :: rest) := rfl
  rw [Value.read.eq_def, run_bind_of_ok (run_nextVisible _), here]
  show (do return .string (← readText) : Reading Value).run _ = _
  rw [run_bind_of_ok text]
  rfl

/-- Written members are read back. -/
theorem run_readMembers_lines {depth bound : Nat} {isFirst : Bool}
    {entries : List (String × String)} (enough : entries.length < bound) (after : List Char) :
    (readMembers (Value.read depth) bound isFirst).run (memberLines isFirst entries ++ after) =
      .ok (textMembers entries, after) := by
  induction entries generalizing bound isFirst with
  | nil =>
    obtain ⟨bound, rfl⟩ := Nat.exists_eq_add_one_of_ne_zero (Nat.ne_of_gt enough)
    rw [readMembers, run_bind_of_ok (run_hasMember_end isFirst after)]
    rfl
  | cons entry rest ih =>
    obtain ⟨name, value⟩ := entry
    obtain ⟨bound, rfl⟩ := Nat.exists_eq_add_one_of_ne_zero (Nat.ne_zero_of_lt enough)
    have others := @ih bound false (Nat.lt_of_succ_lt_succ enough)
    have named (text : List Char) :
        readText.run ('"' :: (name.toList.flatMap escape ++ '"' :: text)) = .ok (name, text) := by
      rw [run_readText, List.tail_cons, readLetters_quoted]
      show Except.ok (String.ofList name.toList, text) = _
      rw [String.ofList_toList]
    have colon (text : List Char) : passColon.run (':' :: text) = .ok ((), text) := rfl
    rw [memberLines_cons_append, readMembers, run_bind_of_ok (run_hasMember_line isFirst _),
      if_pos rfl, run_bind_of_ok (named _), run_bind_of_ok (colon _),
      run_bind_of_ok (run_read_quoted depth _ _), run_bind_of_ok others, String.ofList_toList]
    rfl

/-! ## Parts of written members -/

/-- The beginning of a text of blanks and a mark is blank, or holds the mark. -/
theorem visible_of_part {blanks text others : List Char} {c : Char}
    (blank : ∀ b ∈ blanks, isBlank b = true) (visible : isBlank c = false)
    (h : text <+: blanks ++ c :: others) :
    text.dropWhile isBlank = [] ∨
      ∃ more, text = blanks ++ c :: more ∧ more <+: others ∧
        text.dropWhile isBlank = c :: more := by
  rcases prefix_append_cases h with ⟨part, -⟩ | ⟨rest, rfl, part⟩
  · exact .inl (List.dropWhile_eq_nil_iff.mpr fun b here => blank b (part.subset here))
  · rw [List.dropWhile_append_of_pos blank]
    rcases List.prefix_cons_iff.mp part with rfl | ⟨more, rfl, inside⟩
    · exact .inl rfl
    · exact .inr ⟨more, rfl, inside, by rw [List.dropWhile_cons_of_neg (by rw [visible]; decide)]⟩

/-- An object does not end with blanks. -/
theorem not_of_hasMember_blank {isFirst more : Bool} {text opened : List Char}
    (blank : text.dropWhile isBlank = [])
    (done : (hasMember isFirst).run text = .ok (more, opened)) : False := by
  rcases of_hasMember done with ⟨-, rfl, closing⟩ | ⟨-, quote, ⟨-, rfl⟩ | ⟨-, others, comma, -⟩⟩
  · rw [blank] at closing
    cases closing
  · rw [blank] at quote
    cases quote
  · rw [blank] at comma
    cases comma

/-- After the last member the object ends. -/
theorem of_hasMember_end {isFirst more : Bool} {after text opened : List Char}
    (h : text <+: memberLines isFirst [] ++ after)
    (done : (hasMember isFirst).run text = .ok (more, opened)) :
    more = false ∧ ∃ tail, opened = '\x7d' :: tail ∧ text = memberLines isFirst [] ++ tail ∧
      tail <+: after := by
  have visible : text.dropWhile isBlank = [] ∨
      ∃ tail, text = memberLines isFirst [] ++ tail ∧ tail <+: after ∧
        text.dropWhile isBlank = '\x7d' :: tail := by
    cases isFirst with
    | true => exact @visible_of_part [] _ _ _ nofun rfl h
    | false => exact @visible_of_part ['\n'] _ _ _ (by simp [isBlank]) rfl h
  rcases visible with blank | ⟨tail, whole, inside, visible⟩
  · exact (not_of_hasMember_blank blank done).elim
  · rcases of_hasMember done with ⟨rfl, rfl, -⟩ | ⟨-, quote, ⟨-, rfl⟩ | ⟨-, others, comma, -⟩⟩
    · exact ⟨rfl, tail, visible, whole, inside⟩
    · rw [visible] at quote
      cases quote
    · rw [visible] at comma
      cases comma

/-- Before it the next name comes. -/
theorem of_hasMember_line {isFirst more : Bool} {others text opened : List Char}
    (h : text <+: (if isFirst then [] else [',']) ++ '\n' :: ' ' :: ' ' :: ' ' :: ' ' :: '"' ::
      others)
    (done : (hasMember isFirst).run text = .ok (more, opened)) :
    more = true ∧ ∃ tail, opened = '"' :: tail ∧ tail <+: others ∧
      text = (if isFirst then [] else [',']) ++ '\n' :: ' ' :: ' ' :: ' ' :: ' ' :: '"' ::
        tail := by
  -- In a beginning of the line, either all is blank or the quote is there.
  have visible {line : List Char}
      (part : line <+: '\n' :: ' ' :: ' ' :: ' ' :: ' ' :: '"' :: others) :=
    @visible_of_part ['\n', ' ', ' ', ' ', ' '] _ _ '"' (by simp [isBlank]) rfl part
  cases isFirst with
  | true =>
    rcases visible h with blank | ⟨tail, whole, inside, visible⟩
    · exact (not_of_hasMember_blank blank done).elim
    · rcases of_hasMember done with ⟨-, rfl, closing⟩ | ⟨rfl, -, ⟨-, rfl⟩ | ⟨impossible, -⟩⟩
      · rw [visible] at closing
        cases closing
      · exact ⟨rfl, tail, visible, inside, whole⟩
      · cases impossible
  | false =>
    rcases @visible_of_part [] _ _ ',' nofun rfl h with blank | ⟨line, rfl, part, visibleComma⟩
    · exact (not_of_hasMember_blank blank done).elim
    · rcases of_hasMember done with ⟨-, rfl, closing⟩ |
        ⟨rfl, quote, ⟨impossible, -⟩ | ⟨-, line', comma, rfl⟩⟩
      · rw [visibleComma] at closing
        cases closing
      · cases impossible
      · rw [visibleComma] at comma
        cases comma
        rcases visible part with blank | ⟨tail, whole, inside, visible⟩
        · rw [blank] at quote
          cases quote
        · exact ⟨rfl, tail, visible, inside, by rw [whole]; rfl⟩

/-- The beginning of a written string is read as a value only if it holds the closing quote. -/
theorem of_read_quoted {depth : Nat} {letters after text rest : List Char} {value : Value}
    (h : text <+: ' ' :: '"' :: (letters.flatMap escape ++ '"' :: after))
    (done : (Value.read depth).run text = .ok (value, rest)) :
    text = ' ' :: '"' :: (letters.flatMap escape ++ '"' :: rest) ∧ rest <+: after ∧
      value = .string (String.ofList letters) := by
  rcases @visible_of_part [' '] _ _ '"' (by simp [isBlank]) rfl h with
    blank | ⟨tail, rfl, inside, quote⟩
  · exact (not_of_read_blank blank done).elim
  · obtain ⟨read, rfl, letters⟩ := of_read_quote quote done
    obtain ⟨rfl, others, rfl⟩ := readLetters_of_prefix inside letters
    exact ⟨rfl, others, rfl⟩

/-- The beginning of written members is read only if it holds the closing brace. -/
theorem of_readMembers_lines {depth bound : Nat} {isFirst : Bool}
    {entries : List (String × String)} {after text rest : List Char}
    {members : List (String × Value)} (h : text <+: memberLines isFirst entries ++ after)
    (done : (readMembers (Value.read depth) bound isFirst).run text = .ok (members, rest)) :
    text = memberLines isFirst entries ++ rest ∧ rest <+: after ∧
      members = textMembers entries := by
  induction entries generalizing bound isFirst text members with
  | nil =>
    obtain ⟨more, opened, bound, rfl, first, done⟩ := of_readMembers done
    obtain ⟨rfl, tail, rfl, whole, inside⟩ := of_hasMember_end h first
    rw [if_neg Bool.false_ne_true] at done
    obtain ⟨rfl, rfl⟩ := done
    exact ⟨whole, inside, rfl⟩
  | cons entry others ih =>
    obtain ⟨name, value⟩ := entry
    -- Each step leaves a beginning of what is written after it, so the next one can be told, too.
    obtain ⟨more, opened, bound, rfl, first, steps⟩ := of_readMembers done
    rw [memberLines_cons_append] at h
    obtain ⟨rfl, tail, rfl, inside, rfl⟩ := of_hasMember_line h first
    rw [if_pos rfl] at steps
    obtain ⟨name', named, coloned, found, read, members', second, third, fourth, fifth, rfl⟩ :=
      steps
    obtain ⟨letters, rfl, whole⟩ := of_readText second
    obtain ⟨rfl, part, rfl⟩ := readLetters_of_prefix inside whole
    have colon : named = ':' :: coloned ∧
        coloned <+: ' ' :: '"' :: (value.toList.flatMap escape ++ '"' ::
          (memberLines false others ++ after)) := by
      have third := of_passColon third
      rcases @visible_of_part [] _ _ ':' nofun rfl part with blank | ⟨more, rfl, inside, visible⟩
      · rw [blank] at third
        cases third
      · rw [visible] at third
        cases third
        exact ⟨rfl, inside⟩
    obtain ⟨rfl, valued⟩ := colon
    obtain ⟨rfl, lines, rfl⟩ := of_read_quoted valued fourth
    obtain ⟨rfl, left, rfl⟩ := ih lines fifth
    refine ⟨(memberLines_cons_append rest).symm, left, ?_⟩
    rw [String.ofList_toList, String.ofList_toList]
    rfl

/-! ## Whole texts -/

theorem readAll_of_run {α : Type} {reading : Reading α} {text : String} {value : α}
    (h : reading.run text.toList = .ok (value, [])) : readAll reading text = .ok value := by
  unfold readAll
  dsimp only
  rw [run_bind_of_ok h]
  rfl

theorem of_readAll {α : Type} {reading : Reading α} {text : String} {value : α}
    (h : readAll reading text = .ok value) :
    ∃ rest, reading.run text.toList = .ok (value, rest) ∧ rest.dropWhile isBlank = [] := by
  unfold readAll at h
  dsimp only at h
  generalize done : StateT.run _ text.toList = result at h
  rcases result with fault | ⟨found, last⟩
  · cases h
  · cases h
    obtain ⟨read, rest, first, second⟩ := of_run_bind done
    obtain ⟨c?, final, third, fourth⟩ := of_run_bind second
    obtain ⟨rfl, rfl⟩ := of_nextVisible third
    split at fourth
    · rename_i none
      cases fourth
      exact ⟨rest, first, List.head?_eq_none_iff.mp none⟩
    · exact (not_of_refuseNext fourth).elim

/-- An object is read from its brace on. -/
theorem run_read_object (depth : Nat) (text : List Char) :
    (Value.read (depth + 1)).run ('\x7b' :: text) =
      (do
        let members ← readMembers (Value.read depth) (text.length + 1) true
        return .object (OrderedMap.ofList members).entries : Reading Value).run text := by
  rw [Value.read.eq_def]
  rfl

end Phrasebook.Json

namespace Phrasebook.Table

open Json

variable {table found : Table}

/-! ## Tables -/

theorem writeMembers_eq (entries : List (String × String)) :
    (Layout.lines 4).writeMembers 1 (textMembers entries) =
      entries.map fun (name, value) =>
        quote name.toList ++ [':', ' '] ++ quote value.toList := by
  induction entries with
  | nil => rfl
  | cons entry rest ih =>
    show _ :: (Layout.lines 4).writeMembers 1 (textMembers rest) = _
    rw [ih]
    rfl

/-- The lines of some members, with commas between them. -/
theorem commas_lines (entry : String × String) (rest : List (String × String)) :
    commas (((entry :: rest).map fun (name, value) =>
      quote name.toList ++ [':', ' '] ++ quote value.toList).map
        ((Layout.lines 4).breakAt 1 ++ ·)) ++
        ['\n', '\x7d'] = memberLines true (entry :: rest) := by
  have line (entry : String × String) (rest : List (String × String)) :
      (Layout.lines 4).breakAt 1 ++
        (quote entry.1.toList ++ [':', ' '] ++ quote entry.2.toList) ++ memberLines false rest =
      memberLines true (entry :: rest) := by
    simp [Layout.lines, List.replicate, quote, memberLines]
  induction rest generalizing entry with
  | nil => exact line entry []
  | cons next rest ih =>
    rw [← line entry (next :: rest)]
    show (_ ++ ',' :: commas _) ++ _ = _ ++ ',' :: memberLines true (next :: rest)
    rw [← ih next]
    simp

/-- The text of a table, entry by entry. -/
theorem toJson_eq : table.toJson = '\x7b' :: memberLines true table.entries := by
  show (Layout.lines 4).enclose 0 '\x7b' '\x7d'
    ((Layout.lines 4).writeMembers 1 (textMembers table.entries)) = _
  rw [writeMembers_eq]
  cases table.entries with
  | nil => rfl
  | cons entry rest =>
    rw [← commas_lines]
    show '\x7b' :: (_ ++ ['\n'] ++ ['\x7d']) = _
    rw [List.append_assoc]
    rfl

theorem entriesOf_textMembers (entries : List (String × String)) :
    entriesOf (textMembers entries) = .ok entries := by
  induction entries with
  | nil => rfl
  | cons entry rest ih =>
    show (do return entry :: (← entriesOf (textMembers rest))) = _
    rw [ih]
    rfl

theorem map_fst_textMembers (entries : List (String × String)) :
    (textMembers entries).map Prod.fst = entries.map Prod.fst := by
  simp [textMembers]

/-- The members of a table make up the table. -/
theorem ofList_entriesOf :
    (do
      return OrderedMap.ofList
        (← entriesOf (OrderedMap.ofList (textMembers table.entries)).entries)) =
      Except.ok table := by
  have members : ((textMembers table.entries).map Prod.fst).Nodup := by
    rw [map_fst_textMembers]
    exact table.distinct
  rw [OrderedMap.entries_ofList members, entriesOf_textMembers]
  exact congrArg Except.ok (OrderedMap.ext_entries (OrderedMap.entries_ofList table.distinct))

/-- A table is made of the members of an object. -/
theorem parse_eq {text : List Char} {members : List (String × Value)}
    (h : (readMembers (Value.read 126) (text.length + 1) true).run text = .ok (members, [])) :
    Table.parse ('\x7b' :: text) =
      (do return OrderedMap.ofList (← entriesOf (OrderedMap.ofList members).entries)) := by
  have read : Json.parse (String.ofList ('\x7b' :: text)) =
      .ok (.object (OrderedMap.ofList members).entries) := by
    refine readAll_of_run ?_
    rw [String.toList_ofList]
    show (Value.read (126 + 1)).run _ = _
    rw [run_read_object, run_bind_of_ok h]
    rfl
  unfold Table.parse
  rw [read]

/-- A written table is read back. -/
theorem parse_toJson : Table.parse table.toJson = .ok table := by
  have lines := @run_readMembers_lines 126 ((memberLines true table.entries).length + 1) true
    table.entries (Nat.lt_succ_of_le (length_le_memberLines true table.entries)) []
  rw [List.append_nil] at lines
  rw [toJson_eq, parse_eq lines]
  exact ofList_entriesOf

theorem of_parse {text : List Char} (h : Table.parse ('\x7b' :: text) = .ok found) :
    ∃ members rest, (readMembers (Value.read 126) (text.length + 1) true).run text =
      .ok (members, rest) ∧ rest.dropWhile isBlank = [] ∧
        (do return OrderedMap.ofList (← entriesOf (OrderedMap.ofList members).entries)) =
          Except.ok found := by
  unfold Table.parse at h
  cases parsed : Json.parse (String.ofList ('\x7b' :: text)) with
  | error fault =>
    rw [parsed] at h
    cases h
  | ok value =>
    obtain ⟨rest, run, blank⟩ := of_readAll parsed
    rw [String.toList_ofList] at run
    change (Value.read (126 + 1)).run ('\x7b' :: text) = .ok (value, rest) at run
    rw [run_read_object] at run
    obtain ⟨members, middle, read, last⟩ := of_run_bind run
    cases last
    rw [parsed] at h
    exact ⟨members, rest, read, blank, h⟩

/-- The beginning of a written table is not read, unless it is the whole. -/
theorem of_parse_part {text : List Char} (h : '\x7b' :: text <+: table.toJson)
    (read : Table.parse ('\x7b' :: text) = .ok found) :
    '\x7b' :: text = table.toJson ∧ found = table := by
  rw [toJson_eq] at h ⊢
  have inside := (List.cons_prefix_cons.mp h).2
  obtain ⟨members, rest, lines, -, whole⟩ := of_parse read
  have all : text <+: memberLines true table.entries ++ [] := by rwa [List.append_nil]
  obtain ⟨rfl, left, rfl⟩ := of_readMembers_lines all lines
  obtain rfl := List.prefix_nil.mp left
  have same := ofList_entriesOf.symm.trans whole
  cases same
  exact ⟨by rw [List.append_nil], rfl⟩

end Phrasebook.Table
