import Phrasebook.Proofs.Values
import Phrasebook.Proofs.WrittenTables

/-!
# Objects inside written texts

A text of a table may hold braces. What stands from such a brace on is never read as a table with
entries: the quotes that follow close the texts of the table that is written, and what stands
between two of its texts is none.

- `Sealed`: a part of a written string, its closing quote and what follows;
- `Mute`: a text that no string is read from;
- `Mute.of_read`: what is read inside a written string is no string;
- `Table.parse_inside_iff`: only braces with nothing between them are read there.
-/

namespace Phrasebook.Json

/-- A beginning of what is left of a written string, its closing quote, and `after`. -/
def Sealed (after text : List Char) : Prop :=
  ∃ letters : List Char, text <+: letters.flatMap escape ++ '"' :: after

/-- No string is read from a beginning of the text. -/
def Mute (after : List Char) : Prop :=
  ∀ text, text <+: after → ∃ fault, readLetters text = .error fault

variable {after text rest : List Char}

/-- A written string goes on with a letter, with an escape, or with its closing quote. -/
theorem Sealed.cases {c : Char} (h : Sealed after (c :: text)) :
    c = '"' ∧ text <+: after ∨ c = '\\' ∨ c ≠ '"' ∧ Sealed after text := by
  obtain ⟨letters, inside⟩ := h
  cases letters with
  | nil =>
    obtain ⟨same, left⟩ := List.cons_prefix_cons.mp inside
    exact .inl ⟨same, left⟩
  | cons d others =>
    rw [List.flatMap_cons, List.append_assoc] at inside
    rcases escape_cases d with ⟨same, quote, -⟩ | ⟨e, same, -⟩ | ⟨-, same⟩
    · rw [same] at inside
      obtain ⟨rfl, left⟩ := List.cons_prefix_cons.mp inside
      exact .inr (.inr ⟨quote, others, left⟩)
    · rw [same] at inside
      exact .inr (.inl (List.cons_prefix_cons.mp inside).1)
    · rw [same] at inside
      exact .inr (.inl (List.cons_prefix_cons.mp inside).1)

theorem Sealed.tail {c : Char} (quote : c ≠ '"') (slash : c ≠ '\\') (h : Sealed after (c :: text)) :
    Sealed after text := by
  rcases h.cases with ⟨same, -⟩ | same | ⟨-, left⟩
  · exact absurd same quote
  · exact absurd same slash
  · exact left

theorem Sealed.quote (h : Sealed after ('"' :: text)) : text <+: after := by
  rcases h.cases with ⟨-, left⟩ | impossible | ⟨other, -⟩
  · exact left
  · cases impossible
  · exact absurd rfl other

/-- What is left after words and numbers is still sealed. -/
theorem Sealed.passes (h : Sealed after text) (left : Passes text rest) : Sealed after rest := by
  obtain ⟨front, rfl, quotes, slashes⟩ := left
  induction front with
  | nil => exact h
  | cons c others ih =>
    rw [List.mem_cons, not_or] at quotes slashes
    exact ih (h.tail (Ne.symm quotes.1) (Ne.symm slashes.1)) quotes.2 slashes.2

/-! ## Lists and objects -/

/-- Another item or member comes after a comma. -/
theorem passes_comma {others : List Char} (comma : text.dropWhile isBlank = ',' :: others) :
    Passes text (others.dropWhile isBlank) := by
  have blanks := passes_dropWhile_isBlank text
  rw [comma] at blanks
  exact (blanks.trans (.one (by decide) (by decide))).trans (passes_dropWhile_isBlank others)

theorem of_hasItem {isFirst more : Bool} (h : (hasItem isFirst).run text = .ok (more, rest)) :
    Passes text rest ∧ (more = false → rest.head? = some ']') := by
  unfold hasItem at h
  obtain ⟨c?, middle, first, h⟩ := of_run_bind h
  obtain ⟨rfl, rfl⟩ := of_nextVisible first
  have blanks := passes_dropWhile_isBlank text
  split at h
  · exact (not_of_refuseNext h).elim
  · rename_i closing
    cases h
    exact ⟨blanks, fun _ => closing⟩
  · -- Something else follows: an item if it is the first, else a comma in front of one.
    rename_i c other here
    split at h
    · cases h
      exact ⟨blanks, nofun⟩
    · split at h
      · rename_i comma
        obtain ⟨others, whole⟩ := List.head?_eq_some_iff.mp here
        rw [comma] at whole
        rw [whole] at h
        obtain ⟨⟨⟩, tail, pass, h⟩ := of_run_bind h
        cases pass
        obtain ⟨c?, final, second, h⟩ := of_run_bind h
        obtain ⟨rfl, rfl⟩ := of_nextVisible second
        split at h
        · exact (not_of_refuseNext h).elim
        · exact (not_of_refuseNext h).elim
        · cases h
          exact ⟨passes_comma whole, nofun⟩
      · exact (not_of_refuseNext h).elim

theorem passes_hasMember {isFirst more : Bool}
    (h : (hasMember isFirst).run text = .ok (more, rest)) : Passes text rest := by
  rcases of_hasMember h with ⟨-, rfl, -⟩ | ⟨-, -, ⟨-, rfl⟩ | ⟨-, others, comma, rfl⟩⟩
  · exact passes_dropWhile_isBlank text
  · exact passes_dropWhile_isBlank text
  · exact passes_comma comma

/-- Items are read inside a string if each is. -/
theorem Sealed.of_readItems {α : Type} {item : Reading α} {bound : Nat} {isFirst : Bool}
    {items : List α}
    (each : ∀ text rest value, Sealed after text → item.run text = .ok (value, rest) →
      Sealed after rest)
    (h : Sealed after text) (done : (readItems item bound isFirst).run text = .ok (items, rest)) :
    Sealed after rest := by
  induction bound generalizing isFirst text items with
  | zero => exact (not_of_refuse done).elim
  | succ bound ih =>
    unfold readItems at done
    obtain ⟨more, opened, first, done⟩ := of_run_bind done
    obtain ⟨passed, ends⟩ := of_hasItem first
    have sealed := h.passes passed
    cases more with
    | false =>
      obtain ⟨others, rfl⟩ := List.head?_eq_some_iff.mp (ends rfl)
      cases done
      exact sealed.tail (by decide) (by decide)
    | true =>
      obtain ⟨value, read, second, done⟩ := of_run_bind done
      obtain ⟨others, left, third, done⟩ := of_run_bind done
      cases done
      exact ih (each _ _ _ sealed second) third

/-- An object that is open inside a string ends there, unless the quote that closes the string opens
a name. -/
theorem of_readMembers_sealed {α : Type} {value : Reading α} {bound : Nat} {isFirst : Bool}
    {members : List (String × α)} (h : Sealed after text)
    (done : (readMembers value bound isFirst).run text = .ok (members, rest)) :
    (members = [] ∧ Sealed after rest) ∨
      ∃ named letters left bound' coloned found read others, named <+: after ∧
        readLetters named = .ok (letters, left) ∧ passColon.run left = .ok ((), coloned) ∧
          value.run coloned = .ok (found, read) ∧
            (readMembers value bound' false).run read = .ok (others, rest) ∧
              members = (String.ofList letters, found) :: others := by
  obtain ⟨more, opened, bound, rfl, first, steps⟩ := of_readMembers done
  have sealed := h.passes (passes_hasMember first)
  cases more with
  -- There is no member, and the brace that closes the object is passed.
  | false =>
    obtain ⟨rfl, rfl⟩ := steps
    rcases of_hasMember first with ⟨-, -, closing⟩ | ⟨impossible, -⟩
    · obtain ⟨others, rfl⟩ := List.head?_eq_some_iff.mp closing
      exact .inl ⟨rfl, sealed.tail (by decide) (by decide)⟩
    · cases impossible
  -- The name begins at a quote, and what follows that is a beginning of `after`.
  | true =>
    obtain ⟨name, left, coloned, found, read, others, second, third, fourth, fifth, rfl⟩ := steps
    rcases of_hasMember first with ⟨impossible, -⟩ | ⟨-, quote, -⟩
    · cases impossible
    · obtain ⟨named, rfl⟩ := List.head?_eq_some_iff.mp quote
      obtain ⟨letters, rfl, whole⟩ := of_readText second
      exact .inr ⟨named, letters, left, bound, coloned, found, read, others, sealed.quote, whole,
        third, fourth, fifth, rfl⟩

theorem Mute.of_readMembers (mute : Mute after) {α : Type} {value : Reading α} {bound : Nat}
    {isFirst : Bool} {members : List (String × α)} (h : Sealed after text)
    (done : (readMembers value bound isFirst).run text = .ok (members, rest)) :
    members = [] ∧ Sealed after rest := by
  rcases of_readMembers_sealed h done with
    ended | ⟨named, letters, left, _, _, _, _, _, part, read, -⟩
  · exact ended
  · obtain ⟨fault, unread⟩ := mute named part
    rw [unread] at read
    cases read

/-! ## Values -/

/-- No value that is read inside a string is a string itself. -/
theorem Mute.of_read (mute : Mute after) {depth : Nat} {value : Value} (h : Sealed after text)
    (done : (Value.read depth).run text = .ok (value, rest)) :
    Sealed after rest ∧ value.text? = none := by
  induction depth using Nat.strongRecOn generalizing text rest value with
  | ind depth ih =>
    obtain ⟨c, others, same, read⟩ := Json.of_read done
    have sealed := h.passes (passes_dropWhile_isBlank text)
    rw [same] at sealed
    rcases read with ⟨rfl, letters, read, -⟩ | ⟨rfl, inner, bound, items, rfl, read, rfl⟩ |
      ⟨rfl, inner, bound, members, rfl, read, rfl⟩ | ⟨-, passed, none⟩
    · -- The quote that opens the string would be the one that closes the string around it.
      obtain ⟨fault, unread⟩ := mute others sealed.quote
      rw [unread] at read
      cases read
    · have open' := sealed.tail (by decide) (by decide)
      exact ⟨open'.of_readItems (fun _ _ _ h done => (ih inner (Nat.lt_succ_self _) h done).1) read,
        rfl⟩
    · have open' := sealed.tail (by decide) (by decide)
      exact ⟨(mute.of_readMembers open' read).2, rfl⟩
    · exact ⟨sealed.passes passed, none⟩

/-! ## Where a text of a table is cut -/

/-- What follows a brace in the written members of a table: the rest of a value and a text from
which no string is read, or the rest of a name and a value. -/
def Within (text : List Char) : Prop :=
  ∃ letters after : List Char, text = letters.flatMap escape ++ '"' :: after ∧
    (Mute after ∨ ∃ value last : List Char,
      after = ':' :: ' ' :: '"' :: (value.flatMap escape ++ '"' :: last) ∧ Mute last)

theorem Within.quote_mem (h : Within text) : '"' ∈ text := by
  obtain ⟨letters, after, rfl, -⟩ := h
  exact List.mem_append_right _ List.mem_cons_self

theorem mem_escape_brace {c : Char} (h : '\x7b' ∈ escape c) : escape c = ['\x7b'] := by
  have digits : ∀ value < 16, '\x7b' ≠ hexDigit value := by decide
  rcases escape_cases c with ⟨same, -⟩ | ⟨d, same, -, simple⟩ | ⟨control, same⟩
  · rw [same] at h ⊢
    rw [List.mem_singleton.mp h]
  · rw [same, List.mem_cons, List.mem_singleton] at h
    rcases h with impossible | rfl
    · cases impossible
    · cases simple
  · have high := digits (c.toNat / 16) (by omega)
    have low := digits (c.toNat % 16) (by omega)
    rw [same] at h
    simp [high, low] at h

/-- A mark that is not in the first part of a text is found behind it. -/
theorem exists_behind {mark : Char} {first second front others : List Char}
    (clean : mark ∉ first) (h : first ++ second = front ++ mark :: others) :
    ∃ front', second = front' ++ mark :: others := by
  rcases List.append_eq_append_iff.mp h with ⟨front', -, same⟩ | ⟨extra, rfl, same⟩
  · exact ⟨front', same⟩
  · cases extra with
    | nil => exact ⟨[], same.symm⟩
    | cons c rest =>
      obtain ⟨rfl, -⟩ := List.cons.inj same
      exact absurd (List.mem_append_right front List.mem_cons_self) clean

/-- A brace in a written string stands for itself, so the rest of the string follows it. -/
theorem sealed_of_brace {letters front others : List Char}
    (h : letters.flatMap escape ++ '"' :: after = front ++ '\x7b' :: others) :
    (∃ letters : List Char, others = letters.flatMap escape ++ '"' :: after) ∨
      ∃ front', after = front' ++ '\x7b' :: others := by
  induction letters generalizing front with
  | nil => exact .inr (@exists_behind _ ['"'] _ _ _ (by decide) h)
  | cons c rest ih =>
    rw [List.flatMap_cons, List.append_assoc] at h
    by_cases brace : '\x7b' ∈ escape c
    · rw [mem_escape_brace brace] at h
      cases front with
      | nil =>
        obtain ⟨-, rfl⟩ := List.cons.inj h
        exact .inl ⟨rest, rfl⟩
      | cons d front => exact ih (List.cons.inj h).2
    · obtain ⟨front', same⟩ := exists_behind brace h
      exact ih same

theorem mute_memberLines (entries : List (String × String)) : Mute (memberLines false entries) := by
  intro text h
  have line {more others : List Char} (h : more <+: '\n' :: others) :
      ∃ fault, readLetters more = .error fault := by
    rcases List.prefix_cons_iff.mp h with rfl | ⟨rest, rfl, -⟩
    · exact ⟨_, readLetters_nil⟩
    · exact ⟨_, readLetters_control (by decide) (by decide) (by decide) rest⟩
  cases entries with
  | nil => exact line h
  | cons entry rest =>
    obtain ⟨name, value⟩ := entry
    have h : text <+: ',' :: '\n' :: _ := h
    rcases List.prefix_cons_iff.mp h with rfl | ⟨more, rfl, inside⟩
    · exact ⟨_, readLetters_nil⟩
    · obtain ⟨fault, unread⟩ := line inside
      rw [readLetters_plain (by decide) (by decide) (by decide), unread]
      exact ⟨_, rfl⟩

/-- A brace in the written members of a table stands in one of their texts. -/
theorem within_of_brace {isFirst : Bool} {entries : List (String × String)}
    {front others : List Char} (h : memberLines isFirst entries = front ++ '\x7b' :: others) :
    Within others := by
  induction entries generalizing isFirst front with
  | nil =>
    have brace : '\x7b' ∈ memberLines isFirst [] := by
      rw [h]
      exact List.mem_append_right _ List.mem_cons_self
    cases isFirst with
    | true => exact absurd brace (by decide)
    | false => exact absurd brace (by decide)
  | cons entry rest ih =>
    obtain ⟨name, value⟩ := entry
    have mute := mute_memberLines rest
    have named : ∃ front', name.toList.flatMap escape ++ '"' :: ':' :: ' ' :: '"' ::
        (value.toList.flatMap escape ++ '"' :: memberLines false rest) =
          front' ++ '\x7b' :: others := by
      cases isFirst with
      | true => exact @exists_behind _ ['\n', ' ', ' ', ' ', ' ', '"'] _ _ _ (by decide) h
      | false => exact @exists_behind _ [',', '\n', ' ', ' ', ' ', ' ', '"'] _ _ _ (by decide) h
    obtain ⟨front', named⟩ := named
    -- The brace stands in the name, in the value, or in a later member.
    rcases sealed_of_brace named with ⟨letters, inName⟩ | ⟨front', valued⟩
    · exact ⟨letters, _, inName, .inr ⟨value.toList, _, rfl, mute⟩⟩
    · obtain ⟨front', valued⟩ := @exists_behind _ [':', ' ', '"'] _ _ _ (by decide) valued
      rcases sealed_of_brace valued with ⟨letters, inValue⟩ | ⟨front', later⟩
      · exact ⟨letters, _, inValue, .inl mute⟩
      · exact ih later

theorem of_readMembers_nil {α : Type} {value : Reading α} {bound : Nat} {isFirst : Bool}
    (h : (readMembers value bound isFirst).run text = .ok ([], rest)) :
    text.dropWhile isBlank = '\x7d' :: rest := by
  obtain ⟨more, opened, bound, rfl, first, steps⟩ := of_readMembers h
  cases more with
  | false =>
    obtain ⟨-, rfl⟩ := steps
    rcases of_hasMember first with ⟨-, same, closing⟩ | ⟨impossible, -⟩
    · obtain ⟨others, rfl⟩ := List.head?_eq_some_iff.mp closing
      exact same
    · cases impossible
  | true =>
    obtain ⟨_, _, _, _, _, _, -, -, -, -, impossible⟩ := steps
    cases impossible

/-- What is read as an object behind such a brace has no members, or one whose value is no
string. -/
theorem Within.of_readMembers {depth bound : Nat} {isFirst : Bool} {whole : List Char}
    {members : List (String × Value)} (h : Within whole) (inside : text <+: whole)
    (done : (readMembers (Value.read depth) bound isFirst).run text = .ok (members, rest)) :
    members = [] ∨ ∃ name value, members = [(name, value)] ∧ value.text? = none := by
  obtain ⟨letters, after, rfl, mute | ⟨value, last, rfl, mute⟩⟩ := h
  · exact .inl (mute.of_readMembers ⟨letters, inside⟩ done).1
  · rcases of_readMembers_sealed ⟨letters, inside⟩ done with ⟨rfl, -⟩ |
      ⟨named, letters', left, bound', coloned, found, read, others, part, name, colon, valued,
        later, rfl⟩
    · exact .inl rfl
    · -- The name is the colon, and the value stands inside the string that follows.
      have part : named <+: [':', ' '].flatMap escape ++ '"' ::
        (value.flatMap escape ++ '"' :: last) := part
      obtain ⟨-, inString, -⟩ := readLetters_of_prefix part name
      have sealed : Sealed last left := ⟨value, inString⟩
      have blanks := passes_dropWhile_isBlank left
      rw [of_passColon colon] at blanks
      obtain ⟨sealed, none⟩ := mute.of_read ((sealed.passes blanks).tail (by decide) (by decide))
        valued
      obtain ⟨rfl, -⟩ := mute.of_readMembers sealed later
      exact .inr ⟨_, found, rfl, none⟩

end Phrasebook.Json

namespace Phrasebook.Table

open Json

variable {table found : Table} {front inner rest : List Char}

theorem parse_blank (blank : ∀ c ∈ inner, isBlank c = true) :
    Table.parse ('\x7b' :: (inner ++ ['\x7d'])) = .ok .empty := by
  have ends : (hasMember true).run (inner ++ ['\x7d']) = .ok (false, ['\x7d']) := by
    unfold hasMember
    rw [run_bind_of_ok (run_nextVisible _), List.dropWhile_append_of_pos blank]
    rfl
  have lines : (readMembers (Value.read 126) ((inner ++ ['\x7d']).length + 1) true).run
      (inner ++ ['\x7d']) = .ok ([], []) := by
    rw [readMembers, run_bind_of_ok ends]
    rfl
  rw [parse_eq lines]
  rfl

/-- Where blanks lead to the last brace, only blanks stand before it. -/
theorem blank_of_dropWhile {left : List Char}
    (h : (inner ++ ['\x7d']).dropWhile isBlank = '\x7d' :: left)
    (blank : left.dropWhile isBlank = []) : ∀ c ∈ inner, isBlank c = true := by
  have whole := @List.takeWhile_append_dropWhile _ isBlank (inner ++ ['\x7d'])
  rw [h] at whole
  rcases List.eq_nil_or_concat left with rfl | ⟨others, last, rfl⟩
  · intro c here
    rw [← List.append_cancel_right whole] at here
    exact List.mem_takeWhile_imp here
  · -- The text ends with the brace, which is no blank.
    have brace : last = '\x7d' := by
      rw [List.concat_eq_append, ← List.cons_append, ← List.append_assoc] at whole
      exact List.singleton_inj.mp (List.append_inj' whole rfl).2
    have visible := List.dropWhile_eq_nil_iff.mp blank last (by simp)
    rw [brace] at visible
    cases visible

theorem within_of_toJson {others : List Char} (h : table.toJson = front ++ '\x7b' :: others)
    (inside : front ≠ []) : Within others := by
  obtain ⟨c, front, rfl⟩ := List.exists_cons_of_ne_nil inside
  rw [toJson_eq] at h
  exact within_of_brace (List.cons.inj h).2

/-- Braces inside a text of a table are read as a table only if nothing stands between them. -/
theorem parse_inside_iff (h : table.toJson = front ++ '\x7b' :: (inner ++ '\x7d' :: rest))
    (inside : front ≠ []) :
    Table.parse ('\x7b' :: (inner ++ ['\x7d'])) = .ok found ↔
      (∀ c ∈ inner, isBlank c = true) ∧ found = .empty := by
  constructor
  · intro read
    obtain ⟨members, left, lines, blank, whole⟩ := of_parse read
    have part : inner ++ ['\x7d'] <+: inner ++ '\x7d' :: rest := ⟨rest, by simp⟩
    rcases (within_of_toJson h inside).of_readMembers part lines with rfl | ⟨name, value, rfl, none⟩
    · cases whole
      exact ⟨blank_of_dropWhile (of_readMembers_nil lines) blank, rfl⟩
    · cases value with
      | string text => cases none
      | _ => cases whole
  · rintro ⟨blank, rfl⟩
    exact parse_blank blank

end Phrasebook.Table
