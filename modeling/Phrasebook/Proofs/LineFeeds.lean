import Mathlib.Order.Monotone.Defs
import Phrasebook.Proofs.KeyWalk
import Phrasebook.Proofs.Lines

/-!
# Line feeds before an offset

A search in the ascending starts of the lines finds a start at the offset, or the place where the
offset would stand among them. Either way as many starts are at most the offset as the number of the
line says, and behind each line feed in front of the offset one of them stands. An offset inside a
character is on the line of that character, since a line feed is a byte of its own.

- `Searched`, `lineOf`: the answers of a search, and the line that each tells;
- `lineOf_of_searched`, `lineAt_eq_countP`: both count the starts that are at most the offset;
- `countP_breaksFrom`: these starts are behind the line feeds among the bytes in front of it;
- `lineAt_counts_feeds`: the line of any offset.
-/

namespace Phrasebook.Text

open TableFile (bytesOf exists_bytes)

/-! ## Searches -/

/-- What a search for an offset in ascending starts answers: the index of a start that is the
offset, or the index at which it would stand if it were one. -/
inductive Searched (offset : Nat) : List Nat → Except Nat Nat → Prop where
  | hit (front back : List Nat) : Searched offset (front ++ offset :: back) (.ok front.length)
  | miss {front back : List Nat} (before : ∀ start ∈ front, start < offset)
    (behind : ∀ start ∈ back, offset < start) :
    Searched offset (front ++ back) (.error front.length)

/-- The number of the line that an answer tells. A line is counted from 1, so a hit is one more than
the index of its start; at a miss the index is already behind the start. -/
def lineOf : Except Nat Nat → Nat
  | .ok index => index + 1
  | .error index => index

variable {starts first later : List Nat} {offset : Nat}

theorem countP_of_split (before : ∀ start ∈ first, start ≤ offset)
    (behind : ∀ start ∈ later, offset < start) :
    (first ++ later).countP (· ≤ offset) = first.length := by
  have all : first.countP (· ≤ offset) = first.length := by
    simpa [List.countP_eq_length] using before
  have none : later.countP (· ≤ offset) = 0 := by
    simpa [List.countP_eq_zero] using behind
  rw [List.countP_append, all, none, Nat.add_zero]

/-- Ascending starts are cut in two at any offset. -/
theorem exists_split (ascending : starts.Pairwise (· < ·)) (offset : Nat) :
    ∃ first later, starts = first ++ later ∧ (∀ start ∈ first, start ≤ offset) ∧
      ∀ start ∈ later, offset < start := by
  induction starts with
  | nil => exact ⟨[], [], rfl, nofun, nofun⟩
  | cons start rest ih =>
    obtain ⟨least, ascending⟩ := List.pairwise_cons.mp ascending
    by_cases small : start ≤ offset
    · obtain ⟨first, later, rfl, before, behind⟩ := ih ascending
      exact ⟨start :: first, later, rfl, List.forall_mem_cons.mpr ⟨small, before⟩, behind⟩
    · have behind : ∀ other ∈ rest, offset < other := by
        intro other among
        have := least other among
        omega
      exact ⟨[], start :: rest, rfl, nofun, List.forall_mem_cons.mpr ⟨by omega, behind⟩⟩

/-- Halving counts the starts that are at most the offset. -/
theorem lineAt_eq_countP (ascending : starts.Pairwise (· < ·)) (offset : Nat) :
    lineAt starts.toArray offset = starts.countP (· ≤ offset) := by
  obtain ⟨first, later, rfl, before, behind⟩ := exists_split ascending offset
  rw [countP_of_split before behind]
  exact positionAfter_eq rfl before behind (Nat.zero_le _) (by simp) (Nat.le_refl _)

/-- Each search has an answer. -/
theorem exists_searched (ascending : starts.Pairwise (· < ·)) (offset : Nat) :
    ∃ answer, Searched offset starts answer := by
  by_cases among : offset ∈ starts
  · obtain ⟨front, back, rfl⟩ := List.append_of_mem among
    exact ⟨_, .hit front back⟩
  · obtain ⟨first, later, rfl, before, behind⟩ := exists_split ascending offset
    refine ⟨_, .miss (fun start here => Nat.lt_of_le_of_ne (before start here) ?_) behind⟩
    rintro rfl
    exact among (List.mem_append_left _ here)

/-- Hits and misses count the starts that are at most the offset. -/
theorem lineOf_of_searched {answer : Except Nat Nat} (ascending : starts.Pairwise (· < ·))
    (searched : Searched offset starts answer) :
    lineOf answer = starts.countP (· ≤ offset) := by
  cases searched with
  | hit front back =>
    obtain ⟨-, rest, before⟩ := List.pairwise_append.mp ascending
    have behind := (List.pairwise_cons.mp rest).1
    have upTo : ∀ start ∈ front ++ [offset], start ≤ offset := by
      intro start here
      rcases List.mem_append.mp here with here | here
      · exact Nat.le_of_lt (before start here offset List.mem_cons_self)
      · exact Nat.le_of_eq (List.mem_singleton.mp here)
    have counted := countP_of_split upTo behind
    rw [List.append_assoc, List.singleton_append, List.length_append, List.length_singleton]
      at counted
    exact counted.symm
  | miss before behind =>
    exact (countP_of_split (fun start here => Nat.le_of_lt (before start here)) behind).symm

/-! ## Line feeds -/

/-- The byte of a line feed. -/
def feedByte : UInt8 := 0x0A

theorem pairwise_breaksFrom (offset : Nat) (cs : List Char) :
    (breaksFrom offset cs).Pairwise (· < ·) := by
  induction cs generalizing offset with
  | nil => exact .nil
  | cons c rest ih =>
    rw [breaksFrom]
    split
    · exact List.pairwise_cons.mpr ⟨fun _ h => (mem_breaksFrom h).1, ih _⟩
    · exact ih _

theorem pairwise_lineStarts (text : String) : (lineStarts text).Pairwise (· < ·) :=
  List.pairwise_cons.mpr ⟨fun _ h => (mem_breaksFrom h).1, pairwise_breaksFrom 0 text.toList⟩

/-- Only a line feed has the byte of one. -/
theorem count_utf8EncodeChar (c : Char) :
    (String.utf8EncodeChar c).count feedByte = if c = '\n' then 1 else 0 := by
  split
  · rename_i feed
    subst feed
    decide
  · rename_i other
    obtain ⟨first, others, bytes, own, high⟩ := exists_bytes c
    rw [bytes, List.count_eq_zero]
    intro among
    rcases List.mem_cons.mp among with same | among
    · rw [← same] at own
      rcases own with own | own
      · exact other (Char.toNat_inj.mp own.symm)
      · exact absurd own (by decide)
    · exact absurd (high _ among) (by decide)

/-- The bytes in front of an offset inside a character are no line feeds. -/
theorem count_take_utf8EncodeChar {c : Char} {passed : Nat} (inside : passed < c.utf8Size) :
    ((String.utf8EncodeChar c).take passed).count feedByte = 0 := by
  by_cases feed : c = '\n'
  · subst feed
    have none : passed = 0 := Nat.lt_one_iff.mp inside
    rw [none]
    rfl
  · have some := (List.take_sublist passed (String.utf8EncodeChar c)).count_le feedByte
    rw [count_utf8EncodeChar, if_neg feed] at some
    exact Nat.le_zero.mp some

theorem breaksFrom_cons (offset : Nat) (c : Char) (rest : List Char) :
    breaksFrom offset (c :: rest) =
      (if c = '\n' then [offset + c.utf8Size] else []) ++
        breaksFrom (offset + c.utf8Size) rest := by
  rw [breaksFrom]
  split <;> rfl

/-- No line starts before the first character ends. -/
theorem le_of_mem_breaksFrom {offset start : Nat} {c : Char} {rest : List Char}
    (h : start ∈ breaksFrom offset (c :: rest)) : offset + c.utf8Size ≤ start := by
  rw [breaksFrom_cons] at h
  rcases List.mem_append.mp h with h | h
  · split at h
    · exact Nat.le_of_eq (List.mem_singleton.mp h).symm
    · cases h
  · exact Nat.le_of_lt (mem_breaksFrom h).1

/-- The line starts up to an offset are behind the line feeds among the bytes in front of it. -/
theorem countP_breaksFrom (offset passed : Nat) (cs : List Char) :
    (breaksFrom offset cs).countP (· ≤ offset + passed) =
      ((bytesOf cs).take passed).count feedByte := by
  induction cs generalizing offset passed with
  | nil => simp [breaksFrom, bytesOf]
  | cons c rest ih =>
    have size : (String.utf8EncodeChar c).length = c.utf8Size := String.length_utf8EncodeChar c
    show _ = ((String.utf8EncodeChar c ++ bytesOf rest).take passed).count feedByte
    by_cases whole : c.utf8Size ≤ passed
    · -- The character is passed, and what is left goes on behind it.
      obtain ⟨left, rfl⟩ := Nat.exists_eq_add_of_le whole
      have later := ih (offset + c.utf8Size) left
      rw [breaksFrom_cons, List.countP_append, ← Nat.add_assoc, later, ← size,
        List.take_length_add_append, List.count_append, count_utf8EncodeChar, size]
      split <;> simp
    · -- The offset is inside the character, and all line starts are behind it.
      have inside : passed < c.utf8Size := Nat.lt_of_not_le whole
      have front : (String.utf8EncodeChar c ++ bytesOf rest).take passed =
          (String.utf8EncodeChar c).take passed :=
        List.take_append_of_le_length (by omega)
      have behind : ∀ start ∈ breaksFrom offset (c :: rest), ¬ start ≤ offset + passed := by
        intro start h
        have := le_of_mem_breaksFrom h
        omega
      rw [front, count_take_utf8EncodeChar inside, List.countP_eq_zero]
      simpa using behind

theorem data_toUTF8 (text : String) : text.toUTF8.data.toList = bytesOf text.toList := by
  conv => lhs; rw [← String.ofList_toList (s := text)]
  rw [String.toUTF8_eq_toByteArray]
  exact List.toList_data_toByteArray

theorem countP_lineStarts (text : String) (offset : Nat) :
    (lineStarts text).countP (· ≤ offset) =
      1 + (text.toUTF8.data.toList.take offset).count feedByte := by
  have behind := countP_breaksFrom 0 offset text.toList
  rw [Nat.zero_add] at behind
  rw [lineStarts, List.countP_cons_of_pos (by simp), behind, data_toUTF8, Nat.add_comm]

/-- The starts of the lines ascend, and the line of an offset is one more than the line feeds among
the bytes in front of it, wherever the offset is: at the start of a line or behind it, inside a
character, or behind the text. Each answer of a search tells this line. Later offsets are on no
earlier lines. -/
theorem lineAt_counts_feeds (text : String) :
    (lineStarts text).Pairwise (· < ·) ∧
    (∀ offset,
      lineAt (lineStarts text).toArray offset =
        1 + (text.toUTF8.data.toList.take offset).count feedByte ∧
      (∃ answer, Searched offset (lineStarts text) answer) ∧
      ∀ answer, Searched offset (lineStarts text) answer →
        lineOf answer = lineAt (lineStarts text).toArray offset) ∧
    Monotone (lineAt (lineStarts text).toArray) ∧
    ∀ offset, lineAt (lineStarts text).toArray offset ≠ 0 := by
  have ascending := pairwise_lineStarts text
  -- Starts of lines up to the offset are line feeds in front of it, the first one apart.
  have line (offset : Nat) : lineAt (lineStarts text).toArray offset =
      1 + (text.toUTF8.data.toList.take offset).count feedByte := by
    rw [lineAt_eq_countP ascending, countP_lineStarts]
  refine ⟨ascending, fun offset => ⟨line offset, exists_searched ascending offset, ?_⟩, ?_, ?_⟩
  · intro answer searched
    rw [lineOf_of_searched ascending searched, lineAt_eq_countP ascending]
  · intro offset further more
    rw [line, line]
    exact Nat.add_le_add_left ((List.take_sublist_take_left more).count_le feedByte) 1
  · intro offset
    rw [line]
    omega

/-- The second line starts at a hit; an offset inside its character is a miss behind that start, and
what lies behind the text is on the last line. -/
theorem lines_around_hangul :
    Searched 3 (lineStarts "é\n한\n") (.ok 1) ∧ Searched 5 (lineStarts "é\n한\n") (.error 2) ∧
    lineAt (lineStarts "é\n한\n").toArray 3 = 2 ∧ lineAt (lineStarts "é\n한\n").toArray 5 = 2 ∧
    lineAt (lineStarts "é\n한\n").toArray 99 = 3 := by
  obtain ⟨-, lines, -⟩ := lineAt_counts_feeds "é\n한\n"
  have starts : lineStarts "é\n한\n" = [0, 3, 7] := by decide +kernel
  have hit : Searched 3 (lineStarts "é\n한\n") (.ok 1) := starts ▸ .hit [0] [7]
  have miss : Searched 5 (lineStarts "é\n한\n") (.error 2) :=
    starts ▸ @Searched.miss 5 [0, 3] [7] (by decide) (by decide)
  have last := (lines 99).1
  refine ⟨hit, miss, ((lines 3).2.2 _ hit).symm, ((lines 5).2.2 _ miss).symm, last.trans ?_⟩
  decide +kernel

end Phrasebook.Text
