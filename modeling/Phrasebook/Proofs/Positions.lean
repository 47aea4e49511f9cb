import Mathlib.Algebra.GroupWithZero.Nat
import Phrasebook.Proofs.Edits
import Phrasebook.Text.Position

/-!
# Lines and columns

A position is found by going over a text from its start. Each line end starts a new line at column
zero, and what stands on a line moves the position to the right by as many columns as it takes.

- `lineEnds`: how many lines end in a text; `OnLine`: an offset and the line that it is on;
- `OnLine.exists_of_boundary`: each offset between characters is on a line;
- `advance_append`, `advance_unbroken`, `line_advance`: going over parts of a text;
- `find_eq_of_onLine`, `lineText_of_unbroken`: the position of an offset on a line, and the line.
-/

namespace Phrasebook.Text.Position

/-- The number of lines that end in a text that `rest` follows. -/
def lineEnds (rest : List Char) : List Char → Nat
  | [] => 0
  | c :: text => (if endsLine c (text ++ rest) then 1 else 0) + lineEnds rest text

/-- An offset of a text is behind `line` on its line, which starts behind `earlier`. -/
structure OnLine (text : List Char) (offset : Nat) (earlier line rest : List Char) : Prop where
  split : text = earlier ++ line ++ rest
  reached : byteLength (earlier ++ line) = offset
  /-- The line is the first one, or another line ends in front of it. -/
  starts : earlier = [] ∨
    ∃ front last, earlier = front ++ [last] ∧ endsLine last (line ++ rest) = true
  unbroken : lineEnds rest line = 0

theorem lineEnds_append (rest front back : List Char) :
    lineEnds rest (front ++ back) = lineEnds (back ++ rest) front + lineEnds rest back := by
  induction front with
  | nil => exact (Nat.zero_add _).symm
  | cons c front ih =>
    rw [List.cons_append, lineEnds, lineEnds, ih, List.append_assoc, Nat.add_assoc]

theorem lineEnds_singleton (rest : List Char) (c : Char) :
    lineEnds rest [c] = if endsLine c rest then 1 else 0 := rfl

/-- Each offset between two characters is on a line. -/
theorem OnLine.exists_of_boundary {text : List Char} {offset : Nat} (h : Boundary text offset) :
    ∃ earlier line rest, OnLine text offset earlier line rest := by
  obtain ⟨front, rest, rfl, rfl⟩ := h
  -- Going back from the offset, the line starts behind the first line end that is met.
  suffices found : ∀ (reversed line : List Char), lineEnds rest line = 0 →
      ∃ earlier more, reversed.reverse = earlier ++ more ∧
        (earlier = [] ∨ ∃ front last, earlier = front ++ [last] ∧
          endsLine last (more ++ line ++ rest) = true) ∧
        lineEnds rest (more ++ line) = 0 by
    obtain ⟨earlier, line, split, starts, unbroken⟩ := found front.reverse [] rfl
    rw [List.reverse_reverse] at split
    rw [List.append_nil] at starts unbroken
    exact ⟨earlier, line, rest, by rw [split], by rw [split], starts, unbroken⟩
  intro reversed
  induction reversed with
  | nil =>
    intro line unbroken
    exact ⟨[], [], rfl, .inl rfl, unbroken⟩
  | cons c reversed ih =>
    intro line unbroken
    by_cases ends : endsLine c (line ++ rest) = true
    · exact ⟨reversed.reverse ++ [c], [], by simp, .inr ⟨_, c, rfl, ends⟩, unbroken⟩
    · have longer : lineEnds rest (c :: line) = 0 := by
        rw [lineEnds, if_neg ends, unbroken]
      obtain ⟨earlier, more, split, starts, unbroken'⟩ := ih (c :: line) longer
      refine ⟨earlier, more ++ [c], ?_, ?_, ?_⟩
      · rw [List.reverse_cons, split, List.append_assoc]
      · simpa using starts
      · simpa using unbroken'

/-! ## Going over a text -/

/-- The position behind a character that `rest` follows. -/
def behind (position : Position) (c : Char) (rest : List Char) : Position :=
  if endsLine c rest then ⟨position.line + 1, 0, rest⟩
  else { position with indent := position.indent + displayColumns c }

theorem advance_zero (position : Position) (text : List Char) :
    position.advance 0 text = position := by
  cases text <;> rfl

theorem advance_cons (position : Position) (c : Char) (bytes : Nat) (rest : List Char) :
    position.advance (c.utf8Size + bytes) (c :: rest) =
      (position.behind c rest).advance bytes rest := by
  have := c.utf8Size_pos
  obtain ⟨more, some⟩ : ∃ more, c.utf8Size + bytes = more + 1 := ⟨c.utf8Size + bytes - 1, by omega⟩
  have left : more + 1 - c.utf8Size = bytes := by omega
  rw [some, advance, behind]
  rw [left]
  split <;> rfl

/-- The way over a text goes over its first part, and from there over the rest. -/
theorem advance_append (position : Position) (front : List Char) (bytes : Nat)
    (back : List Char) :
    position.advance (byteLength front + bytes) (front ++ back) =
      (position.advance (byteLength front) (front ++ back)).advance bytes back := by
  induction front generalizing position with
  | nil => rw [byteLength, Nat.zero_add, List.nil_append, advance_zero]
  | cons c front ih =>
    rw [byteLength, Nat.add_assoc, List.cons_append, advance_cons, advance_cons, ih]

/-- On a line only the column changes. -/
theorem advance_unbroken (position : Position) {line rest : List Char}
    (unbroken : lineEnds rest line = 0) :
    position.advance (byteLength line) (line ++ rest) =
      { position with indent := position.indent + (line.map displayColumns).sum } := by
  induction line generalizing position with
  | nil => exact advance_zero position rest
  | cons c line ih =>
    rw [lineEnds] at unbroken
    have goesOn : endsLine c (line ++ rest) ≠ true := by
      intro ends
      rw [if_pos ends] at unbroken
      omega
    rw [byteLength, List.cons_append, advance_cons, behind, if_neg goesOn, ih _ (by omega),
      List.map_cons, List.sum_cons, Nat.add_assoc]

theorem line_behind (position : Position) (c : Char) (rest : List Char) :
    (position.behind c rest).line = position.line + if endsLine c rest then 1 else 0 := by
  unfold behind
  split <;> rfl

/-- Each line end is counted. -/
theorem line_advance (position : Position) (text rest : List Char) :
    (position.advance (byteLength text) (text ++ rest)).line =
      position.line + lineEnds rest text := by
  induction text generalizing position with
  | nil => exact congrArg line (advance_zero position rest)
  | cons c text ih =>
    rw [byteLength, List.cons_append, advance_cons, ih, line_behind, lineEnds, Nat.add_assoc]

/-- Behind a line end a new line starts. -/
theorem advance_ended (position : Position) {front rest : List Char} {last : Char}
    (ends : endsLine last rest = true) :
    position.advance (byteLength (front ++ [last])) (front ++ [last] ++ rest) =
      ⟨position.line + lineEnds rest (front ++ [last]), 0, rest⟩ := by
  have size : byteLength (front ++ [last]) = byteLength front + (last.utf8Size + 0) :=
    byteLength_append front [last]
  have lines := line_advance position front (last :: rest)
  rw [size, List.append_assoc, List.singleton_append, advance_append, advance_cons, advance_zero,
    behind, if_pos ends, lines, lineEnds_append, lineEnds_singleton, if_pos ends, Nat.add_assoc]
  rfl

/-- The position of an offset: the number of its line, the columns in front of it on that line, and
the text from the start of the line. -/
theorem find_eq_of_onLine {text : String} {offset : Nat} {earlier line rest : List Char}
    (here : OnLine text.toList offset earlier line rest) :
    find text offset =
      ⟨1 + lineEnds (line ++ rest) earlier, (line.map displayColumns).sum, line ++ rest⟩ := by
  obtain ⟨split, reached, starts, unbroken⟩ := here
  have atStart : (⟨1, 0, text.toList⟩ : Position).advance (byteLength earlier)
      (earlier ++ (line ++ rest)) = ⟨1 + lineEnds (line ++ rest) earlier, 0, line ++ rest⟩ := by
    rcases starts with rfl | ⟨front, last, rfl, ends⟩
    · rw [split]
      exact advance_zero _ _
    · exact advance_ended _ ends
  unfold find
  rw [← reached, byteLength_append]
  nth_rewrite 2 [split]
  rw [List.append_assoc, advance_append, atStart, advance_unbroken _ unbroken]
  simp

theorem lineFeed_not_mem {line rest : List Char} (unbroken : lineEnds rest line = 0) :
    '\n' ∉ line := by
  intro among
  obtain ⟨front, back, rfl⟩ := List.append_of_mem among
  have ends : endsLine '\n' (back ++ rest) = true := rfl
  rw [lineEnds_append, lineEnds, if_pos ends] at unbroken
  omega

/-- The text of a line goes on behind an offset up to a line feed. -/
theorem lineText_of_unbroken {line rest : List Char} (unbroken : lineEnds rest line = 0)
    (number indent : Nat) :
    lineText ⟨number, indent, line ++ rest⟩ =
      String.ofList (line ++ rest.takeWhile (· ≠ '\n')) := by
  have onLine : ∀ c ∈ line, decide (c ≠ '\n') = true := by
    intro c among
    rw [decide_eq_true_eq]
    rintro rfl
    exact lineFeed_not_mem unbroken among
  unfold lineText
  rw [List.takeWhile_append_of_pos onLine]

end Phrasebook.Text.Position
