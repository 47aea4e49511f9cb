import Mathlib.Data.List.GetD
import Phrasebook.Proofs.Edits

/-!
# Line numbers

The number of a line is found by halving, between line starts that are at most the offset and those
that lie behind it. It counts the line feeds before the offset.

- `positionAfter_eq`: halving ends between the two;
- `breaksFrom_append`, `mem_breaksFrom`: the line starts before an offset and behind it;
- `lineAt_append`: the number of a line.
-/

namespace Phrasebook.Text

/-! ## Halving -/

/-- If the first of some starts are at most the offset and all others lie behind it, halving finds
how many come first. -/
theorem positionAfter_eq {starts : Array Nat} {first later : List Nat} {offset low high : Nat}
    (split : starts.toList = first ++ later) (before : ∀ start ∈ first, start ≤ offset)
    (behind : ∀ start ∈ later, offset < start) (above : low ≤ first.length)
    (below : first.length ≤ high) (inside : high ≤ starts.size) :
    positionAfter starts offset low high = first.length := by
  have size : starts.size = first.length + later.length := by
    rw [← List.length_append, ← split, Array.length_toList]
  have read (index : Nat) : starts.getD index 0 = (first ++ later).getD index 0 := by
    rw [← split]
    simp
  fun_induction positionAfter starts offset low high with
  | case1 low high between middle small ih =>
    -- What lies behind the offset would not be so small.
    have : middle < first.length := by
      by_contra far
      have inLater : middle - first.length < later.length := by omega
      have big := behind _ (List.getElem_mem inLater)
      rw [read, List.getD_append_right _ _ _ _ (by omega), List.getD_eq_getElem _ _ inLater]
        at small
      omega
    exact ih (by omega) below inside
  | case2 low high between middle big ih =>
    have : first.length ≤ middle := by
      by_contra near
      have inFirst : middle < first.length := by omega
      have small := before _ (List.getElem_mem inFirst)
      rw [read, List.getD_append _ _ _ _ inFirst, List.getD_eq_getElem _ _ inFirst] at big
      omega
    exact ih above (by omega) (by omega)
  | case3 low high done => omega

/-! ## Line starts -/

theorem breaksFrom_append (offset : Nat) (front rest : List Char) :
    breaksFrom offset (front ++ rest) =
      breaksFrom offset front ++ breaksFrom (offset + byteLength front) rest := by
  induction front generalizing offset with
  | nil => rfl
  | cons c front ih =>
    rw [List.cons_append, breaksFrom, breaksFrom, byteLength, ← Nat.add_assoc]
    split
    · rw [ih, List.cons_append]
    · exact ih _

/-- A line starts behind a character of the text. -/
theorem mem_breaksFrom {offset start : Nat} {cs : List Char} (h : start ∈ breaksFrom offset cs) :
    offset < start ∧ start ≤ offset + byteLength cs := by
  induction cs generalizing offset with
  | nil => cases h
  | cons c rest ih =>
    have := c.utf8Size_pos
    rw [breaksFrom] at h
    rw [byteLength]
    split at h
    · rcases List.mem_cons.mp h with rfl | h
      · omega
      · have := ih h
        omega
    · have := ih h
      omega

/-- A line starts behind each line feed. -/
theorem length_breaksFrom (offset : Nat) (cs : List Char) :
    (breaksFrom offset cs).length = cs.count '\n' := by
  induction cs generalizing offset with
  | nil => rfl
  | cons c rest ih =>
    rw [breaksFrom, List.count_cons]
    split
    · rename_i feed
      rw [List.length_cons, ih, if_pos (by simp [feed])]
    · rename_i other
      rw [ih, if_neg (by simpa using other), Nat.add_zero]

/-- The number of a line counts the line feeds before the offset. -/
theorem lineAt_append (front rest : List Char) :
    lineAt (lineStarts (String.ofList (front ++ rest))).toArray (byteLength front) =
      front.count '\n' + 1 := by
  have split : lineStarts (String.ofList (front ++ rest)) =
      (0 :: breaksFrom 0 front) ++ breaksFrom (byteLength front) rest := by
    rw [lineStarts, String.toList_ofList, breaksFrom_append, Nat.zero_add, List.cons_append]
  rw [lineAt, split, ← length_breaksFrom 0 front]
  refine positionAfter_eq rfl ?_ (fun start h => (mem_breaksFrom h).1) (Nat.zero_le _) (by simp)
    (Nat.le_refl _)
  intro start h
  rcases List.mem_cons.mp h with rfl | h
  · exact Nat.zero_le _
  · have := mem_breaksFrom h
    omega

end Phrasebook.Text
