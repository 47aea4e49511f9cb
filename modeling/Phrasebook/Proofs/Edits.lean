import Mathlib.Data.List.Sort
import Phrasebook.Text.Edit

/-!
# Edited texts

Edits may come in any order. If they replace different parts of a text, each made of whole
characters, then these parts are cut out exactly, and nothing else changes.

- `Boundary`: an offset between two characters; `Cuts`: a part between two of them;
- `Edited`: a text in which parts are replaced, from left to right;
- `slice?`, `spliced?`: the same by slices of the text, with a cursor behind the last edit;
- `edited_applyEdits`: edits of different parts in any order.
-/

namespace Phrasebook.Text

/-! ## Offsets -/

/-- An offset in front of a character of a text, or at its end. -/
def Boundary (text : List Char) (offset : Nat) : Prop :=
  ∃ front back, text = front ++ back ∧ byteLength front = offset

/-- The bytes between two offsets are whole characters of a text, one at least. -/
structure Cuts (text : List Char) (start stop : Nat) : Prop where
  filled : start < stop
  first : Boundary text start
  last : Boundary text stop

theorem byteLength_append (front back : List Char) :
    byteLength (front ++ back) = byteLength front + byteLength back := by
  induction front with
  | nil => exact (Nat.zero_add _).symm
  | cons c rest ih => rw [List.cons_append, byteLength, byteLength, ih, Nat.add_assoc]

theorem eq_nil_of_byteLength {cs : List Char} (h : byteLength cs = 0) : cs = [] := by
  cases cs with
  | nil => rfl
  | cons c rest =>
    have := c.utf8Size_pos
    rw [byteLength] at h
    omega

/-- A text is split where a part ends. -/
theorem splitAtByte_append (front back : List Char) :
    splitAtByte (byteLength front) (front ++ back) = (front, back) := by
  induction front with
  | nil =>
    cases back with
    | nil => rfl
    | cons c rest =>
      have := c.utf8Size_pos
      rw [List.nil_append, splitAtByte, if_neg (by rw [byteLength]; omega)]
  | cons c rest ih =>
    rw [List.cons_append, splitAtByte, byteLength, if_pos (by omega), Nat.add_sub_cancel_left, ih]

theorem append_splitAtByte (offset : Nat) (text : List Char) :
    (splitAtByte offset text).1 ++ (splitAtByte offset text).2 = text := by
  induction text generalizing offset with
  | nil => rfl
  | cons c rest ih =>
    rw [splitAtByte]
    split
    · exact congrArg (c :: ·) (ih _)
    · rfl

theorem boundary_iff {text : List Char} {offset : Nat} :
    Boundary text offset ↔ byteLength (splitAtByte offset text).1 = offset := by
  constructor
  · rintro ⟨front, back, rfl, rfl⟩
    rw [splitAtByte_append]
  · intro same
    exact ⟨_, _, (append_splitAtByte offset text).symm, same⟩

instance (text : List Char) (offset : Nat) : Decidable (Boundary text offset) :=
  decidable_of_iff _ boundary_iff.symm

theorem cuts_iff {text : List Char} {start stop : Nat} :
    Cuts text start stop ↔ start < stop ∧ Boundary text start ∧ Boundary text stop :=
  ⟨fun h => ⟨h.filled, h.first, h.last⟩, fun ⟨filled, first, last⟩ => ⟨filled, first, last⟩⟩

instance (text : List Char) (start stop : Nat) : Decidable (Cuts text start stop) :=
  decidable_of_iff _ cuts_iff.symm

/-- The rest of a text is split at a boundary of the text. -/
theorem Boundary.split {front rest : List Char} {offset : Nat}
    (h : Boundary (front ++ rest) offset) (later : byteLength front ≤ offset) :
    ∃ kept tail, rest = kept ++ tail ∧ offset = byteLength front + byteLength kept := by
  obtain ⟨front', back, same, rfl⟩ := h
  rcases List.append_eq_append_iff.mp same with ⟨kept, rfl, rfl⟩ | ⟨more, rfl, rfl⟩
  · exact ⟨kept, back, rfl, byteLength_append _ _⟩
  · -- A boundary in `front` that is not before its end is its end.
    rw [byteLength_append] at later ⊢
    have none : byteLength more = 0 := by omega
    rw [eq_nil_of_byteLength none]
    exact ⟨[], rest, rfl, rfl⟩

/-! ## Edits in order -/

/-- A text whose first byte stands at an offset becomes another: parts of it are replaced, and what
stands in front of each, and behind the last, is kept. -/
inductive Edited : Nat → List Char → List Edit → List Char → Prop where
  | done (offset : Nat) (text : List Char) : Edited offset text [] text
  | part {offset : Nat} {edit : Edit} {edits : List Edit} {kept cut rest result : List Char}
    (start : edit.start = offset + byteLength kept) (stop : edit.stop = edit.start + byteLength cut)
    (later : Edited edit.stop rest edits result) :
    Edited offset (kept ++ (cut ++ rest)) (edit :: edits)
      (kept ++ edit.replacement.toList ++ result)

/-- Edits in order replace the parts that they are about. -/
theorem edited_applySorted {front rest : List Char} {edits : List Edit}
    (cuts : ∀ edit ∈ edits, Cuts (front ++ rest) edit.start edit.stop)
    (sorted : edits.Pairwise fun edit later => edit.stop ≤ later.start)
    (ahead : ∀ edit ∈ edits, byteLength front ≤ edit.start) :
    Edited (byteLength front) rest edits (applySorted (byteLength front) edits rest) := by
  -- The cursor stands behind `front`, which grows by what each edit keeps and cuts.
  induction edits generalizing front rest with
  | nil => exact .done _ rest
  | cons edit later ih =>
    obtain ⟨⟨filled, first, last⟩, others⟩ := List.forall_mem_cons.mp cuts
    obtain ⟨behind, sorted⟩ := List.pairwise_cons.mp sorted
    obtain ⟨kept, tail, rfl, start⟩ := first.split (ahead edit List.mem_cons_self)
    rw [← List.append_assoc] at last others
    obtain ⟨cut, after, rfl, stop⟩ :=
      last.split (by rw [byteLength_append, ← start]; exact Nat.le_of_lt filled)
    rw [← List.append_assoc] at others
    rw [byteLength_append, ← start] at stop
    have whole : edit.stop = byteLength (front ++ kept ++ cut) := by
      rw [byteLength_append, byteLength_append, ← start, stop]
    rw [applySorted, Nat.sub_eq_of_eq_add' start, splitAtByte_append]
    dsimp only
    rw [Nat.sub_eq_of_eq_add' stop, splitAtByte_append]
    refine .part start stop ?_
    rw [whole]
    exact ih others sorted fun next h => whole ▸ behind next h

/-! ## Slices -/

/-- The characters between two offsets; none unless both are boundaries, in this order. -/
def slice? (text : List Char) (start stop : Nat) : Option (List Char) :=
  if start ≤ stop ∧ Boundary text start ∧ Boundary text stop then
    some (splitAtByte (stop - start) (splitAtByte start text).2).1
  else none

/-- The slices of a text from a cursor on that edits leave, and what the edits put between them;
none if a slice is out of range. -/
def spliced? (text : List Char) (cursor : Nat) : List Edit → Option (List Char)
  | [] => slice? text cursor (byteLength text)
  | edit :: edits => do
    let kept ← slice? text cursor edit.start
    let rest ← spliced? text edit.stop edits
    return kept ++ edit.replacement.toList ++ rest

theorem slice?_append (front part back : List Char) :
    slice? (front ++ (part ++ back)) (byteLength front) (byteLength front + byteLength part) =
      some part := by
  have last : Boundary (front ++ (part ++ back)) (byteLength front + byteLength part) :=
    ⟨front ++ part, back, (List.append_assoc ..).symm, byteLength_append _ _⟩
  rw [slice?, if_pos ⟨Nat.le_add_right _ _, ⟨front, _, rfl, rfl⟩, last⟩, splitAtByte_append,
    Nat.add_sub_cancel_left, splitAtByte_append]

/-- No slice is out of range. -/
theorem Edited.spliced? {front text result : List Char} {edits : List Edit} {offset : Nat}
    (h : Edited offset text edits result) (here : byteLength front = offset) :
    Text.spliced? (front ++ text) offset edits = some result := by
  induction h generalizing front with
  | done offset text =>
    subst here
    have whole := slice?_append front text []
    rw [List.append_nil] at whole
    rw [Text.spliced?, byteLength_append, whole]
  | @part offset edit edits kept cut rest result start stop later ih =>
    subst here
    have more := @ih (front ++ kept ++ cut) (by
      rw [byteLength_append, byteLength_append, ← start, stop])
    rw [List.append_assoc, List.append_assoc] at more
    rw [Text.spliced?, start, slice?_append, more]
    rfl

/-! ## Edits in any order -/

/-- Two parts of a text, each between two offsets, have no byte in common. -/
def Apart (part other : Nat × Nat) : Prop := part.2 ≤ other.1 ∨ other.2 ≤ part.1

theorem Apart.symm {part other : Nat × Nat} (h : Apart part other) : Apart other part := Or.symm h

instance (part other : Nat × Nat) : Decidable (Apart part other) :=
  inferInstanceAs (Decidable (_ ∨ _))

/-- The part that an edit replaces. -/
def Edit.replaced (edit : Edit) : Nat × Nat := (edit.start, edit.stop)

theorem pairwise_mergeSort_start (edits : List Edit) :
    (edits.mergeSort fun a b => a.start ≤ b.start).Pairwise fun a b => a.start ≤ b.start := by
  refine (List.pairwise_mergeSort (fun a b c first second => ?_) (fun a b => ?_) edits).imp
    of_decide_eq_true
  · exact decide_eq_true ((of_decide_eq_true first).trans (of_decide_eq_true second))
  · simpa using Nat.le_total a.start b.start

/-- Without edits nothing changes. -/
theorem applyEdits_nil (text : String) : applyEdits text [] = text := by
  unfold applyEdits
  dsimp only
  rw [List.mergeSort_nil, applySorted, String.ofList_toList]

/-- Edits of different parts replace these, whatever order they come in. -/
theorem edited_applyEdits {text : String} {edits : List Edit}
    (cuts : ∀ edit ∈ edits, Cuts text.toList edit.start edit.stop)
    (apart : edits.Pairwise fun edit other => Apart edit.replaced other.replaced) :
    ∃ sorted result, sorted.Perm edits ∧
      (sorted.Pairwise fun edit later => edit.stop ≤ later.start) ∧
      Edited 0 text.toList sorted result ∧ applyEdits text edits = String.ofList result := by
  have same : (edits.mergeSort fun a b => a.start ≤ b.start).Perm edits := List.mergeSort_perm _ _
  have cuts' := fun edit h => cuts edit (same.mem_iff.mp h)
  have sorted : (edits.mergeSort fun a b => a.start ≤ b.start).Pairwise fun edit later =>
      edit.stop ≤ later.start := by
    refine ((pairwise_mergeSort_start edits).and
      (same.symm.pairwise apart Apart.symm)).imp_of_mem ?_
    rintro edit later - h ⟨le, first | second⟩
    · exact first
    · -- The later part would end before it starts.
      have filled := (cuts' later h).filled
      unfold Edit.replaced at second
      omega
  exact ⟨_, _, same, sorted,
    @edited_applySorted [] _ _ cuts' sorted fun edit _ => Nat.zero_le edit.start, rfl⟩

end Phrasebook.Text
