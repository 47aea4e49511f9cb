import Mathlib.Data.List.DropRight
import Mathlib.Order.Bounds.Basic
import Phrasebook.Proofs.Edits

/-!
# Windows of texts

A window around an offset is cut out between two other offsets, which are found by counting
characters to each side. All of these offsets lie between characters.

- `isGreatest_floorBoundary`, `lowered_eq_floorBoundary`: the boundary that an offset counts as,
  also when it is looked for byte by byte;
- `startsFrom`, `windowBounds?`: where the characters of a text start, and where a window starts and
  ends;
- `window_spans`: the window of so many characters to each side is what lies between these bounds.
-/

namespace Phrasebook.Text

/-! ## The boundary of an offset -/

theorem byteLength_splitAtByte_le (offset : Nat) (text : List Char) :
    byteLength (splitAtByte offset text).1 ≤ offset := by
  induction text generalizing offset with
  | nil => exact Nat.zero_le offset
  | cons c rest ih =>
    rw [splitAtByte]
    split
    · have later := ih (offset - c.utf8Size)
      show c.utf8Size + byteLength (splitAtByte (offset - c.utf8Size) rest).1 ≤ offset
      omega
    · exact Nat.zero_le offset

/-- Nothing longer that fits stands at the start of a text. -/
theorem byteLength_le_splitAtByte {front back : List Char} {offset : Nat}
    (fits : byteLength front ≤ offset) :
    byteLength front ≤ byteLength (splitAtByte offset (front ++ back)).1 := by
  induction front generalizing offset with
  | nil => exact Nat.zero_le _
  | cons c rest ih =>
    rw [byteLength] at fits
    have later := @ih (offset - c.utf8Size) (by omega)
    rw [List.cons_append, splitAtByte, if_pos (by omega)]
    show c.utf8Size + byteLength rest ≤
      c.utf8Size + byteLength (splitAtByte (offset - c.utf8Size) (rest ++ back)).1
    omega

theorem isGreatest_floorBoundary (text : String) (offset : Nat) :
    IsGreatest {boundary | Boundary text.toList boundary ∧ boundary ≤ offset}
      (floorBoundary text offset) := by
  refine ⟨⟨⟨_, _, (append_splitAtByte offset _).symm, rfl⟩, byteLength_splitAtByte_le _ _⟩, ?_⟩
  rintro boundary ⟨⟨front, back, split, rfl⟩, fits⟩
  show byteLength front ≤ byteLength (splitAtByte offset text.toList).1
  rw [split]
  exact byteLength_le_splitAtByte fits

theorem Boundary.le {text : List Char} {offset : Nat} (h : Boundary text offset) :
    offset ≤ byteLength text := by
  obtain ⟨front, back, rfl, rfl⟩ := h
  rw [byteLength_append]
  exact Nat.le_add_right _ _

/-- The last boundary up to an offset, looked for byte by byte towards the start. -/
def lowered (text : List Char) : Nat → Nat
  | 0 => 0
  | offset + 1 => if Boundary text (offset + 1) then offset + 1 else lowered text offset

theorem isGreatest_lowered (text : List Char) (offset : Nat) :
    IsGreatest {boundary | Boundary text boundary ∧ boundary ≤ offset} (lowered text offset) := by
  induction offset with
  | zero => exact ⟨⟨⟨[], text, rfl, rfl⟩, Nat.le_refl 0⟩, fun boundary h => h.2⟩
  | succ offset ih =>
    unfold lowered
    by_cases here : Boundary text (offset + 1)
    · rw [if_pos here]
      exact ⟨⟨here, Nat.le_refl _⟩, fun boundary h => h.2⟩
    · rw [if_neg here]
      obtain ⟨⟨known, before⟩, most⟩ := ih
      refine ⟨⟨known, Nat.le_succ_of_le before⟩, fun boundary ⟨other, fits⟩ => most ⟨other, ?_⟩⟩
      have differs : boundary ≠ offset + 1 := fun same => here (same ▸ other)
      omega

/-- An offset behind the text counts as its end. -/
theorem lowered_eq_floorBoundary (text : String) (offset : Nat) :
    lowered text.toList (min offset (byteLength text.toList)) = floorBoundary text offset := by
  have same : {boundary | Boundary text.toList boundary ∧
        boundary ≤ min offset (byteLength text.toList)} =
      {boundary | Boundary text.toList boundary ∧ boundary ≤ offset} := by
    ext boundary
    constructor
    · rintro ⟨known, fits⟩
      exact ⟨known, fits.trans (Nat.min_le_left _ _)⟩
    · rintro ⟨known, fits⟩
      exact ⟨known, Nat.le_min.mpr ⟨fits, known.le⟩⟩
  exact (same ▸ isGreatest_lowered text.toList _).unique (isGreatest_floorBoundary text offset)

/-! ## Counting characters -/

/-- The offsets at which the characters of `cs` start, the first of which stands at `offset`. -/
def startsFrom (offset : Nat) : List Char → List Nat
  | [] => []
  | c :: rest => offset :: startsFrom (offset + c.utf8Size) rest

theorem length_startsFrom (offset : Nat) (cs : List Char) :
    (startsFrom offset cs).length = cs.length := by
  induction cs generalizing offset with
  | nil => rfl
  | cons c rest ih => exact congrArg (· + 1) (ih _)

/-- A character starts behind those in front of it; where there is none, the text ends. -/
theorem getElem?_startsFrom (offset : Nat) (cs : List Char) (index : Nat) :
    (startsFrom offset cs)[index]?.getD (offset + byteLength cs) =
      offset + byteLength (cs.take index) := by
  induction cs generalizing offset index with
  | nil => simp [startsFrom]
  | cons c rest ih =>
    cases index with
    | zero => rfl
    | succ index =>
      show (startsFrom (offset + c.utf8Size) rest)[index]?.getD _ = _
      rw [byteLength, ← Nat.add_assoc, ih, List.take_succ_cons, byteLength, ← Nat.add_assoc]

/-- The last of so many starts, counted from the end, is the start of the last so many
characters. -/
theorem getLast?_startsFrom (cs : List Char) (count : Nat) :
    ((startsFrom 0 cs).reverse.take count).getLast?.getD (byteLength cs) =
      byteLength (cs.take (cs.length - count)) := by
  have found := getElem?_startsFrom 0 cs (cs.length - count)
  rw [Nat.zero_add, Nat.zero_add] at found
  rw [List.take_reverse, List.getLast?_reverse, List.head?_drop, length_startsFrom, found]

/-! ## Windows -/

/-- Where a window starts and ends. Of the characters before the boundary that the offset counts as,
so many are passed from the last one on; of those behind it, from the first one on. None if the text
is cut anywhere but between characters. -/
def windowBounds? (text : List Char) (offset radius : Nat) : Option (Nat × Nat) := do
  let middle := lowered text (min offset (byteLength text))
  let before ← slice? text 0 middle
  let after ← slice? text middle (byteLength text)
  let start := ((startsFrom 0 before).reverse.take radius).getLast?.getD middle
  let stop := ((startsFrom 0 after)[radius]?.map (middle + ·)).getD (byteLength text)
  return (start, stop)

theorem windowBounds?_append {before after : List Char} {offset : Nat}
    (middle : lowered (before ++ after) (min offset (byteLength (before ++ after))) =
      byteLength before) (radius : Nat) :
    windowBounds? (before ++ after) offset radius =
      some (byteLength (before.take (before.length - radius)),
        byteLength before + byteLength (after.take radius)) := by
  -- The cut is between two characters, so both halves are slices.
  have front := slice?_append [] before after
  have back := slice?_append before after []
  rw [List.append_nil, ← byteLength_append] at back
  have stop := getElem?_startsFrom 0 after radius
  rw [Nat.zero_add, Nat.zero_add] at stop
  -- Behind the cut, starts are counted from it.
  have moved (start? : Option Nat) : (start?.map (byteLength before + ·)).getD
      (byteLength before + byteLength after) =
        byteLength before + start?.getD (byteLength after) := by
    cases start? <;> rfl
  unfold windowBounds?
  rw [middle]
  rw [List.nil_append, byteLength, Nat.zero_add] at front
  simp only [front, back, bind, Option.bind, pure]
  rw [getLast?_startsFrom, byteLength_append, moved, stop]

theorem byteLength_take_le {cs : List Char} {fewer count : Nat} (h : fewer ≤ count) :
    byteLength (cs.take fewer) ≤ byteLength (cs.take count) := by
  have grown : cs.take count = cs.take fewer ++ (cs.take count).drop fewer := by
    have split := List.take_append_drop fewer (cs.take count)
    rw [List.take_take, Nat.min_eq_left h] at split
    exact split.symm
  rw [grown, byteLength_append]
  exact Nat.le_add_right _ _

/-- What lies between a place in front of a boundary and one behind it. -/
theorem slice?_around (before after : List Char) (passed radius : Nat) :
    slice? (before ++ after) (byteLength (before.take passed))
        (byteLength before + byteLength (after.take radius)) =
      some (before.drop passed ++ after.take radius) := by
  have front := List.take_append_drop passed before
  have parts : before ++ after = before.take passed ++
      ((before.drop passed ++ after.take radius) ++ after.drop radius) := by
    rw [List.append_assoc, List.take_append_drop, ← List.append_assoc, front]
  have length : byteLength before = byteLength (before.take passed) +
      byteLength (before.drop passed) := by
    rw [← byteLength_append, front]
  rw [parts, length, Nat.add_assoc, ← byteLength_append]
  exact slice?_append _ _ _

theorem toList_window {text : String} {offset : Nat} {before after : List Char}
    (cut : splitAtByte offset text.toList = (before, after)) (radius : Nat) :
    (window text offset radius).toList =
      before.drop (before.length - radius) ++ after.take radius := by
  unfold window
  rw [cut, String.toList_ofList, List.take_reverse, List.reverse_reverse]

/-- A window is cut out of a text between two offsets, with the boundary that its offset counts as
between them, and made of so many characters to each side as there are. The wider a window, the
earlier it starts and the later it ends. -/
theorem window_spans (text : String) (offset : Nat) :
    IsGreatest {boundary | Boundary text.toList boundary ∧ boundary ≤ offset}
      (floorBoundary text offset) ∧
    ∃ (before after : List Char) (start stop : Nat → Nat),
      text.toList = before ++ after ∧ byteLength before = floorBoundary text offset ∧
      Antitone start ∧ Monotone stop ∧
      ∀ radius,
        windowBounds? text.toList offset radius = some (start radius, stop radius) ∧
        start radius ≤ floorBoundary text offset ∧ floorBoundary text offset ≤ stop radius ∧
        slice? text.toList (start radius) (stop radius) = some (window text offset radius).toList ∧
        (window text offset radius).toList =
          before.rtake (min radius before.length) ++ after.take (min radius after.length) := by
  refine ⟨isGreatest_floorBoundary text offset, ?_⟩
  obtain ⟨before, after, cut⟩ : ∃ before after, splitAtByte offset text.toList = (before, after) :=
    ⟨_, _, rfl⟩
  have split : text.toList = before ++ after := by
    have whole := append_splitAtByte offset text.toList
    rw [cut] at whole
    exact whole.symm
  -- The text is cut at the greatest boundary, and a window is taken on both sides of it.
  have middle : byteLength before = floorBoundary text offset := by
    unfold floorBoundary
    rw [cut]
  have lowered := lowered_eq_floorBoundary text offset
  rw [split, ← middle] at lowered
  refine ⟨before, after, fun radius => byteLength (before.take (before.length - radius)),
    fun radius => byteLength before + byteLength (after.take radius), split, middle, ?_, ?_, ?_⟩
  · intro radius wider more
    exact byteLength_take_le (Nat.sub_le_sub_left more _)
  · intro radius wider more
    exact Nat.add_le_add_left (byteLength_take_le more) _
  · intro radius
    rw [toList_window cut, ← middle, split]
    refine ⟨windowBounds?_append lowered radius, ?_, Nat.le_add_right _ _,
      slice?_around before after _ radius, ?_⟩
    · have most := @byteLength_take_le before _ _ (Nat.sub_le before.length radius)
      rwa [List.take_length] at most
    · -- A radius beyond the text reaches as far as the text does.
      have front : before.length - min radius before.length = before.length - radius := by omega
      have back : after.take (min radius after.length) = after.take radius := by
        rw [List.take_eq_take_iff]
        omega
      rw [List.rtake, front, back]

end Phrasebook.Text
