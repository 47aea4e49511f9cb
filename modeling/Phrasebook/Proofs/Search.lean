import Mathlib.Data.List.Infix
import Phrasebook.Text.Search

/-!
# Words that are found

- `splitAtWord?_eq_some_iff`, `splitAtWord?_eq_none_iff`: a text is split at the first occurrence of
  a word, if there is one;
- `splitAtLast?_eq_some_iff`: and at the last occurrence of a character;
- `infix_append_cons_iff`: a word does not reach across a character that it does not have.
-/

namespace Phrasebook.Text

/-! ## Occurrences -/

theorem mem_of_prefix_cons {word others : List Char} {c : Char} (filled : word ≠ [])
    (h : word <+: c :: others) : c ∈ word := by
  obtain ⟨d, rest, rfl⟩ := List.exists_cons_of_ne_nil filled
  rw [(List.cons_prefix_cons.mp h).1]
  exact List.mem_cons_self

/-- A word does not reach across a character that it does not have. -/
theorem infix_append_cons_iff {word text others : List Char} {c : Char} (filled : word ≠ [])
    (clean : c ∉ word) : word <:+: text ++ c :: others ↔ word <:+: text ∨ word <:+: others := by
  constructor
  · intro h
    rcases List.infix_append_iff_ne_nil.mp h with left | right | ⟨front, back, -, more, rfl, -, led⟩
    · exact .inl left
    · rcases List.infix_cons_iff.mp right with led | inside
      · exact absurd (mem_of_prefix_cons filled led) clean
      · exact .inr inside
    · exact absurd (List.mem_append_right _ (mem_of_prefix_cons more led)) clean
  · rintro (⟨front, back, rfl⟩ | ⟨front, back, rfl⟩)
    · exact ⟨front, back ++ c :: others, by simp⟩
    · exact ⟨text ++ c :: front, back, by simp⟩

/-! ## The first occurrence -/

theorem splitAtWord?_eq_none_iff {word text : List Char} :
    splitAtWord? word text = none ↔ ¬ word <:+: text := by
  induction text with
  | nil => cases word <;> simp [splitAtWord?]
  | cons c rest ih =>
    rw [splitAtWord?, List.infix_cons_iff]
    by_cases led : word <+: c :: rest
    · simp [led]
    · simp [led, ih]

/-- A text is split where the word is found first: the word does not end any sooner. -/
theorem splitAtWord?_eq_some_iff {word text before after : List Char} (filled : word ≠ []) :
    splitAtWord? word text = some (before, after) ↔
      text = before ++ word ++ after ∧ ¬ word <:+: before ++ word.dropLast := by
  have short : (word.dropLast).length + 1 = word.length := by
    rw [List.length_dropLast]
    have := List.length_pos_iff.mpr filled
    omega
  induction text generalizing before with
  | nil =>
    obtain ⟨c, rest, rfl⟩ := List.exists_cons_of_ne_nil filled
    simp [splitAtWord?]
  | cons c rest ih =>
    rw [splitAtWord?]
    by_cases led : word <+: c :: rest
    · rw [if_pos (List.isPrefixOf_iff_prefix.mpr led)]
      constructor
      · intro h
        cases h
        refine ⟨(List.prefix_iff_eq_append.mp led).symm, fun inside => ?_⟩
        have := inside.length_le
        rw [List.nil_append] at this
        omega
      · rintro ⟨whole, first⟩
        -- The word stands at the front, so nothing can stand before its first occurrence.
        have none : before = [] := by
          by_contra some
          have long := List.length_pos_iff.mpr some
          have whole' : before ++ word.dropLast <+: c :: rest := by
            rw [whole, List.append_assoc]
            exact (List.prefix_append_right_inj before).mpr
              ((List.dropLast_prefix word).trans (List.prefix_append _ _))
          refine first (List.prefix_of_prefix_length_le led whole' ?_).isInfix
          rw [List.length_append]
          omega
        rw [whole, none, List.nil_append, List.drop_left]
    · rw [if_neg (by simpa using led), Option.map_eq_some_iff]
      constructor
      · rintro ⟨⟨before', after'⟩, found, same⟩
        cases same
        obtain ⟨whole, first⟩ := ih.mp found
        refine ⟨by rw [whole]; rfl, fun inside => ?_⟩
        -- A first occurrence at the very front would have been seen at this step.
        rcases List.infix_cons_iff.mp inside with front | inside
        · refine led (front.trans ?_)
          rw [whole]
          refine (List.prefix_cons_inj c).mpr ?_
          rw [List.append_assoc]
          exact (List.prefix_append_right_inj before').mpr
            ((List.dropLast_prefix word).trans (List.prefix_append _ _))
        · exact first inside
      · rintro ⟨whole, first⟩
        cases before with
        | nil => exact absurd ⟨after, whole.symm⟩ led
        | cons b bs =>
          obtain ⟨rfl, tails⟩ := List.cons.inj whole
          exact ⟨(bs, after), ih.mpr ⟨tails, fun inside => first (List.infix_cons inside)⟩, rfl⟩

theorem splitAtWord?_append {word text before after : List Char} (filled : word ≠ [])
    (h : splitAtWord? word text = some (before, after)) (more : List Char) :
    splitAtWord? word (text ++ more) = some (before, after ++ more) := by
  obtain ⟨rfl, first⟩ := (splitAtWord?_eq_some_iff filled).mp h
  exact (splitAtWord?_eq_some_iff filled).mpr ⟨List.append_assoc _ _ _, first⟩

/-- A word that is not in the first part of a text is found as if the text began with the mark
behind it, if it does not have the mark. -/
theorem splitAtWord?_behind {word text others before after : List Char} {mark : Char}
    (filled : word ≠ []) (clean : mark ∉ word) (absent : ¬ word <:+: text)
    (h : splitAtWord? word (mark :: others) = some (before, after)) :
    splitAtWord? word (text ++ mark :: others) = some (text ++ before, after) ∧
      ∃ rest, before = mark :: rest := by
  obtain ⟨whole, first⟩ := (splitAtWord?_eq_some_iff filled).mp h
  cases before with
  | nil =>
    -- The word would begin with the mark.
    have led : word <+: mark :: others := ⟨after, whole.symm⟩
    exact absurd (mem_of_prefix_cons filled led) clean
  | cons c rest =>
    obtain ⟨rfl, -⟩ := List.cons.inj whole
    refine ⟨(splitAtWord?_eq_some_iff filled).mpr ⟨by rw [whole]; simp, fun inside => ?_⟩,
      rest, rfl⟩
    rw [List.append_assoc, List.cons_append, infix_append_cons_iff filled clean] at inside
    exact inside.elim absent fun inside => first (List.infix_cons inside)

theorem exists_splitAtWord? {word text : List Char} (h : word <:+: text) :
    ∃ before after, splitAtWord? word text = some (before, after) := by
  cases found : splitAtWord? word text with
  | none => exact absurd h (splitAtWord?_eq_none_iff.mp found)
  | some parts => exact ⟨parts.1, parts.2, rfl⟩

theorem splitAtWord?_singleton {mark : Char} {text before after : List Char} :
    splitAtWord? [mark] text = some (before, after) ↔
      text = before ++ mark :: after ∧ mark ∉ before := by
  rw [splitAtWord?_eq_some_iff (List.cons_ne_nil _ _)]
  simp [List.singleton_infix_iff]

/-! ## The last occurrence -/

theorem splitAtLast?_eq_none_iff {mark : Char} {text : List Char} :
    splitAtLast? mark text = none ↔ mark ∉ text := by
  induction text with
  | nil => simp [splitAtLast?]
  | cons c rest ih =>
    rw [splitAtLast?, List.mem_cons, not_or]
    cases found : splitAtLast? mark rest with
    | none =>
      have clean := ih.mp found
      by_cases here : c = mark
      · simp [here]
      · simp [here, Ne.symm here, clean]
    | some parts =>
      have there : mark ∈ rest := by
        by_contra clean
        rw [ih.mpr clean] at found
        cases found
      simp [there]

theorem splitAtLast?_eq_some_iff {mark : Char} {text before after : List Char} :
    splitAtLast? mark text = some (before, after) ↔
      text = before ++ mark :: after ∧ mark ∉ after := by
  induction text generalizing before with
  | nil => simp [splitAtLast?]
  | cons c rest ih =>
    rw [splitAtLast?]
    cases found : splitAtLast? mark rest with
    -- The mark comes again further on, and that one counts.
    | some parts =>
      obtain ⟨before', after'⟩ := parts
      constructor
      · intro h
        cases h
        obtain ⟨whole, last⟩ := ih.mp found
        exact ⟨congrArg (c :: ·) whole, last⟩
      · rintro ⟨whole, last⟩
        cases before with
        | nil =>
          obtain ⟨-, rfl⟩ := List.cons.inj whole
          -- A mark further on contradicts that there is none behind this one.
          rw [splitAtLast?_eq_none_iff.mpr last] at found
          cases found
        | cons b bs =>
          obtain ⟨rfl, tails⟩ := List.cons.inj whole
          cases found.symm.trans (ih.mpr ⟨tails, last⟩)
          rfl
    -- It does not, so only the character in front can be the last mark.
    | none =>
      have clean := splitAtLast?_eq_none_iff.mp found
      constructor
      · intro h
        dsimp only at h
        split at h
        · rename_i here
          cases h
          exact ⟨congrArg (· :: after) here, clean⟩
        · cases h
      · rintro ⟨whole, -⟩
        cases before with
        | nil =>
          obtain ⟨here, tails⟩ := List.cons.inj whole
          rw [← tails]
          exact if_pos here
        | cons b bs =>
          refine absurd ?_ clean
          rw [show rest = bs ++ mark :: after from (List.cons.inj whole).2]
          exact List.mem_append_right _ List.mem_cons_self

end Phrasebook.Text
