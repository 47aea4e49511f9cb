import Phrasebook.Json.Reader
import Phrasebook.Json.Writer

/-!
# Written strings

A string that is written between quotes is read back, and no shorter text is read as a string.

- `readLetters_escape`: a written letter is read as itself;
- `readLetters_of_prefix`: the beginning of a written string is read only if it holds the
  closing quote.
-/

namespace Phrasebook.Json

/-! ## Single letters -/

theorem hexValue?_hexDigit {value : Nat} (h : value < 16) :
    hexValue? (hexDigit value) = some value := by
  have all : ∀ value < 16, hexValue? (hexDigit value) = some value := by decide
  exact all value h

/-- The written form of a letter is the letter, an escape of one letter, or four digits. -/
theorem escape_cases (c : Char) :
    (escape c = [c] ∧ c ≠ '"' ∧ c ≠ '\\' ∧ ¬ c.toNat < 0x20) ∨
      (∃ d, escape c = ['\\', d] ∧ d ≠ 'u' ∧ simpleEscape? d = some c) ∨
      (c.toNat < 0x20 ∧
        escape c = ['\\', 'u', '0', '0', hexDigit (c.toNat / 16), hexDigit (c.toNat % 16)]) := by
  unfold escape
  split
  · rename_i same
    exact .inr (.inl ⟨_, rfl, by decide, by rw [same]; rfl⟩)
  split
  · rename_i same
    exact .inr (.inl ⟨_, rfl, by decide, by rw [same]; rfl⟩)
  split
  · rename_i same
    exact .inr (.inl ⟨_, rfl, by decide, by rw [same]; rfl⟩)
  split
  · rename_i same
    exact .inr (.inl ⟨_, rfl, by decide, by rw [same]; rfl⟩)
  split
  · rename_i same
    exact .inr (.inl ⟨_, rfl, by decide, by rw [same]; rfl⟩)
  split
  · rename_i same
    exact .inr (.inl ⟨_, rfl, by decide, by rw [same]; rfl⟩)
  split
  · rename_i same
    exact .inr (.inl ⟨_, rfl, by decide, by rw [same]; rfl⟩)
  split
  · -- No short escape is left: a control character is written in hexadecimal digits.
    rename_i control
    exact .inr (.inr ⟨control, rfl⟩)
  · rename_i quote slash _ _ _ _ _ visible
    exact .inl ⟨rfl, quote, slash, visible⟩

theorem readLetters_nil : readLetters [] = .error ⟨.endInString, [], 0⟩ := by
  rw [readLetters]

theorem readLetters_quote (rest : List Char) : readLetters ('"' :: rest) = .ok ([], rest) := by
  rw [readLetters]

theorem readLetters_slash (rest : List Char) :
    readLetters ('\\' :: rest) =
      match readEscape rest with
      | .error fault => .error fault
      | .ok (letter, ⟨after, _⟩) =>
        (readLetters after).map fun (letters, final) => (letter :: letters, final) := by
  rw [readLetters]
  rcases readEscape rest with fault | ⟨letter, after, shorter⟩
  · rfl
  · dsimp only
    cases readLetters after <;> rfl

theorem readLetters_control {c : Char} (quote : c ≠ '"') (slash : c ≠ '\\')
    (control : c.toNat < 0x20) (rest : List Char) :
    readLetters (c :: rest) = .error ⟨.controlCharacter, c :: rest, 1⟩ := by
  rw [readLetters]
  · rw [if_pos control]
  · exact quote
  · exact slash

theorem readLetters_plain {c : Char} (quote : c ≠ '"') (slash : c ≠ '\\')
    (visible : ¬ c.toNat < 0x20) (rest : List Char) :
    readLetters (c :: rest) =
      (readLetters rest).map fun (letters, final) => (c :: letters, final) := by
  rw [readLetters]
  · rw [if_neg visible]
    cases readLetters rest <;> rfl
  · exact quote
  · exact slash

theorem hexUnit_control {value : Nat} (h : value < 0x20) (rest : List Char) :
    ∃ shorter, hexUnit ('0' :: '0' :: hexDigit (value / 16) :: hexDigit (value % 16) :: rest) =
      .ok (value, ⟨rest, shorter⟩) := by
  have high := @hexValue?_hexDigit (value / 16) (by omega)
  have low := @hexValue?_hexDigit (value % 16) (by omega)
  have zero : hexValue? '0' = some 0 := by decide
  have whole : ((0 * 16 + 0) * 16 + value / 16) * 16 + value % 16 = value := by omega
  simp only [hexUnit, zero, high, low, whole]
  exact ⟨by simp only [List.length_cons]; omega, trivial⟩

/-- A written letter is read as itself. -/
theorem readLetters_escape (c : Char) (rest : List Char) :
    readLetters (escape c ++ rest) =
      (readLetters rest).map fun (letters, final) => (c :: letters, final) := by
  rcases escape_cases c with ⟨same, quote, slash, visible⟩ | ⟨d, same, other, simple⟩ |
    ⟨control, same⟩
  · -- The character stands for itself.
    rw [same]
    exact readLetters_plain quote slash visible rest
  · -- A backslash and one more character.
    rw [same]
    show readLetters ('\\' :: d :: rest) = _
    have read : readEscape (d :: rest) = .ok (c, ⟨rest, by simp⟩) := by
      rw [readEscape]
      · rw [simple]
      · exact other
    rw [readLetters_slash, read]
  · -- A control character, by four hexadecimal digits.
    rw [same]
    obtain ⟨shorter, unit⟩ := hexUnit_control control rest
    have read : ∃ shorter, readEscape ('u' :: '0' :: '0' :: hexDigit (c.toNat / 16) ::
        hexDigit (c.toNat % 16) :: rest) = .ok (c, ⟨rest, shorter⟩) := by
      rw [readEscape, unit]
      dsimp only [bind, Except.bind]
      rw [if_neg (by omega), if_pos (by omega), Char.ofNat_toNat]
      exact ⟨_, rfl⟩
    obtain ⟨shorter, read⟩ := read
    show readLetters ('\\' :: 'u' :: '0' :: '0' :: hexDigit (c.toNat / 16) ::
      hexDigit (c.toNat % 16) :: rest) = _
    rw [readLetters_slash, read]

theorem hexUnit_short {text : List Char} (short : text.length < 4) :
    ∃ fault, hexUnit text = .error fault := by
  unfold hexUnit
  split
  · simp only [List.length_cons] at short
    omega
  · split
    · exact ⟨_, rfl⟩
    · exact ⟨_, rfl⟩

/-- The beginning of a written letter is not read. -/
theorem readLetters_short {c : Char} {text : List Char} (h : text <+: escape c)
    (short : text ≠ escape c) : ∃ fault, readLetters text = .error fault := by
  cases text with
  | nil => exact ⟨_, readLetters_nil⟩
  | cons first rest =>
    rcases escape_cases c with ⟨same, -⟩ | ⟨d, same, -⟩ | ⟨-, same⟩
    · rw [same] at h short
      obtain ⟨rfl, part⟩ := List.cons_prefix_cons.mp h
      exact absurd (congrArg (first :: ·) (List.prefix_nil.mp part)) short
    · -- Only the backslash is left.
      rw [same] at h short
      obtain ⟨rfl, part⟩ := List.cons_prefix_cons.mp h
      rw [readLetters_slash]
      rcases List.prefix_cons_iff.mp part with rfl | ⟨more, rfl, last⟩
      · exact ⟨_, rfl⟩
      · exact absurd (congrArg (fun more => ['\\', d] ++ more) (List.prefix_nil.mp last)) short
    · -- The backslash is left, or too few digits.
      rw [same] at h short
      obtain ⟨rfl, part⟩ := List.cons_prefix_cons.mp h
      rw [readLetters_slash]
      rcases List.prefix_cons_iff.mp part with rfl | ⟨digits, rfl, last⟩
      · exact ⟨_, rfl⟩
      · have few : digits.length < 4 := by
          refine Nat.lt_of_le_of_ne last.length_le fun full => short ?_
          rw [last.eq_of_length full]
        obtain ⟨fault, unread⟩ := hexUnit_short few
        rw [readEscape, unread]
        exact ⟨_, rfl⟩

/-! ## Strings -/

/-- A string with its closing quote is read back. -/
theorem readLetters_quoted (letters rest : List Char) :
    readLetters (letters.flatMap escape ++ '"' :: rest) = .ok (letters, rest) := by
  induction letters with
  | nil => exact readLetters_quote rest
  | cons c others ih =>
    rw [List.flatMap_cons, List.append_assoc, readLetters_escape, ih]
    rfl

theorem prefix_append_cases {text front others : List Char} (h : text <+: front ++ others) :
    text <+: front ∧ text ≠ front ∨ ∃ rest, text = front ++ rest ∧ rest <+: others := by
  by_cases long : front.length ≤ text.length
  · obtain ⟨rest, rfl⟩ := List.prefix_of_prefix_length_le (List.prefix_append front others) h long
    exact .inr ⟨rest, rfl, (List.prefix_append_right_inj front).mp h⟩
  · refine .inl ⟨List.prefix_of_prefix_length_le h (List.prefix_append front others) (by omega), ?_⟩
    rintro rfl
    exact long (Nat.le_refl _)

/-- The beginning of a written string is read only if it holds the closing quote. -/
theorem readLetters_of_prefix {letters after text read rest : List Char}
    (h : text <+: letters.flatMap escape ++ '"' :: after)
    (done : readLetters text = .ok (read, rest)) :
    text = letters.flatMap escape ++ '"' :: rest ∧ rest <+: after ∧ read = letters := by
  induction letters generalizing text read with
  | nil =>
    rcases List.prefix_cons_iff.mp h with rfl | ⟨more, rfl, inside⟩
    · rw [readLetters_nil] at done
      cases done
    · rw [readLetters_quote] at done
      cases done
      exact ⟨rfl, inside, rfl⟩
  | cons c others ih =>
    rw [List.flatMap_cons, List.append_assoc] at h ⊢
    rcases prefix_append_cases h with ⟨part, short⟩ | ⟨more, rfl, tails⟩
    · -- The text ends inside of an escape, which cannot be read.
      obtain ⟨fault, unread⟩ := readLetters_short part short
      rw [unread] at done
      cases done
    · rw [readLetters_escape] at done
      cases found : readLetters more with
      | error fault =>
        rw [found] at done
        cases done
      | ok parts =>
        obtain ⟨read', rest'⟩ := parts
        rw [found] at done
        cases done
        obtain ⟨whole, inside, rfl⟩ := ih tails found
        exact ⟨by rw [whole], inside, rfl⟩

end Phrasebook.Json
