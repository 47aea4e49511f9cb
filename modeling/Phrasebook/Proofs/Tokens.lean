import Phrasebook.Proofs.Letters
import Phrasebook.Proofs.WrittenTables
import Phrasebook.Table.File

/-!
# Strings as they are written

The search for a name passes strings without decoding them: it takes two characters at a backslash
and one anywhere else, up to a quote. What the reader takes for a string ends at the same quote.

- `IsToken`: a string without its opening quote, and the letters that it stands for;
- `exists_isToken`: what is read as a string is a token and what follows it;
- `IsToken.takeString`: the search passes a token as a whole;
- `IsToken.parseText`: a token stands for its letters alone as well.
-/

namespace Phrasebook.Json

open TableFile (takeString)

variable {letters token text rest : List Char}

/-- A string from behind its opening quote up to its closing one is read as some letters, whatever
follows. -/
def IsToken (token letters : List Char) : Prop :=
  ∀ rest, readLetters (token ++ rest) = .ok (letters, rest)

/-! ## What the search passes -/

theorem takeString_quote (rest : List Char) : takeString ('"' :: rest) = (['"'], rest) := by
  rw [takeString]

theorem takeString_slash (c : Char) (rest : List Char) :
    takeString ('\\' :: c :: rest) =
      ('\\' :: c :: (takeString rest).1, (takeString rest).2) := by
  rw [takeString]

theorem takeString_plain {c : Char} (quote : c ≠ '"') (slash : c ≠ '\\') (rest : List Char) :
    takeString (c :: rest) = (c :: (takeString rest).1, (takeString rest).2) := by
  rw [takeString]
  · exact quote
  · rintro d others rfl
    exact absurd rfl slash

theorem append_takeString (text : List Char) :
    (takeString text).1 ++ (takeString text).2 = text := by
  fun_induction takeString text <;> simp_all

/-- Hexadecimal digits are passed one by one. -/
theorem takeString_digits {digits : List Char}
    (hex : ∀ c ∈ digits, (hexValue? c).isSome = true) (rest : List Char) :
    takeString (digits ++ rest) = (digits ++ (takeString rest).1, (takeString rest).2) := by
  induction digits with
  | nil => rfl
  | cons c others ih =>
    have digit := hex c List.mem_cons_self
    have quote : c ≠ '"' := by
      rintro rfl
      exact absurd digit (by decide)
    have slash : c ≠ '\\' := by
      rintro rfl
      exact absurd digit (by decide)
    rw [List.cons_append, takeString_plain quote slash,
      ih fun d among => hex d (List.mem_cons_of_mem _ among)]
    rfl

/-! ## Escapes -/

/-- Hexadecimal digits that are read as a unit, whatever follows. -/
structure IsUnit (digits : List Char) (unit : Nat) : Prop where
  hex : ∀ c ∈ digits, (hexValue? c).isSome = true
  read : ∀ rest, ∃ after, hexUnit (digits ++ rest) = .ok (unit, after) ∧ after.1 = rest

theorem of_hexUnit {unit : Nat} {after : { rest : List Char // rest.length < text.length }}
    (h : hexUnit text = .ok (unit, after)) :
    ∃ digits, text = digits ++ after.1 ∧ IsUnit digits unit := by
  unfold hexUnit at h
  split at h
  · rename_i a b c d others
    split at h
    · rename_i a' b' c' d' first second third fourth
      cases h
      refine ⟨[a, b, c, d], rfl, ?_, fun rest => ?_⟩
      · simp [first, second, third, fourth]
      · show ∃ after, hexUnit (a :: b :: c :: d :: rest) = _ ∧ _
        simp only [hexUnit, first, second, third, fourth]
        exact ⟨_, rfl, rfl⟩
    · cases h
  · split at h <;> cases h

/-- Hexadecimal digits that are read as the second half of a letter, behind a backslash and `u`. -/
structure IsLow (digits : List Char) (high : Nat) (letter : Char) : Prop where
  hex : ∀ c ∈ digits, (hexValue? c).isSome = true
  read : ∀ rest, ∃ after, readLowSurrogate high ('\\' :: 'u' :: (digits ++ rest)) =
    .ok (letter, after) ∧ after.1 = rest

theorem of_readLowSurrogate {high : Nat} {letter : Char}
    {after : { rest : List Char // rest.length < text.length }}
    (h : readLowSurrogate high text = .ok (letter, after)) :
    ∃ digits, text = '\\' :: 'u' :: (digits ++ after.1) ∧ IsLow digits high letter := by
  unfold readLowSurrogate at h
  split at h
  · cases h
  · cases h
  · rename_i others
    cases unit : hexUnit others with
    | error fault =>
      rw [unit] at h
      cases h
    | ok found =>
      obtain ⟨low, final, shorter⟩ := found
      rw [unit] at h
      dsimp only [bind, Except.bind] at h
      split at h
      · cases h
      · -- The two surrogates make a character, whatever text comes behind them.
        rename_i paired
        obtain ⟨rfl, rfl⟩ := Prod.mk.inj (Except.ok.inj h)
        obtain ⟨digits, whole, isUnit⟩ := of_hexUnit unit
        refine ⟨digits, congrArg ('\\' :: 'u' :: ·) whole, isUnit.hex, fun rest => ?_⟩
        obtain ⟨after', read, same⟩ := isUnit.read rest
        rw [readLowSurrogate, read]
        dsimp only [bind, Except.bind]
        rw [if_neg paired]
        exact ⟨_, rfl, same⟩
  · cases h
  · cases h

/-- What follows a backslash is passed to where the reader leaves off, with the letter. -/
structure IsEscape (escape : List Char) (letter : Char) : Prop where
  passed : ∀ rest, takeString ('\\' :: (escape ++ rest)) =
    ('\\' :: (escape ++ (takeString rest).1), (takeString rest).2)
  read : ∀ rest, ∃ after, readEscape (escape ++ rest) = .ok (letter, after) ∧ after.1 = rest

/-- Four digits may be a letter. -/
theorem IsUnit.isEscape {digits : List Char} {unit : Nat} (isUnit : IsUnit digits unit)
    (notLow : ¬ (0xDC00 ≤ unit ∧ unit ≤ 0xDFFF)) (single : unit < 0xD800 ∨ 0xDBFF < unit) :
    IsEscape ('u' :: digits) (Char.ofNat unit) := by
  refine ⟨fun rest => ?_, fun rest => ?_⟩
  · rw [List.cons_append, takeString_slash, takeString_digits isUnit.hex]
    rfl
  · obtain ⟨after, read, same⟩ := isUnit.read rest
    rw [List.cons_append, readEscape, read]
    dsimp only [bind, Except.bind]
    rw [if_neg notLow, if_pos single]
    exact ⟨_, rfl, same⟩

/-- Or they are the first half of a letter. -/
theorem IsLow.isEscape {digits digits' : List Char} {high : Nat} {letter : Char}
    (isUnit : IsUnit digits high) (isLow : IsLow digits' high letter)
    (notLow : ¬ (0xDC00 ≤ high ∧ high ≤ 0xDFFF)) (notSingle : ¬ (high < 0xD800 ∨ 0xDBFF < high)) :
    IsEscape ('u' :: (digits ++ '\\' :: 'u' :: digits')) letter := by
  refine ⟨fun rest => ?_, fun rest => ?_⟩
  · -- The search passes both units, as no digit is a quote or a backslash.
    rw [List.cons_append, takeString_slash, List.append_assoc, takeString_digits isUnit.hex]
    show (_, _) = _
    rw [List.cons_append, List.cons_append, takeString_slash, takeString_digits isLow.hex]
    simp
  · -- Reading joins them to the letter.
    obtain ⟨middle, read, same⟩ := isUnit.read ('\\' :: 'u' :: (digits' ++ rest))
    obtain ⟨after, read', same'⟩ := isLow.read rest
    have split : 'u' :: (digits ++ '\\' :: 'u' :: digits') ++ rest =
        'u' :: (digits ++ '\\' :: 'u' :: (digits' ++ rest)) := by simp
    obtain ⟨middle, shorter⟩ := middle
    dsimp only at same
    subst same
    rw [split, readEscape, read]
    dsimp only [bind, Except.bind]
    rw [if_neg notLow, if_neg notSingle, read']
    exact ⟨_, rfl, same'⟩

theorem isEscape_simple {c letter : Char} (simple : simpleEscape? c = some letter)
    (notUnit : c ≠ 'u') : IsEscape [c] letter := by
  refine ⟨takeString_slash c, fun rest => ?_⟩
  show ∃ after, readEscape (c :: rest) = _ ∧ _
  rw [readEscape]
  · rw [simple]
    exact ⟨_, rfl, rfl⟩
  · exact notUnit

theorem of_readEscape {letter : Char} {after : { rest : List Char // rest.length < text.length }}
    (h : readEscape text = .ok (letter, after)) :
    ∃ escape, text = escape ++ after.1 ∧ IsEscape escape letter := by
  unfold readEscape at h
  split at h
  · cases h
  · rename_i others
    cases unit : hexUnit others with
    | error fault =>
      rw [unit] at h
      cases h
    | ok found =>
      obtain ⟨value, middle, shorter⟩ := found
      rw [unit] at h
      dsimp only [bind, Except.bind] at h
      obtain ⟨digits, whole, isUnit⟩ := of_hexUnit unit
      split at h
      · cases h
      · rename_i notLow
        split at h
        · -- A unit that is a character by itself.
          rename_i single
          obtain ⟨rfl, rfl⟩ := Prod.mk.inj (Except.ok.inj h)
          exact ⟨_, congrArg ('u' :: ·) whole, isUnit.isEscape notLow single⟩
        · rename_i notSingle
          cases second : readLowSurrogate value middle with
          | error fault =>
            rw [second] at h
            cases h
          | ok found =>
            obtain ⟨joined, final, shorter'⟩ := found
            rw [second] at h
            obtain ⟨rfl, rfl⟩ := Prod.mk.inj (Except.ok.inj h)
            obtain ⟨digits', whole', isLow⟩ := of_readLowSurrogate second
            dsimp only at whole whole'
            exact ⟨_, by simp [whole, whole'], isLow.isEscape isUnit notLow notSingle⟩
  · -- A short escape.
    rename_i c others notUnit
    split at h
    · rename_i found simple
      obtain ⟨rfl, rfl⟩ := Prod.mk.inj (Except.ok.inj h)
      exact ⟨[c], rfl, isEscape_simple simple notUnit⟩
    · cases h

/-! ## Whole strings -/

/-- What is read as a string is a token and what follows it, and the token is passed as a whole. -/
theorem exists_token (h : readLetters text = .ok (letters, rest)) :
    ∃ token, text = token ++ rest ∧ IsToken token letters ∧
      ∀ rest, takeString (token ++ rest) = (token, rest) := by
  induction long : text.length using Nat.strongRecOn generalizing text letters with
  | ind size ih =>
    cases text with
    | nil =>
      rw [readLetters_nil] at h
      cases h
    | cons c others =>
      -- A letter goes in front of a shorter string.
      have longer {front left : List Char} {letter : Char} (whole : c :: others = front ++ left)
          (shorter : left.length < size)
          (passed : ∀ rest, takeString (front ++ rest) =
            (front ++ (takeString rest).1, (takeString rest).2))
          (reads : ∀ rest, readLetters (front ++ rest) =
            (readLetters rest).map fun read => (letter :: read.1, read.2))
          (h : ((readLetters left).map fun read => (letter :: read.1, read.2)) =
            .ok (letters, rest)) :
          ∃ token, c :: others = token ++ rest ∧ IsToken token letters ∧
            ∀ rest, takeString (token ++ rest) = (token, rest) := by
        cases found : readLetters left with
        | error fault =>
          rw [found] at h
          cases h
        | ok parts =>
          obtain ⟨letters', rest'⟩ := parts
          rw [found] at h
          cases h
          obtain ⟨token, rfl, read, take⟩ := ih _ shorter found rfl
          refine ⟨front ++ token, by rw [whole, List.append_assoc], fun rest => ?_, fun rest => ?_⟩
          · rw [List.append_assoc, reads, read]
            rfl
          · rw [List.append_assoc, passed, take]
      rw [List.length_cons] at long
      -- The string ends here.
      by_cases quote : c = '"'
      · subst quote
        rw [readLetters_quote] at h
        cases h
        exact ⟨['"'], rfl, readLetters_quote, takeString_quote⟩
      -- An escape, which is passed and read as a whole.
      by_cases slash : c = '\\'
      · subst slash
        rw [readLetters_slash] at h
        cases escaped : readEscape others with
        | error fault =>
          rw [escaped] at h
          cases h
        | ok found =>
          obtain ⟨letter, after, shorter⟩ := found
          rw [escaped] at h
          obtain ⟨escape, whole, isEscape⟩ := of_readEscape escaped
          dsimp only at whole
          refine @longer ('\\' :: escape) after letter (congrArg ('\\' :: ·) whole) (by omega)
            isEscape.passed (fun rest => ?_) h
          obtain ⟨⟨after', shorter'⟩, read, same⟩ := isEscape.read rest
          dsimp only at same
          subst same
          rw [List.cons_append, readLetters_slash, read]
      -- Any other character stands for itself, unless it is a control character.
      by_cases control : c.toNat < 0x20
      · rw [readLetters_control quote slash control] at h
        cases h
      · rw [readLetters_plain quote slash control] at h
        exact @longer [c] others c rfl (by omega) (takeString_plain quote slash)
          (readLetters_plain quote slash control) h

/-- The search passes a token as a whole. -/
theorem IsToken.takeString (h : IsToken token letters) (rest : List Char) :
    TableFile.takeString (token ++ rest) = (token, rest) := by
  obtain ⟨token', same, -, passed⟩ := exists_token (h rest)
  rw [List.append_cancel_right same, passed]

theorem exists_isToken (h : readLetters text = .ok (letters, rest)) :
    ∃ token, text = token ++ rest ∧ IsToken token letters := by
  obtain ⟨token, whole, read, -⟩ := exists_token h
  exact ⟨token, whole, read⟩

/-- A token stands for its letters alone as well. -/
theorem IsToken.parseText (h : IsToken token letters) :
    Json.parseText (String.ofList ('"' :: token)) = .ok (String.ofList letters) := by
  refine readAll_of_run ?_
  have read : readText.run ('"' :: token) = .ok (String.ofList letters, []) := by
    have alone := h []
    rw [List.append_nil] at alone
    rw [run_readText, List.tail_cons, alone]
    rfl
  rw [String.toList_ofList]
  exact read

end Phrasebook.Json
