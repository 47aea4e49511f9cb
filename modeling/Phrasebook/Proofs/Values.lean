import Phrasebook.Json.Parse
import Phrasebook.Proofs.Members

/-!
# Values that are read

What comes next tells what a value is. A word or a number is made of letters, digits and signs:
neither quotes nor backslashes are passed.

- `Passes`: one text is what is left of another after such characters;
- `passes_passWord`, `passes_readNumberText`: what is left after a word and after a number;
- `of_read`, `of_read_quote`: what is left after any value.
-/

namespace Phrasebook.Json

/-- What is left of a text when characters that are neither quotes nor backslashes were passed. -/
def Passes (text rest : List Char) : Prop :=
  ∃ front, text = front ++ rest ∧ '"' ∉ front ∧ '\\' ∉ front

theorem Passes.refl (text : List Char) : Passes text text := ⟨[], rfl, nofun, nofun⟩

theorem Passes.trans {text middle rest : List Char} (first : Passes text middle)
    (second : Passes middle rest) : Passes text rest := by
  obtain ⟨front, rfl, quotes, slashes⟩ := first
  obtain ⟨front', rfl, quotes', slashes'⟩ := second
  refine ⟨front ++ front', (List.append_assoc _ _ _).symm, ?_, ?_⟩
  · exact fun h => (List.mem_append.mp h).elim quotes quotes'
  · exact fun h => (List.mem_append.mp h).elim slashes slashes'

theorem Passes.cons {c : Char} {text rest : List Char} (quote : c ≠ '"') (slash : c ≠ '\\')
    (h : Passes text rest) : Passes (c :: text) rest := by
  obtain ⟨front, rfl, quotes, slashes⟩ := h
  exact ⟨c :: front, rfl, List.not_mem_cons_of_ne_of_not_mem quote.symm quotes,
    List.not_mem_cons_of_ne_of_not_mem slash.symm slashes⟩

theorem Passes.one {c : Char} {text : List Char} (quote : c ≠ '"') (slash : c ≠ '\\') :
    Passes (c :: text) text := (Passes.refl text).cons quote slash

theorem passes_dropWhile_isBlank (text : List Char) : Passes text (text.dropWhile isBlank) := by
  induction text with
  | nil => exact .refl _
  | cons c rest ih =>
    by_cases blank : isBlank c = true
    · rw [List.dropWhile_cons_of_pos blank]
      refine ih.cons ?_ ?_
      · rintro rfl
        exact absurd blank (by decide)
      · rintro rfl
        exact absurd blank (by decide)
    · rw [List.dropWhile_cons_of_neg blank]
      exact .refl _

/-- A word is passed letter by letter. -/
theorem passes_passWord {word text rest : List Char} (quotes : '"' ∉ word) (slashes : '\\' ∉ word)
    (h : (passWord word).run text = .ok ((), rest)) : Passes text rest := by
  induction word generalizing text with
  | nil =>
    cases h
    exact .refl _
  | cons c letters ih =>
    obtain ⟨c?, middle, first, h⟩ := of_run_bind h
    cases first
    cases text with
    | nil => exact (not_of_refuse h).elim
    | cons d others =>
      dsimp only [List.head?_cons] at h
      split at h
      · rename_i same
        obtain ⟨⟨⟩, tail, pass, h⟩ := of_run_bind h
        cases pass
        rw [List.mem_cons, not_or] at quotes slashes
        exact (ih quotes.2 slashes.2 h).cons (same ▸ Ne.symm quotes.1) (same ▸ Ne.symm slashes.1)
      · exact (not_of_refuseNext h).elim

/-! ## Numbers -/

theorem passes_of_digit? {c : Char} {value : Nat} (h : digit? c = some value)
    {text rest : List Char} (later : Passes text rest) : Passes (c :: text) rest := by
  refine later.cons ?_ ?_
  · rintro rfl
    cases h
  · rintro rfl
    cases h

theorem passes_takeDigits (text : List Char) : Passes text (takeDigits text).2 := by
  induction text with
  | nil => exact .refl _
  | cons c rest ih =>
    unfold takeDigits
    split
    · exact .refl _
    · rename_i value digit
      exact passes_of_digit? digit ih

theorem passes_readExponentDigits (value : Nat) (text : List Char) :
    Passes text (readExponentDigits value text).2 := by
  induction text generalizing value with
  | nil => exact .refl _
  | cons c rest ih =>
    unfold readExponentDigits
    split
    · exact .refl _
    · rename_i digit found
      dsimp only
      split
      · exact passes_of_digit? found (.refl _)
      · exact passes_of_digit? found (ih _)

theorem passes_scaled {negative : Bool} {value : Nat} {exponent : Int} {text rest : List Char}
    {numeral : Numeral} (h : (scaled negative value exponent).run text = .ok (numeral, rest)) :
    Passes text rest := by
  unfold scaled at h
  split at h
  · exact (not_of_refuse h).elim
  · cases h
    exact .refl _

theorem passes_readExponentSize {negative down : Bool} {value : Nat} {exponent : Int}
    {text rest : List Char} {numeral : Numeral}
    (h : (readExponentSize negative down value exponent).run text = .ok (numeral, rest)) :
    Passes text rest := by
  unfold readExponentSize at h
  obtain ⟨c?, middle, first, h⟩ := of_run_bind h
  cases first
  cases text with
  | nil => exact (not_of_refuse h).elim
  | cons c others =>
    dsimp only [List.head?_cons] at h
    split at h
    · exact (not_of_refuseNext h).elim
    · rename_i digit found
      obtain ⟨⟨⟩, tail, pass, h⟩ := of_run_bind h
      cases pass
      obtain ⟨text, tail, here, h⟩ := of_run_bind h
      cases here
      have digits := passes_readExponentDigits digit others
      refine passes_of_digit? found (digits.trans ?_)
      rw [List.tail_cons] at h
      generalize readExponentDigits digit others = parts at h ⊢
      obtain ⟨size?, left⟩ := parts
      obtain ⟨⟨⟩, tail, pass, h⟩ := of_run_bind h
      cases pass
      cases size? with
      -- The exponent is small enough to scale by.
      | some size => exact passes_scaled h
      -- It is too large: the number is refused, or zero once the digits left are passed.
      | none =>
        dsimp only at h
        split at h
        · exact (not_of_refuse h).elim
        · obtain ⟨⟨⟩, tail, pass, h⟩ := of_run_bind h
          cases pass
          cases h
          exact passes_takeDigits left

theorem passes_readExponent {negative : Bool} {value : Nat} {exponent : Int} {c : Char}
    {text rest : List Char} {numeral : Numeral} (quote : c ≠ '"') (slash : c ≠ '\\')
    (h : (readExponent negative value exponent).run (c :: text) = .ok (numeral, rest)) :
    Passes (c :: text) rest := by
  refine Passes.cons quote slash ?_
  unfold readExponent at h
  obtain ⟨⟨⟩, tail, pass, h⟩ := of_run_bind h
  cases pass
  obtain ⟨c?, middle, first, h⟩ := of_run_bind h
  cases first
  -- A sign is passed, and then the digits as without it.
  have signed {sign : Char} {down : Bool} (here : text.head? = some sign) (quote : sign ≠ '"')
      (slash : sign ≠ '\\')
      (h : (do advance; readExponentSize negative down value exponent).run text =
        .ok (numeral, rest)) : Passes text rest := by
    obtain ⟨others, rfl⟩ := List.head?_eq_some_iff.mp here
    obtain ⟨⟨⟩, tail, pass, h⟩ := of_run_bind h
    cases pass
    exact (passes_readExponentSize h).cons quote slash
  dsimp only [List.tail_cons] at h
  split at h
  · exact signed ‹_› (by decide) (by decide) h
  · exact signed ‹_› (by decide) (by decide) h
  · exact passes_readExponentSize h

theorem passes_readScale {negative : Bool} {value : Nat} {exponent : Int}
    {text rest : List Char} {numeral : Numeral}
    (h : (readScale negative value exponent).run text = .ok (numeral, rest)) :
    Passes text rest := by
  unfold readScale at h
  obtain ⟨c?, middle, first, h⟩ := of_run_bind h
  cases first
  split at h
  · rename_i here
    obtain ⟨others, rfl⟩ := List.head?_eq_some_iff.mp here
    exact passes_readExponent (by decide) (by decide) h
  · rename_i here
    obtain ⟨others, rfl⟩ := List.head?_eq_some_iff.mp here
    exact passes_readExponent (by decide) (by decide) h
  · exact passes_scaled h

theorem passes_readFraction {negative : Bool} {value : Nat} {exponent : Int} {c : Char}
    {text rest : List Char} {numeral : Numeral} (quote : c ≠ '"') (slash : c ≠ '\\')
    (h : (readFraction negative value exponent).run (c :: text) = .ok (numeral, rest)) :
    Passes (c :: text) rest := by
  refine Passes.cons quote slash ?_
  unfold readFraction at h
  obtain ⟨⟨⟩, tail, pass, h⟩ := of_run_bind h
  cases pass
  obtain ⟨text', tail, here, h⟩ := of_run_bind h
  cases here
  refine (passes_takeDigits text).trans ?_
  dsimp only [List.tail_cons] at h
  generalize takeDigits text = parts at h ⊢
  obtain ⟨digits, left⟩ := parts
  dsimp only at h
  obtain ⟨⟨⟩, tail, pass, h⟩ := of_run_bind h
  cases pass
  split at h
  · split at h
    · exact (not_of_refuseNext h).elim
    · exact (not_of_refuseNext h).elim
  · exact passes_readScale h

theorem passes_readNumeral {negative : Bool} {text rest : List Char} {numeral : Numeral}
    (h : (readNumeral negative).run text = .ok (numeral, rest)) : Passes text rest := by
  unfold readNumeral at h
  obtain ⟨text', tail, here, h⟩ := of_run_bind h
  cases here
  have digits := passes_takeDigits text
  split at h
  · exact (not_of_refuse h).elim
  · exact (not_of_refuseNext h).elim
  · obtain ⟨⟨⟩, tail, pass, h⟩ := of_run_bind h
    exact (not_of_refuseNext h).elim
  · rename_i found
    rw [found] at digits
    refine digits.trans ?_
    obtain ⟨⟨⟩, tail, pass, h⟩ := of_run_bind h
    cases pass
    dsimp only at h
    -- A point, either letter of an exponent, or the end of the numeral.
    split at h
    · exact passes_readFraction (by decide) (by decide) h
    · exact passes_readExponent (by decide) (by decide) h
    · exact passes_readExponent (by decide) (by decide) h
    · split at h
      · exact passes_scaled h
      · split at h
        · cases h
          exact .refl _
        · split at h
          · cases h
            exact .refl _
          · cases h
            exact .refl _

/-- A number is passed up to what follows it. -/
theorem passes_readNumberText {text rest : List Char} {written : String}
    (h : readNumberText.run text = .ok (written, rest)) : Passes text rest := by
  unfold readNumberText at h
  obtain ⟨text', tail, here, h⟩ := of_run_bind h
  cases here
  obtain ⟨numeral, left, signed, h⟩ := of_run_bind h
  cases h
  unfold readSigned at signed
  obtain ⟨c?, middle, first, signed⟩ := of_run_bind signed
  cases first
  split at signed
  · rename_i here
    obtain ⟨others, rfl⟩ := List.head?_eq_some_iff.mp here
    obtain ⟨⟨⟩, tail, pass, h⟩ := of_run_bind signed
    cases pass
    exact (passes_readNumeral h).cons (by decide) (by decide)
  · exact passes_readNumeral signed

/-! ## Any value -/

/-- What comes next after blanks tells what is read. -/
theorem of_read {depth : Nat} {text rest : List Char} {value : Value}
    (h : (Value.read depth).run text = .ok (value, rest)) :
    ∃ c others, text.dropWhile isBlank = c :: others ∧
      ((c = '"' ∧ ∃ letters, readLetters others = .ok (letters, rest) ∧
          value = .string (String.ofList letters)) ∨
        (c = '[' ∧ ∃ inner bound items, depth = inner + 1 ∧
          (readItems (Value.read inner) bound true).run others = .ok (items, rest) ∧
            value = .array items) ∨
        (c = '\x7b' ∧ ∃ inner bound members, depth = inner + 1 ∧
          (readMembers (Value.read inner) bound true).run others = .ok (members, rest) ∧
            value = .object (OrderedMap.ofList members).entries) ∨
        (c ≠ '"' ∧ Passes (c :: others) rest ∧ value.text? = none)) := by
  rw [Value.read.eq_def] at h
  obtain ⟨c?, middle, first, h⟩ := of_run_bind h
  obtain ⟨rfl, rfl⟩ := of_nextVisible first
  generalize text.dropWhile isBlank = middle at h
  cases middle with
  | nil => exact (not_of_refuseNext h).elim
  | cons c others =>
    refine ⟨c, others, rfl, ?_⟩
    -- The three words are read alike: no quote in them and no text from them.
    have word {letters : List Char} {value' : Value} (quotes : '"' ∉ letters)
        (slashes : '\\' ∉ letters) (none : value'.text? = none) (other : c ≠ '"')
        (h : (do
            passWord letters
            return value' : Reading Value).run (c :: others) = .ok (value, rest)) :
        c ≠ '"' ∧ Passes (c :: others) rest ∧ value.text? = Option.none := by
      obtain ⟨⟨⟩, left, pass, h⟩ := of_run_bind h
      cases h
      exact ⟨other, passes_passWord quotes slashes pass, none⟩
    dsimp only [List.head?_cons] at h
    split at h
    · rename_i impossible
      cases impossible
    · rename_i same
      cases same
      exact .inr (.inr (.inr (word (by decide) (by decide) rfl (by decide) h)))
    · rename_i same
      cases same
      exact .inr (.inr (.inr (word (by decide) (by decide) rfl (by decide) h)))
    · rename_i same
      cases same
      exact .inr (.inr (.inr (word (by decide) (by decide) rfl (by decide) h)))
    · rename_i same
      cases same
      -- A string.
      obtain ⟨read, left, second, h⟩ := of_run_bind h
      cases h
      obtain ⟨letters, rfl, found⟩ := of_readText second
      exact .inl ⟨rfl, letters, found, rfl⟩
    · rename_i same
      cases same
      cases depth with
      | zero => exact (not_of_refuseNext h).elim
      | succ inner =>
        obtain ⟨⟨⟩, tail, pass, h⟩ := of_run_bind h
        cases pass
        obtain ⟨bound, tail, pass, h⟩ := of_run_bind h
        cases pass
        -- A list: what stands between the brackets is read one level deeper.
        obtain ⟨items, left, read, h⟩ := of_run_bind h
        cases h
        exact .inr (.inl ⟨rfl, inner, _, items, rfl, read, rfl⟩)
    · rename_i same
      cases same
      cases depth with
      | zero => exact (not_of_refuseNext h).elim
      | succ inner =>
        obtain ⟨⟨⟩, tail, pass, h⟩ := of_run_bind h
        cases pass
        obtain ⟨bound, tail, pass, h⟩ := of_run_bind h
        cases pass
        -- An object, in the same way.
        obtain ⟨members, left, read, h⟩ := of_run_bind h
        cases h
        exact .inr (.inr (.inl ⟨rfl, inner, _, members, rfl, read, rfl⟩))
    · -- Nothing else is left but a number.
      rename_i other _ _ _ quote _ _ same
      cases same
      split at h
      · obtain ⟨written, left, number, h⟩ := of_run_bind h
        cases h
        exact .inr (.inr (.inr ⟨quote, passes_readNumberText number, rfl⟩))
      · exact (not_of_refuseNext h).elim

/-- Where a quote comes next a string is read. -/
theorem of_read_quote {depth : Nat} {text rest others : List Char} {value : Value}
    (quote : text.dropWhile isBlank = '"' :: others)
    (h : (Value.read depth).run text = .ok (value, rest)) :
    ∃ letters, value = .string (String.ofList letters) ∧
      readLetters others = .ok (letters, rest) := by
  obtain ⟨c, others', same, read⟩ := of_read h
  cases quote.symm.trans same
  rcases read with ⟨-, letters, read, rfl⟩ | ⟨impossible, -⟩ | ⟨impossible, -⟩ | ⟨other, -⟩
  · exact ⟨letters, rfl, read⟩
  · cases impossible
  · cases impossible
  · exact absurd rfl other

/-- Nothing is read from blanks. -/
theorem not_of_read_blank {depth : Nat} {text rest : List Char} {value : Value}
    (blank : text.dropWhile isBlank = [])
    (h : (Value.read depth).run text = .ok (value, rest)) : False := by
  obtain ⟨c, others, same, -⟩ := of_read h
  cases blank.symm.trans same

end Phrasebook.Json
