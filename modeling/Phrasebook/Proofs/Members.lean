import Phrasebook.Json.Reader
import Phrasebook.Proofs.Letters

/-!
# Steps of reading

What it takes for an object to be read: each step of a reader succeeds on what the one before it
has left.

- `of_run_bind`: steps in turn;
- `of_hasMember`, `of_readMembers`: the members of an object are read one by one.
-/

namespace Phrasebook.Json

variable {α β : Type}

/-! ## Single steps -/

/-- Steps in turn succeed if each does, on the text that the one before it leaves. -/
theorem of_run_bind {step : Reading α} {next : α → Reading β} {text rest : List Char} {result : β}
    (h : (step >>= next).run text = .ok (result, rest)) :
    ∃ value middle, step.run text = .ok (value, middle) ∧
      (next value).run middle = .ok (result, rest) := by
  change (step.run text >>= fun found => (next found.1).run found.2) = .ok (result, rest) at h
  cases done : step.run text with
  | error fault =>
    rw [done] at h
    cases h
  | ok found =>
    rw [done] at h
    exact ⟨found.1, found.2, rfl, h⟩

theorem run_bind_of_ok {step : Reading α} {next : α → Reading β} {text middle : List Char}
    {value : α} (h : step.run text = .ok (value, middle)) :
    (step >>= next).run text = (next value).run middle := by
  show (step.run text >>= fun found => (next found.1).run found.2) = _
  rw [h]
  rfl

theorem run_nextVisible (text : List Char) :
    nextVisible?.run text = .ok ((text.dropWhile isBlank).head?, text.dropWhile isBlank) := rfl

theorem of_nextVisible {text rest : List Char} {c? : Option Char}
    (h : nextVisible?.run text = .ok (c?, rest)) :
    text.dropWhile isBlank = rest ∧ c? = rest.head? := by
  cases h
  exact ⟨rfl, rfl⟩

theorem not_of_refuse {problem : Problem} {text rest : List Char} {value : α}
    (h : (refuse problem : Reading α).run text = .ok (value, rest)) : False := nomatch h

theorem not_of_refuseNext {problem : Problem} {text rest : List Char} {value : α}
    (h : (refuseNext problem : Reading α).run text = .ok (value, rest)) : False := nomatch h

/-! ## Parts of objects -/

theorem run_readText (text : List Char) :
    readText.run text =
      (readLetters text.tail).map fun (letters, rest) => (String.ofList letters, rest) := by
  simp only [readText, advance, StateT.run_bind, StateT.run_modify, StateT.run_get, pure_bind,
    StateT.run_monadLift]
  cases readLetters text.tail <;> rfl

theorem of_readText {text rest : List Char} {result : String}
    (h : readText.run text = .ok (result, rest)) :
    ∃ letters, result = String.ofList letters ∧ readLetters text.tail = .ok (letters, rest) := by
  rw [run_readText] at h
  cases found : readLetters text.tail with
  | error fault =>
    rw [found] at h
    cases h
  | ok parts =>
    obtain ⟨letters, after⟩ := parts
    rw [found] at h
    cases h
    exact ⟨letters, rfl, rfl⟩

/-- An object goes on with a quote, after a comma unless it has just been opened, or it ends. -/
theorem of_hasMember {isFirst more : Bool} {text rest : List Char}
    (h : (hasMember isFirst).run text = .ok (more, rest)) :
    (more = false ∧ text.dropWhile isBlank = rest ∧ rest.head? = some '\x7d') ∨
      (more = true ∧ rest.head? = some '"' ∧
        (isFirst = true ∧ text.dropWhile isBlank = rest ∨
          isFirst = false ∧ ∃ others, text.dropWhile isBlank = ',' :: others ∧
            others.dropWhile isBlank = rest)) := by
  unfold hasMember at h
  obtain ⟨c?, middle, first, h⟩ := of_run_bind h
  obtain ⟨same, rfl⟩ := of_nextVisible first
  rw [same]
  split at h
  · exact (not_of_refuseNext h).elim
  · -- The brace that closes the object.
    rename_i closing
    cases h
    exact .inl ⟨rfl, rfl, closing⟩
  · rename_i c other here
    split at h
    · -- The first member begins at once.
      rename_i led
      split at h
      · rename_i quote
        cases h
        exact .inr ⟨rfl, quote ▸ here, .inl ⟨led, rfl⟩⟩
      · exact (not_of_refuseNext h).elim
    · rename_i later
      split at h
      · -- The comma is passed, and blanks may stand behind it as well.
        rename_i comma
        obtain ⟨⟨⟩, tail, pass, h⟩ := of_run_bind h
        cases pass
        obtain ⟨c?, final, second, h⟩ := of_run_bind h
        obtain ⟨same', rfl⟩ := of_nextVisible second
        obtain ⟨others, whole⟩ := List.head?_eq_some_iff.mp here
        rw [whole, List.tail_cons] at same'
        split at h
        · exact (not_of_refuseNext h).elim
        · rename_i quote
          cases h
          exact .inr ⟨rfl, quote, .inr ⟨by simpa using later, others, comma ▸ whole, same'⟩⟩
        · exact (not_of_refuseNext h).elim
        · exact (not_of_refuseNext h).elim
      · exact (not_of_refuseNext h).elim

theorem of_passColon {text rest : List Char} (h : passColon.run text = .ok ((), rest)) :
    text.dropWhile isBlank = ':' :: rest := by
  unfold passColon at h
  obtain ⟨c?, middle, first, h⟩ := of_run_bind h
  obtain ⟨same, rfl⟩ := of_nextVisible first
  split at h
  · exact (not_of_refuseNext h).elim
  · rename_i colon
    obtain ⟨others, whole⟩ := List.head?_eq_some_iff.mp colon
    cases h
    rw [same, whole]
    rfl
  · exact (not_of_refuseNext h).elim

/-- The members of an object are read one by one, up to the brace. -/
theorem of_readMembers {value : Reading α} {bound : Nat} {isFirst : Bool} {text rest : List Char}
    {members : List (String × α)}
    (h : (readMembers value bound isFirst).run text = .ok (members, rest)) :
    ∃ more opened bound', bound = bound' + 1 ∧ (hasMember isFirst).run text = .ok (more, opened) ∧
      if more then
        ∃ name named coloned found read others, readText.run opened = .ok (name, named) ∧
          passColon.run named = .ok ((), coloned) ∧ value.run coloned = .ok (found, read) ∧
            (readMembers value bound' false).run read = .ok (others, rest) ∧
              members = (name, found) :: others
      else members = [] ∧ rest = opened.tail := by
  cases bound with
  | zero => exact (not_of_refuse h).elim
  | succ bound =>
    unfold readMembers at h
    obtain ⟨more, opened, first, h⟩ := of_run_bind h
    refine ⟨more, opened, bound, rfl, first, ?_⟩
    cases more with
    | false =>
      cases h
      exact ⟨rfl, rfl⟩
    | true =>
      obtain ⟨name, named, second, h⟩ := of_run_bind h
      obtain ⟨⟨⟩, coloned, third, h⟩ := of_run_bind h
      obtain ⟨found, read, fourth, h⟩ := of_run_bind h
      obtain ⟨others, final, fifth, h⟩ := of_run_bind h
      cases h
      exact ⟨name, named, coloned, found, read, others, second, third, fourth, fifth, rfl⟩

end Phrasebook.Json
