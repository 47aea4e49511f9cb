import Phrasebook.Proofs.Edits
import Phrasebook.Proofs.Tokens

/-!
# Searching by bytes

The search for a name can go through the bytes of a text and cut slices out of it where it needs
them. All these slices begin and end between characters, and what is found is the same.

- `bytesOf`, `exists_bytes`: bytes, of which those of a quote and a backslash stand for nothing
  else;
- `closing`, `keyWalk?`: the search by bytes, which fails at a slice through a character;
- `keyWalk?_eq`: it never fails, and finds what the search by characters finds.
-/

namespace Phrasebook.TableFile

open Json Text

/-! ## Bytes -/

/-- The bytes of a text. -/
def bytesOf (text : List Char) : List UInt8 := text.flatMap String.utf8EncodeChar

/-- The byte of a quote. -/
def quoteByte : UInt8 := 0x22

/-- The byte of a backslash. -/
def slashByte : UInt8 := 0x5C

theorem length_bytesOf (text : List Char) : (bytesOf text).length = byteLength text := by
  induction text with
  | nil => rfl
  | cons c rest ih =>
    show (String.utf8EncodeChar c ++ bytesOf rest).length = _
    rw [List.length_append, String.length_utf8EncodeChar, ih, byteLength]

/-- The first byte of a character is below 128 only if it is the character, and the others never
are. -/
theorem exists_bytes (c : Char) : ∃ first others, String.utf8EncodeChar c = first :: others ∧
    (first.toNat = c.toNat ∨ 128 ≤ first.toNat) ∧ ∀ byte ∈ others, 128 ≤ byte.toNat := by
  have high (value : Nat) (h : 128 ≤ value) (h' : value < 256) :
      128 ≤ (UInt8.ofNat value).toNat := by
    rw [UInt8.toNat_ofNat_of_lt' h']
    exact h
  have value : c.val.toNat = c.toNat := rfl
  rw [String.utf8EncodeChar.eq_1]
  split
  · refine ⟨_, _, rfl, .inl ?_, nofun⟩
    rw [UInt8.toNat_ofNat_of_lt' (by simp only [UInt8.size]; omega), value]
  split
  · exact ⟨_, _, rfl, .inr (high _ (by omega) (by omega)), by simp; omega⟩
  split
  · exact ⟨_, _, rfl, .inr (high _ (by omega) (by omega)), by simp; omega⟩
  · exact ⟨_, _, rfl, .inr (high _ (by omega) (by omega)), by simp; omega⟩

/-- The bytes behind the first one of a character are neither quotes nor backslashes. -/
theorem exists_plain_bytes (c : Char) : ∃ first others, String.utf8EncodeChar c = first :: others ∧
    (∀ byte ∈ others, byte ≠ quoteByte ∧ byte ≠ slashByte) ∧
      (c ≠ '"' → first ≠ quoteByte) ∧ (c ≠ '\\' → first ≠ slashByte) := by
  obtain ⟨first, others, same, own, high⟩ := exists_bytes c
  have only (d : Char) (low : d.toNat < 128) (h : c ≠ d) : first.toNat ≠ d.toNat := by
    rintro same
    rcases own with own | own
    · exact h (Char.toNat_inj.mp (own.symm.trans same))
    · omega
  refine ⟨first, others, same, fun byte among => ⟨?_, ?_⟩, fun other => ?_, fun other => ?_⟩
  · rintro rfl
    exact absurd (high _ among) (by decide)
  · rintro rfl
    exact absurd (high _ among) (by decide)
  · rintro rfl
    exact only '"' (by decide) other rfl
  · rintro rfl
    exact only '\\' (by decide) other rfl

/-! ## The end of a string -/

/-- The offset of the next quote among bytes of which the first stands at the given offset. A
backslash is passed with the byte behind it. Where there is no quote, an offset at the end or behind
it. -/
def closing (offset : Nat) (bytes : List UInt8) : Nat :=
  match bytes with
  | [] => offset
  | byte :: rest =>
    if byte = quoteByte then offset
    else if byte = slashByte then closing (offset + 2) rest.tail
    else closing (offset + 1) rest
termination_by bytes.length
decreasing_by all_goals simp only [List.length_cons, List.length_tail]; omega

theorem closing_nil (offset : Nat) : closing offset [] = offset := by
  rw [closing]

theorem closing_quote (offset : Nat) (rest : List UInt8) :
    closing offset (quoteByte :: rest) = offset := by
  rw [closing, if_pos rfl]

theorem closing_slash (offset : Nat) (rest : List UInt8) :
    closing offset (slashByte :: rest) = closing (offset + 2) rest.tail := by
  rw [closing, if_neg (by decide), if_pos rfl]

theorem closing_plain {offset : Nat} {bytes rest : List UInt8}
    (plain : ∀ byte ∈ bytes, byte ≠ quoteByte ∧ byte ≠ slashByte) :
    closing offset (bytes ++ rest) = closing (offset + bytes.length) rest := by
  induction bytes generalizing offset with
  | nil => rfl
  | cons byte others ih =>
    obtain ⟨quote, slash⟩ := plain byte List.mem_cons_self
    rw [List.cons_append, closing, if_neg quote, if_neg slash,
      ih fun other among => plain other (List.mem_cons_of_mem _ among), List.length_cons,
      Nat.add_assoc, Nat.add_comm 1]

/-- The bytes of a character that is neither a quote nor a backslash are passed. -/
theorem closing_char {c : Char} (quote : c ≠ '"') (slash : c ≠ '\\') (offset : Nat)
    (rest : List Char) :
    closing offset (bytesOf (c :: rest)) = closing (offset + c.utf8Size) (bytesOf rest) := by
  obtain ⟨first, others, bytes, plain, ownQuote, ownSlash⟩ := exists_plain_bytes c
  rw [← String.length_utf8EncodeChar, bytes]
  show closing offset (String.utf8EncodeChar c ++ bytesOf rest) = _
  rw [bytes]
  refine closing_plain fun byte among => ?_
  rcases List.mem_cons.mp among with rfl | among
  · exact ⟨ownQuote quote, ownSlash slash⟩
  · exact plain byte among

/-- A backslash is passed with all bytes of the character behind it, of which only the first could
be taken for something else. -/
theorem closing_escape (c : Char) (offset : Nat) (rest : List Char) :
    closing offset (bytesOf ('\\' :: c :: rest)) =
      closing (offset + 1 + c.utf8Size) (bytesOf rest) := by
  obtain ⟨first, others, bytes, plain, -⟩ := exists_plain_bytes c
  rw [← String.length_utf8EncodeChar, bytes]
  show closing offset (slashByte :: (String.utf8EncodeChar c ++ bytesOf rest)) = _
  rw [bytes, closing_slash, List.length_cons, Nat.add_comm others.length, ← Nat.add_assoc]
  exact closing_plain plain

/-- The string ends at the same character. -/
theorem min_closing (offset : Nat) (text : List Char) :
    min (closing offset (bytesOf text) + 1) (offset + byteLength text) =
      offset + byteLength (takeString text).1 := by
  have one : Char.utf8Size '"' = 1 ∧ Char.utf8Size '\\' = 1 := ⟨rfl, rfl⟩
  fun_induction takeString text generalizing offset with
  | case1 =>
    have none : closing offset (bytesOf []) = offset := closing_nil offset
    rw [none]
    simp [byteLength]
  | case2 rest =>
    have quote : closing offset (bytesOf ('"' :: rest)) = offset := closing_quote offset _
    rw [quote]
    simp only [byteLength]
    omega
  -- A backslash and the character behind it: the closing quote comes later.
  | case3 c rest inside after same ih =>
    have later := ih (offset + 1 + c.utf8Size)
    rw [same] at later
    dsimp only at later
    rw [closing_escape]
    simp only [byteLength]
    omega
  | case4 c rest quote slash inside after same ih =>
    -- Any other character, a last backslash among them.
    by_cases last : c = '\\'
    · -- A backslash that nothing follows.
      subst last
      cases rest with
      | nil =>
        cases same
        have passed : closing offset (bytesOf ['\\']) = offset + 2 :=
          (closing_slash offset []).trans (closing_nil _)
        rw [passed]
        simp only [byteLength]
        omega
      | cons d others => exact absurd rfl (slash d others rfl)
    · have later := ih (offset + c.utf8Size)
      rw [same] at later
      dsimp only at later
      rw [closing_char quote last]
      simp only [byteLength]
      omega

/-! ## The search -/

/-- Whether the string between two offsets is a name that reads as the key; none if a slice would
cut a character. -/
def isNameAt? (key : String) (text : List Char) (start stop : Nat) : Option Bool := do
  let behind ← slice? text stop (byteLength text)
  if colonFollows behind then
    let token ← slice? text start stop
    return (parseText (String.ofList token)).toOption == some key
  else return false

/-- The search for a key through the bytes of a text from an offset on; none if a slice would cut a
character. -/
def keyWalk? (key : String) (text : List Char) (offset : Nat) (bytes : List UInt8) :
    Option (Option Nat) :=
  match bytes with
  | [] => some none
  | byte :: rest =>
    if byte = quoteByte then
      let stop := min (closing (offset + 1) rest + 1) (byteLength text)
      match isNameAt? key text offset stop with
      | none => none
      | some true => some (some offset)
      | some false => keyWalk? key text stop (rest.drop (stop - (offset + 1)))
    else keyWalk? key text (offset + 1) rest
termination_by bytes.length
decreasing_by
  · simp only [List.length_drop, List.length_cons]
    omega
  · simp

/-- Both slices begin and end where the string does, or at the end of the text. -/
theorem isNameAt?_append (key : String) (front inside behind : List Char) :
    isNameAt? key (front ++ '"' :: (inside ++ behind)) (byteLength front)
        (byteLength front + 1 + byteLength inside) =
      some (colonFollows behind &&
        (parseText (String.ofList ('"' :: inside))).toOption == some key) := by
  have size : Char.utf8Size '"' = 1 := rfl
  have token : slice? (front ++ '"' :: (inside ++ behind)) (byteLength front)
      (byteLength front + 1 + byteLength inside) = some ('"' :: inside) := by
    have cut := slice?_append front ('"' :: inside) behind
    rw [byteLength, size, ← Nat.add_assoc] at cut
    exact cut
  have tail : slice? (front ++ '"' :: (inside ++ behind))
      (byteLength front + 1 + byteLength inside)
      (byteLength (front ++ '"' :: (inside ++ behind))) = some behind := by
    have cut := slice?_append (front ++ '"' :: inside) behind []
    rw [List.append_nil, byteLength_append, byteLength, size, ← Nat.add_assoc] at cut
    rw [byteLength_append, byteLength, byteLength_append, size, ← Nat.add_assoc, ← Nat.add_assoc]
    simpa using cut
  unfold isNameAt?
  rw [tail]
  dsimp only [bind, Option.bind]
  rw [token]
  cases colonFollows behind <;> rfl

theorem keyWalk?_plain {key : String} {text : List Char} {offset : Nat} {bytes rest : List UInt8}
    (plain : ∀ byte ∈ bytes, byte ≠ quoteByte) :
    keyWalk? key text offset (bytes ++ rest) =
      keyWalk? key text (offset + bytes.length) rest := by
  induction bytes generalizing offset with
  | nil => rfl
  | cons byte others ih =>
    rw [List.cons_append, keyWalk?, if_neg (plain byte List.mem_cons_self),
      ih fun other among => plain other (List.mem_cons_of_mem _ among), List.length_cons,
      Nat.add_assoc, Nat.add_comm 1]

theorem bytesOf_append (front back : List Char) :
    bytesOf (front ++ back) = bytesOf front ++ bytesOf back := List.flatMap_append

/-- No slice cuts a character, and the key is found where the search by characters finds it. -/
theorem keyWalk?_eq (key : String) (front rest : List Char) :
    keyWalk? key (front ++ rest) (byteLength front) (bytesOf rest) =
      some (keyOffset? key (byteLength front) rest) := by
  induction long : rest.length using Nat.strongRecOn generalizing front rest with
  | ind length ih =>
    cases rest with
    | nil =>
      show keyWalk? key _ _ [] = _
      rw [keyWalk?, keyOffset?]
    | cons c cs =>
      rw [List.length_cons] at long
      by_cases quote : c = '"'
      · -- A string: both searches take it as a whole and look at what follows.
        subst quote
        have size : Char.utf8Size '"' = 1 := rfl
        have whole := append_takeString cs
        have bound := length_takeString cs
        have stop := min_closing (byteLength front + 1) cs
        rw [keyOffset?, if_pos rfl]
        generalize takeString cs = token at whole bound stop ⊢
        obtain ⟨inside, behind⟩ := token
        dsimp only at whole bound stop ⊢
        subst whole
        have total : byteLength (front ++ '"' :: (inside ++ behind)) =
            byteLength front + 1 + byteLength (inside ++ behind) := by
          rw [byteLength_append, byteLength, size, Nat.add_assoc]
        have last : byteLength (front ++ '"' :: inside) =
            byteLength front + 1 + byteLength inside := by
          rw [byteLength_append, byteLength, size, Nat.add_assoc]
        have left : (bytesOf (inside ++ behind)).drop
            (byteLength front + 1 + byteLength inside - (byteLength front + 1)) =
              bytesOf behind := by
          rw [Nat.add_sub_cancel_left, bytesOf_append, ← length_bytesOf, List.drop_left]
        -- The string was no name with the key: both go on behind it.
        have on := ih behind.length (by omega) (front ++ '"' :: inside) behind rfl
        rw [List.append_assoc, List.cons_append, last] at on
        show keyWalk? key _ _ (quoteByte :: bytesOf (inside ++ behind)) = _
        rw [keyWalk?, if_pos rfl, total, stop]
        dsimp only
        rw [isNameAt?_append, left, on]
        split
        · rename_i impossible
          cases impossible
        · rename_i named
          rw [if_pos (Option.some.inj named)]
        · rename_i other
          rw [Option.some.inj other, if_neg Bool.false_ne_true]
      · -- Another character: none of its bytes is that of a quote, so the walk passes them all.
        obtain ⟨first, others, bytes, plain, own, -⟩ := exists_plain_bytes c
        have size : (first :: others).length = c.utf8Size := by
          rw [← bytes, String.length_utf8EncodeChar]
        have on := ih cs.length (by omega) (front ++ [c]) cs rfl
        rw [List.append_assoc, List.singleton_append, byteLength_append, byteLength, byteLength,
          Nat.add_zero] at on
        rw [keyOffset?, if_neg quote, ← on, ← size, ← keyWalk?_plain]
        · show keyWalk? key _ _ (String.utf8EncodeChar c ++ bytesOf cs) = _
          rw [bytes]
        · intro byte among
          rcases List.mem_cons.mp among with rfl | among
          · exact own quote
          · exact (plain byte among).1

end Phrasebook.TableFile
