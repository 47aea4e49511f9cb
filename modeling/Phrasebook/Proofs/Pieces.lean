import Phrasebook.Proofs.InsideTexts
import Phrasebook.Proofs.Tokens

/-!
# Pieces of a JSON text

A JSON text is made of strings and of characters outside of strings. Some of the strings are names
of members: those that an object has itself, and those of the objects inside of it.

- `Piece`, `spell`: strings and single characters, and the text that they make up;
- `Written`: how values, lists and objects are made of pieces;
- `exists_written_of_read`, `exists_written_of_readMembers`: whatever is read is written in this
  way;
- `Written.names`: which names there are among the pieces.
-/

namespace Phrasebook.Json

/-- A part of a JSON text. Strings stand here without their opening quotes. -/
inductive Piece where
  /-- A character outside of strings. -/
  | other (c : Char)
  /-- A string that is a value. -/
  | text (token : List Char)
  /-- A string that is the name of a member. -/
  | name (token : List Char)
deriving Repr, DecidableEq

namespace Piece

/-- The text of a piece. -/
def letters : Piece → List Char
  | other c => [c]
  | text token | name token => '"' :: token

/-- The name that a piece stands for. -/
def name? : Piece → Option String
  | name token => (parseText (String.ofList ('"' :: token))).toOption
  | other _ | text _ => none

/-- Whether a list or an object starts with the piece. -/
def opens : Piece → Bool
  | other c => c = '[' || c = '\x7b'
  | text _ | name _ => false

end Piece

/-- The text that some pieces make up. -/
def spell (pieces : List Piece) : List Char := pieces.flatMap Piece.letters

theorem spell_append (pieces others : List Piece) :
    spell (pieces ++ others) = spell pieces ++ spell others := List.flatMap_append

theorem spell_cons (piece : Piece) (pieces : List Piece) :
    spell (piece :: pieces) = piece.letters ++ spell pieces := rfl

theorem spell_others (cs : List Char) : spell (cs.map .other) = cs := by
  induction cs with
  | nil => rfl
  | cons c rest ih =>
    rw [List.map_cons, spell_cons, ih]
    rfl

/-! ## What is made of pieces -/

/-- Nothing but blanks. -/
def Blank (cs : List Char) : Prop := ∀ c ∈ cs, isBlank c = true

/-- What stands before an item or a member: blanks, and a comma unless it is the first one. -/
inductive Gap : Bool → List Char → Prop where
  | first {blanks : List Char} (h : Blank blanks) : Gap true blanks
  | later {before after : List Char} (h : Blank before) (h' : Blank after) :
    Gap false (before ++ ',' :: after)

/-- A value, or what follows in a list or an object behind its bracket or behind an item. -/
inductive Part where
  | value
  | items (isFirst : Bool)
  | members (isFirst : Bool)

/-- How a part of a JSON text is made of pieces: the names that an object has itself, in their
order, the names inside of its members or of a list, and the pieces. -/
inductive Written : Part → List String → List String → List Piece → Prop where
  | blank {c : Char} {own nested : List String} {pieces : List Piece} (h : isBlank c = true)
    (later : Written .value own nested pieces) : Written .value own nested (.other c :: pieces)
  | text {token letters : List Char} (h : IsToken token letters) :
    Written .value [] [] [.text token]
  /-- A word or a number. -/
  | plain {cs : List Char} (quotes : '"' ∉ cs) : Written .value [] [] (cs.map .other)
  | list {nested : List String} {pieces : List Piece}
    (items : Written (.items true) [] nested pieces) :
    Written .value [] nested (.other '[' :: pieces)
  | object {own nested : List String} {pieces : List Piece}
    (members : Written (.members true) own nested pieces) :
    Written .value own nested (.other '\x7b' :: pieces)
  | listEnd {isFirst : Bool} {blanks : List Char} (h : Blank blanks) :
    Written (.items isFirst) [] [] (blanks.map .other ++ [.other ']'])
  | item {isFirst : Bool} {gap : List Char} {own inner nested : List String}
    {value later : List Piece} (h : Gap isFirst gap) (first : Written .value own inner value)
    (rest : Written (.items false) [] nested later) :
    Written (.items isFirst) [] (own ++ inner ++ nested) (gap.map .other ++ (value ++ later))
  | objectEnd {isFirst : Bool} {blanks : List Char} (h : Blank blanks) :
    Written (.members isFirst) [] [] (blanks.map .other ++ [.other '\x7d'])
  | member {isFirst : Bool} {gap blanks token letters : List Char}
    {own inner deeper nested : List String} {value later : List Piece} (h : Gap isFirst gap)
    (named : IsToken token letters) (spaces : Blank blanks)
    (first : Written .value inner deeper value) (rest : Written (.members false) own nested later) :
    Written (.members isFirst) (String.ofList letters :: own) (inner ++ deeper ++ nested)
      (gap.map .other ++ (.name token :: (blanks.map .other ++ (.other ':' :: (value ++ later)))))

variable {text rest : List Char} {own nested : List String} {pieces : List Piece} {part : Part}

/-! ## What is read -/

theorem exists_blanks (text : List Char) :
    ∃ blanks, text = blanks ++ text.dropWhile isBlank ∧ Blank blanks :=
  ⟨text.takeWhile isBlank, List.takeWhile_append_dropWhile.symm,
    fun _ h => List.mem_takeWhile_imp h⟩

theorem Written.blanks {blanks : List Char} (h : Blank blanks)
    (later : Written .value own nested pieces) :
    Written .value own nested (blanks.map .other ++ pieces) := by
  induction blanks with
  | nil => exact later
  | cons c others ih =>
    exact .blank (h c List.mem_cons_self) (ih fun d among => h d (List.mem_cons_of_mem _ among))

/-- A list goes on behind a gap, or it ends. -/
theorem of_hasItem_gap {isFirst more : Bool}
    (h : (hasItem isFirst).run text = .ok (more, rest)) :
    ∃ gap, text = gap ++ rest ∧
      (more = true ∧ Gap isFirst gap ∨ more = false ∧ Blank gap ∧ rest.head? = some ']') := by
  unfold hasItem at h
  obtain ⟨c?, middle, visible, h⟩ := of_run_bind h
  obtain ⟨rfl, rfl⟩ := of_nextVisible visible
  obtain ⟨blanks, whole, blank⟩ := exists_blanks text
  split at h
  · exact (not_of_refuseNext h).elim
  · rename_i closing
    cases h
    exact ⟨blanks, whole, .inr ⟨rfl, blank, closing⟩⟩
  · rename_i c other here
    cases isFirst with
    | true =>
      cases h
      exact ⟨blanks, whole, .inl ⟨rfl, .first blank⟩⟩
    | false =>
      rw [if_neg Bool.false_ne_true] at h
      split at h
      · -- An item that is not the first: a comma between two runs of blanks.
        rename_i comma
        obtain ⟨others, cut⟩ := List.head?_eq_some_iff.mp here
        rw [cut] at h whole
        obtain ⟨⟨⟩, tail, pass, h⟩ := of_run_bind h
        cases pass
        obtain ⟨c?, final, second, h⟩ := of_run_bind h
        obtain ⟨rfl, rfl⟩ := of_nextVisible second
        obtain ⟨blanks', whole', blank'⟩ := exists_blanks others
        split at h
        · exact (not_of_refuseNext h).elim
        · exact (not_of_refuseNext h).elim
        · cases h
          refine ⟨blanks ++ ',' :: blanks', ?_, .inl ⟨rfl, .later blank blank'⟩⟩
          rw [List.append_assoc, List.cons_append, List.tail_cons, ← whole', ← comma]
          exact whole
      · exact (not_of_refuseNext h).elim

/-- An object goes on behind a gap, or it ends. -/
theorem of_hasMember_gap {isFirst more : Bool}
    (h : (hasMember isFirst).run text = .ok (more, rest)) :
    ∃ gap, text = gap ++ rest ∧
      (more = true ∧ Gap isFirst gap ∧ rest.head? = some '"' ∨
        more = false ∧ Blank gap ∧ rest.head? = some '\x7d') := by
  obtain ⟨blanks, whole, blank⟩ := exists_blanks text
  rcases of_hasMember h with ⟨rfl, same, closing⟩ | ⟨rfl, quote, ⟨rfl, same⟩ |
    ⟨rfl, others, comma, same⟩⟩
  · exact ⟨blanks, same ▸ whole, .inr ⟨rfl, blank, closing⟩⟩
  · exact ⟨blanks, same ▸ whole, .inl ⟨rfl, .first blank, quote⟩⟩
  · obtain ⟨blanks', whole', blank'⟩ := exists_blanks others
    refine ⟨blanks ++ ',' :: blanks', ?_, .inl ⟨rfl, .later blank blank', quote⟩⟩
    rw [List.append_assoc, List.cons_append, ← same, ← whole']
    rwa [comma] at whole

/-- Whatever is read as a value is written in pieces, and a text holds no names. -/
def ReadsPieces (reading : Reading Value) : Prop :=
  ∀ text rest value, reading.run text = .ok (value, rest) → ∃ own nested pieces,
    text = spell pieces ++ rest ∧ Written .value own nested pieces ∧
      (value.text? ≠ none → own = [] ∧ nested = [])

/-- So are the items of a list, if each is. -/
theorem exists_written_of_readItems {item : Reading Value} (each : ReadsPieces item) {bound : Nat}
    {isFirst : Bool} {items : List Value}
    (h : (readItems item bound isFirst).run text = .ok (items, rest)) :
    ∃ nested pieces, text = spell pieces ++ rest ∧
      Written (.items isFirst) [] nested pieces := by
  induction bound generalizing isFirst text items with
  | zero => exact (not_of_refuse h).elim
  | succ bound ih =>
    unfold readItems at h
    obtain ⟨more, opened, first, h⟩ := of_run_bind h
    obtain ⟨gap, rfl, ⟨rfl, between⟩ | ⟨rfl, blank, closing⟩⟩ := of_hasItem_gap first
    · -- An item: a gap, its pieces and the items that follow.
      obtain ⟨value, left, second, h⟩ := of_run_bind h
      obtain ⟨others, final, third, h⟩ := of_run_bind h
      cases h
      obtain ⟨own, inner, pieces, rfl, written, -⟩ := each _ _ _ second
      obtain ⟨nested, later, rfl, rest⟩ := ih third
      refine ⟨own ++ inner ++ nested, gap.map .other ++ (pieces ++ later), ?_,
        .item between written rest⟩
      simp [spell_append, spell_others]
    · obtain ⟨others, rfl⟩ := List.head?_eq_some_iff.mp closing
      cases h
      refine ⟨[], gap.map .other ++ [.other ']'], ?_, .listEnd blank⟩
      rw [spell_append, spell_others, List.append_assoc]
      rfl

/-- So are the members of an object, whose names it has itself. If all values are texts, there are
no other names. -/
theorem exists_written_of_readMembers {value : Reading Value} (each : ReadsPieces value)
    {bound : Nat} {isFirst : Bool} {members : List (String × Value)}
    (h : (readMembers value bound isFirst).run text = .ok (members, rest)) :
    ∃ nested pieces, text = spell pieces ++ rest ∧
      Written (.members isFirst) (members.map Prod.fst) nested pieces ∧
        ((∀ member ∈ members, member.2.text? ≠ none) → nested = []) := by
  induction bound generalizing isFirst text members with
  | zero => exact (not_of_refuse h).elim
  | succ bound ih =>
    obtain ⟨more, opened, bound', same, first, steps⟩ := of_readMembers h
    cases same
    obtain ⟨gap, rfl, ⟨rfl, between, quote⟩ | ⟨rfl, blank, closing⟩⟩ := of_hasMember_gap first
    · obtain ⟨name, named, coloned, found, left, others, second, third, fourth, fifth, rfl⟩ := steps
      obtain ⟨inside, rfl⟩ := List.head?_eq_some_iff.mp quote
      obtain ⟨letters, rfl, string⟩ := of_readText second
      -- The name is a token, and behind it stand blanks, the colon, the value and the rest.
      obtain ⟨token, whole, isToken⟩ := exists_isToken string
      obtain ⟨blanks, spaced, blank⟩ := exists_blanks named
      obtain ⟨inner, deeper, pieces, whole', written, plain⟩ := each _ _ _ fourth
      obtain ⟨nested, later, whole'', rest, plain'⟩ := ih fifth
      rw [of_passColon third] at spaced
      refine ⟨inner ++ deeper ++ nested, gap.map Piece.other ++ (.name token ::
        (blanks.map Piece.other ++ (.other ':' :: (pieces ++ later)))), ?_,
        .member between isToken blank written rest, fun texts => ?_⟩
      · rw [List.tail_cons] at whole
        rw [whole, spaced, whole', whole'']
        simp [spell_append, spell_cons, spell_others, Piece.letters]
      · -- Texts hold no names, and neither do the members that follow.
        obtain ⟨rfl, rfl⟩ := plain (texts _ List.mem_cons_self)
        rw [plain' fun member among => texts member (List.mem_cons_of_mem _ among)]
        rfl
    · obtain ⟨rfl, rfl⟩ := steps
      obtain ⟨others, rfl⟩ := List.head?_eq_some_iff.mp closing
      refine ⟨[], gap.map .other ++ [.other '\x7d'], ?_, .objectEnd blank, fun _ => rfl⟩
      rw [spell_append, spell_others, List.append_assoc]
      rfl

/-- Whatever is read as a value is written in pieces. -/
theorem readsPieces (depth : Nat) : ReadsPieces (Value.read depth) := by
  induction depth using Nat.strongRecOn with
  | ind depth ih =>
    intro text rest value h
    obtain ⟨c, others, same, read⟩ := of_read h
    obtain ⟨blanks, whole, blank⟩ := exists_blanks text
    rw [same] at whole
    -- It is enough to write what comes behind the blanks.
    have enough {own nested : List String} {pieces : List Piece}
        (cut : c :: others = spell pieces ++ rest) (written : Written .value own nested pieces)
        (plain : value.text? ≠ none → own = [] ∧ nested = []) :
        ∃ own nested pieces, text = spell pieces ++ rest ∧ Written .value own nested pieces ∧
          (value.text? ≠ none → own = [] ∧ nested = []) := by
      refine ⟨own, nested, blanks.map .other ++ pieces, ?_, written.blanks blank, plain⟩
      rw [whole, spell_append, spell_others, List.append_assoc, cut]
    rcases read with ⟨rfl, letters, string, rfl⟩ | ⟨rfl, inner, bound, items, rfl, read, rfl⟩ |
      ⟨rfl, inner, bound, members, rfl, read, rfl⟩ | ⟨-, ⟨front, cut, quotes, -⟩, none⟩
    · obtain ⟨token, cut, isToken⟩ := exists_isToken string
      refine enough ?_ (.text isToken) fun _ => ⟨rfl, rfl⟩
      rw [cut]
      simp [spell, Piece.letters]
    · obtain ⟨nested, pieces, cut, written⟩ :=
        exists_written_of_readItems (ih inner (Nat.lt_succ_self _)) read
      refine enough ?_ (.list written) fun text => absurd rfl text
      exact congrArg ('[' :: ·) cut
    · obtain ⟨nested, pieces, cut, written, -⟩ :=
        exists_written_of_readMembers (ih inner (Nat.lt_succ_self _)) read
      refine enough ?_ (.object written) fun text => absurd rfl text
      exact congrArg ('\x7b' :: ·) cut
    · exact enough (by rw [spell_others, cut]) (.plain quotes) fun text => absurd none text

/-! ## Names among the pieces -/

theorem name?_of_isToken {token letters : List Char} (h : IsToken token letters) :
    (Piece.name token).name? = some (String.ofList letters) := by
  show (parseText (String.ofList ('"' :: token))).toOption = _
  rw [h.parseText]
  rfl

/-- The names among the pieces are the names that an object has itself and those inside of it. -/
theorem Written.names (h : Written part own nested pieces) (key : String) :
    (∃ piece ∈ pieces, piece.name? = some key) ↔ key ∈ own ∨ key ∈ nested := by
  -- Only a name has a name: gaps hold none, and a list of pieces can be split.
  have none (cs : List Char) : ¬ ∃ piece ∈ cs.map Piece.other, piece.name? = some key := by
    rintro ⟨piece, among, named⟩
    obtain ⟨c, -, rfl⟩ := List.mem_map.mp among
    cases named
  have split (front back : List Piece) : (∃ piece ∈ front ++ back, piece.name? = some key) ↔
      (∃ piece ∈ front, piece.name? = some key) ∨ ∃ piece ∈ back, piece.name? = some key := by
    simp only [List.mem_append, or_and_right, exists_or]
  have first (piece : Piece) (back : List Piece) :
      (∃ other ∈ piece :: back, other.name? = some key) ↔
        piece.name? = some key ∨ ∃ other ∈ back, other.name? = some key := by
    simp
  have unnamed (c : Char) : ¬ (Piece.other c).name? = some key := nofun
  induction h with
  | blank _ _ ih => exact (first _ _).trans ((or_iff_right (unnamed _)).trans ih)
  | text => simp [Piece.name?]
  | plain => simpa using none _
  | list _ ih => exact (first _ _).trans ((or_iff_right (unnamed _)).trans ih)
  | object _ ih => exact (first _ _).trans ((or_iff_right (unnamed _)).trans ih)
  | listEnd => simp [Piece.name?]
  | item _ _ _ ih ih' =>
    rw [split, split, or_iff_right (none _)]
    refine (or_congr ih ih').trans ?_
    simp only [List.mem_append, List.not_mem_nil, false_or]
  | objectEnd => simp [Piece.name?]
  | member _ named _ _ _ ih ih' =>
    rw [split, first, split, first, split, or_iff_right (none _), or_iff_right (none _),
      or_iff_right (unnamed _), name?_of_isToken named, Option.some.injEq]
    refine (or_congr_right (or_congr ih ih')).trans ?_
    simp only [List.mem_append, List.mem_cons]
    grind

/-- Nothing is nested where no list and no object is opened. -/
theorem Written.nested_eq_nil (h : Written part own nested pieces)
    (flat : ∀ piece ∈ pieces, piece.opens = false) :
    nested = [] ∧ (part = .value → own = []) := by
  induction h with
  | blank _ _ ih => exact ih fun piece among => flat piece (List.mem_cons_of_mem _ among)
  | text | plain => exact ⟨rfl, fun _ => rfl⟩
  | list | object => exact absurd (flat _ List.mem_cons_self) (by decide)
  | listEnd | objectEnd => exact ⟨rfl, nofun⟩
  | item _ _ _ ih ih' =>
    obtain ⟨rfl, own⟩ := ih fun piece among => flat piece (by simp [among])
    obtain ⟨rfl, -⟩ := ih' fun piece among => flat piece (by simp [among])
    exact ⟨by simp [own rfl], nofun⟩
  | member _ _ _ _ _ ih ih' =>
    obtain ⟨rfl, own⟩ := ih fun piece among => flat piece (by simp [among])
    obtain ⟨rfl, -⟩ := ih' fun piece among => flat piece (by simp [among])
    exact ⟨by simp [own rfl], nofun⟩

end Phrasebook.Json
