import Phrasebook.Proofs.KeyWalk
import Phrasebook.Proofs.Lines
import Phrasebook.Proofs.OrderedMap
import Phrasebook.Proofs.Pieces
import Phrasebook.Proofs.TableText

/-!
# Lines of keys

The line of a key is found by a search through the written table for the first name that reads as
the key. A name is told from other strings by the colon that follows it.

- `Marked`, `marked_of_written`: in any JSON text, only names stand before a colon;
- `keyOffset?_spell`: the search stops at the first name that reads as the key;
- `exists_written_of_parse`: which names a table that is read has, and which it does not keep;
- `keyLine?_of_parse`: the lines that are found in a table file.
-/

namespace Phrasebook.TableFile

open Json

variable {text rest after : List Char} {own nested : List String} {pieces : List Piece}
  {part : Part} {key : String} {offset : Nat}

/-! ## Colons -/

theorem textBlank_of_isBlank {c : Char} (h : Json.isBlank c = true) : Text.isBlank c = true := by
  simp only [Json.isBlank, Bool.or_eq_true, decide_eq_true_eq] at h
  rcases h with ((rfl | rfl) | rfl) | rfl <;> decide

/-- What follows is told by the first character that is no blank. -/
theorem colonFollows_append {blanks : List Char} {c : Char} (blank : Blank blanks)
    (visible : Text.isBlank c = false) (rest : List Char) :
    colonFollows (blanks ++ c :: rest) = (c == ':') := by
  have none : ∀ d ∈ blanks, Text.isBlank d = true := fun d among =>
    textBlank_of_isBlank (blank d among)
  rw [colonFollows, List.dropWhile_append_of_pos none,
    List.dropWhile_cons_of_neg (by simp [visible])]
  rfl

/-- No colon follows behind an item or a member. -/
theorem colonFollows_later (written : Written part own nested pieces)
    (later : part = .items false ∨ part = .members false) (after : List Char) :
    colonFollows (spell pieces ++ after) = false := by
  -- The first character that is not blank decides.
  have ends (c : Char) {blanks : List Char} (blank : Blank blanks) (more : List Piece)
      (visible : Text.isBlank c = false) (other : (c == ':') = false) :
      colonFollows (spell (blanks.map .other ++ (.other c :: more)) ++ after) = false := by
    rw [spell_append, spell_others, spell_cons, Piece.letters, List.append_assoc, List.append_assoc,
      List.singleton_append, colonFollows_append blank visible, other]
  -- In front of one more item or member stands a comma.
  have goes {gap : List Char} (between : Gap false gap) (more : List Piece) :
      colonFollows (spell (gap.map .other ++ more) ++ after) = false := by
    cases between with
    | @later before behind blank _ =>
      have split : (before ++ ',' :: behind).map Piece.other ++ more =
          before.map Piece.other ++ (.other ',' :: (behind.map Piece.other ++ more)) := by simp
      rw [split]
      exact ends ',' blank _ (by decide) (by decide)
  cases written with
  | blank | text | plain | list | object => rcases later with same | same <;> cases same
  | listEnd blank => exact ends ']' blank [] (by decide) (by decide)
  | objectEnd blank => exact ends '\x7d' blank [] (by decide) (by decide)
  | item between =>
    obtain rfl : _ = false := by simpa using later
    exact goes between _
  | member between =>
    obtain rfl : _ = false := by simpa using later
    exact goes between _

/-! ## Names are told from texts -/

/-- The strings are tokens, and just the names among them stand before a colon, when `after` comes
behind all pieces. -/
def Marked (after : List Char) : List Piece → Prop
  | [] => True
  | .other c :: rest => c ≠ '"' ∧ Marked after rest
  | .text token :: rest =>
    (∃ letters, IsToken token letters) ∧ colonFollows (spell rest ++ after) = false ∧
      Marked after rest
  | .name token :: rest =>
    (∃ letters, IsToken token letters) ∧ colonFollows (spell rest ++ after) = true ∧
      Marked after rest

theorem marked_append {front back : List Piece} :
    Marked after (front ++ back) ↔ Marked (spell back ++ after) front ∧ Marked after back := by
  induction front with
  | nil => exact (iff_of_eq (true_and _)).symm
  | cons piece rest ih =>
    cases piece <;>
      simp only [List.cons_append, Marked, ih, spell_append, List.append_assoc, and_assoc]

theorem marked_others {cs : List Char} (h : '"' ∉ cs) : Marked after (cs.map .other) := by
  induction cs with
  | nil => trivial
  | cons c rest ih =>
    rw [List.mem_cons, not_or] at h
    exact ⟨Ne.symm h.1, ih h.2⟩

theorem quote_notMem_of_blank {blanks : List Char} (h : Blank blanks) : '"' ∉ blanks := fun among =>
  absurd (h _ among) (by decide)

theorem quote_notMem_of_gap {isFirst : Bool} {gap : List Char} (h : Gap isFirst gap) :
    '"' ∉ gap := by
  cases h with
  | first blank => exact quote_notMem_of_blank blank
  | later blank blank' => simp [quote_notMem_of_blank blank, quote_notMem_of_blank blank']

/-- However a JSON text is made of pieces, its names are told from its texts. -/
theorem marked_of_written (written : Written part own nested pieces) (after : List Char)
    (behind : part = .value → colonFollows after = false) : Marked after pieces := by
  induction written generalizing after with
  | blank blank _ ih => exact ⟨fun same => absurd (same ▸ blank) (by decide), ih after behind⟩
  | text token => exact ⟨⟨_, token⟩, behind rfl, trivial⟩
  | plain quotes => exact marked_others quotes
  | list _ ih => exact ⟨by decide, ih after fun same => by cases same⟩
  | object _ ih => exact ⟨by decide, ih after fun same => by cases same⟩
  | listEnd blank =>
    exact marked_append.mpr ⟨marked_others (quote_notMem_of_blank blank), by decide, trivial⟩
  | objectEnd blank =>
    exact marked_append.mpr ⟨marked_others (quote_notMem_of_blank blank), by decide, trivial⟩
  -- Behind an item stands a comma or the bracket, which is no colon.
  | item gap _ rest ih ih' =>
    refine marked_append.mpr ⟨marked_others (quote_notMem_of_gap gap), marked_append.mpr ⟨?_, ?_⟩⟩
    · exact ih _ fun _ => colonFollows_later rest (.inl rfl) after
    · exact ih' after fun same => by cases same
  | @member _ _ blanks _ _ _ _ _ _ value later gap token blank _ rest ih ih' =>
    refine marked_append.mpr ⟨marked_others (quote_notMem_of_gap gap), ⟨_, token⟩, ?_, ?_⟩
    · -- Behind the name of a member stands its colon.
      have split : spell (blanks.map Piece.other ++ (.other ':' :: (value ++ later))) ++ after =
          blanks ++ ':' :: (spell (value ++ later) ++ after) := by
        simp [spell_append, spell_cons, spell_others, Piece.letters]
      rw [split]
      exact colonFollows_append blank (by decide) _
    · -- Behind the value of a member stands a comma or the brace.
      refine marked_append.mpr ⟨marked_others (quote_notMem_of_blank blank), by decide,
        marked_append.mpr ⟨?_, ?_⟩⟩
      · exact ih _ fun _ => colonFollows_later rest (.inr rfl) after
      · exact ih' after fun same => by cases same

/-! ## The search -/

/-- The first piece that reads as the key stands behind a piece that does not. -/
theorem exists_first_cons_iff {piece : Piece} {rest : List Piece} {property : List Piece → Prop}
    (other : piece.name? ≠ some key) :
    (∃ front piece' back, piece :: rest = front ++ piece' :: back ∧ piece'.name? = some key ∧
        (∀ other ∈ front, other.name? ≠ some key) ∧ property front) ↔
      ∃ front piece' back, rest = front ++ piece' :: back ∧ piece'.name? = some key ∧
        (∀ other ∈ front, other.name? ≠ some key) ∧ property (piece :: front) := by
  constructor
  · rintro ⟨front, piece', back, same, named, before, holds⟩
    cases front with
    | nil =>
      cases same
      exact absurd named other
    | cons first front =>
      cases same
      exact ⟨front, piece', back, rfl, named, (List.forall_mem_cons.mp before).2, holds⟩
  · rintro ⟨front, piece', back, rfl, named, before, holds⟩
    exact ⟨piece :: front, piece', back, rfl, named, List.forall_mem_cons.mpr ⟨other, before⟩,
      holds⟩

/-- The search stops at the first piece that reads as the key. -/
theorem keyOffset?_spell (marked : Marked [] pieces) (found : Nat) :
    keyOffset? key offset (spell pieces) = some found ↔
      ∃ front piece back, pieces = front ++ piece :: back ∧ piece.name? = some key ∧
        (∀ other ∈ front, other.name? ≠ some key) ∧
          found = offset + Text.byteLength (spell front) := by
  induction pieces generalizing offset with
  | nil =>
    rw [spell, List.flatMap_nil, keyOffset?]
    simp
  | cons piece rest ih =>
    -- Behind a piece that does not read as the key, the search goes on.
    have later {next : Nat} (marked : Marked [] rest) (other : piece.name? ≠ some key)
        (on : next = offset + Text.byteLength piece.letters) :
        keyOffset? key next (spell rest) = some found ↔
          ∃ front piece' back, piece :: rest = front ++ piece' :: back ∧
            piece'.name? = some key ∧ (∀ other ∈ front, other.name? ≠ some key) ∧
              found = offset + Text.byteLength (spell front) := by
      rw [exists_first_cons_iff other, ih marked, on]
      simp only [spell_cons, Text.byteLength_append, Nat.add_assoc]
    have next (token : List Char) (isToken : ∃ letters, IsToken token letters) :
        takeString (token ++ spell rest) = (token, spell rest) := by
      obtain ⟨letters, read⟩ := isToken
      exact read.takeString _
    have bytes (token : List Char) :
        offset + 1 + Text.byteLength token = offset + Text.byteLength ('"' :: token) := by
      rw [Text.byteLength, ← Nat.add_assoc]
      rfl
    cases piece with
    | other c =>
      obtain ⟨quote, marked⟩ := marked
      rw [spell_cons, Piece.letters, List.singleton_append, keyOffset?, if_neg quote]
      exact later marked (fun named => by cases named) rfl
    -- A string that no colon follows is passed as a whole.
    | text token =>
      obtain ⟨isToken, follows, marked⟩ := marked
      rw [List.append_nil] at follows
      rw [spell_cons, Piece.letters, List.cons_append, keyOffset?, if_pos rfl]
      simp only [next token isToken, follows, Bool.false_and, Bool.false_eq_true, if_false]
      exact later marked (fun named => by cases named) (bytes token)
    -- So is a name, unless it reads as the key: then the search ends here.
    | name token =>
      obtain ⟨isToken, follows, marked⟩ := marked
      rw [List.append_nil] at follows
      rw [spell_cons, Piece.letters, List.cons_append, keyOffset?, if_pos rfl]
      simp only [next token isToken, follows, Bool.true_and, beq_iff_eq]
      split
      · rename_i named
        constructor
        · intro same
          cases same
          exact ⟨[], .name token, rest, rfl, named, List.forall_mem_nil _, rfl⟩
        · rintro ⟨front, piece, back, same, -, before, rfl⟩
          cases front with
          | nil => rfl
          | cons first front =>
            cases same
            exact absurd named (before _ List.mem_cons_self)
      · rename_i other
        exact later marked other (bytes token)

/-- The search finds a key exactly if a piece reads as the key. -/
theorem isSome_keyOffset?_spell (marked : Marked [] pieces) :
    (keyOffset? key offset (spell pieces)).isSome = true ↔
      ∃ piece ∈ pieces, piece.name? = some key := by
  rw [Option.isSome_iff_exists]
  constructor
  · rintro ⟨found, stops⟩
    obtain ⟨front, piece, back, rfl, named, -⟩ := (keyOffset?_spell marked found).mp stops
    exact ⟨piece, by simp, named⟩
  · rintro ⟨piece, among, named⟩
    -- The search stops at the first of the pieces that read as the key.
    have some : (pieces.find? fun piece => piece.name? = some key).isSome = true :=
      List.find?_isSome.mpr ⟨piece, among, decide_eq_true named⟩
    obtain ⟨first, found⟩ := Option.isSome_iff_exists.mp some
    obtain ⟨named, front, back, rfl, before⟩ := List.find?_eq_some_iff_append.mp found
    refine ⟨_, (keyOffset?_spell marked _).mpr
      ⟨front, first, back, rfl, by simpa using named, fun other among => ?_, rfl⟩⟩
    simpa using before other among

/-- The line of a piece is one more than the line feeds before it. -/
theorem lineAt_spell (before after : List Char) (front rest : List Piece) :
    Text.lineAt (Text.lineStarts (String.ofList
        (before ++ spell (front ++ rest) ++ after))).toArray
        (Text.byteLength before + Text.byteLength (spell front)) =
      (before ++ spell front).count '\n' + 1 := by
  have parts : before ++ spell (front ++ rest) ++ after =
      (before ++ spell front) ++ (spell rest ++ after) := by
    rw [spell_append]
    simp only [List.append_assoc]
  rw [parts, ← Text.byteLength_append]
  exact Text.lineAt_append _ _

theorem keyOffset?_add (key : String) (more offset : Nat) (text : List Char) :
    keyOffset? key (more + offset) text = (keyOffset? key offset text).map (more + ·) := by
  fun_induction keyOffset? key offset text with
  | case1 => rw [keyOffset?]; rfl
  | case2 offset rest token named =>
    rw [keyOffset?, if_pos rfl, if_pos named]
    rfl
  | case3 offset rest token other ih =>
    rw [keyOffset?, if_pos rfl, if_neg other, ← ih]
    simp only [Nat.add_assoc, token]
  | case4 offset c rest quote ih =>
    rw [keyOffset?, if_neg quote, Nat.add_assoc, ih]

/-! ## Tables -/

/-- The entries of a table have the names of the members, which are all texts. -/
theorem of_entriesOf {members : List (String × Value)} {entries : List (String × String)}
    (h : Table.entriesOf members = .ok entries) :
    entries.map Prod.fst = members.map Prod.fst ∧ ∀ member ∈ members, member.2.text? ≠ none := by
  induction members generalizing entries with
  | nil =>
    cases h
    exact ⟨rfl, List.forall_mem_nil _⟩
  | cons member rest ih =>
    obtain ⟨name, value⟩ := member
    cases value with
    | string text =>
      unfold Table.entriesOf at h
      cases others : Table.entriesOf rest with
      | error fault =>
        rw [others] at h
        cases h
      | ok entries' =>
        rw [others] at h
        cases h
        obtain ⟨names, texts⟩ := ih others
        refine ⟨congrArg (name :: ·) names, fun member among => ?_⟩
        rcases List.mem_cons.mp among with rfl | among
        · exact Option.some_ne_none _
        · exact texts member among
    | null | bool | number | array | object => cases h

/-- The keys of a table are the names that its region has itself. Where none of these is repeated,
and where no list and no object is opened inside, there are no other names. -/
theorem exists_written_of_parse {inner : List Char} {table : Table}
    (h : Table.parse ('\x7b' :: (inner ++ ['\x7d'])) = .ok table) :
    ∃ own nested pieces, '\x7b' :: (inner ++ ['\x7d']) = spell pieces ∧
      Written .value own nested pieces ∧ (∀ key, table.contains key = true ↔ key ∈ own) ∧
      (own.Nodup ∨ (∀ piece ∈ pieces.tail, piece.opens = false) → nested = []) := by
  -- Reading the members of the table tells of what pieces the text is made.
  obtain ⟨members, rest, read, blank, entries⟩ := Table.of_parse h
  obtain ⟨nested, pieces, whole, written, plain⟩ :=
    exists_written_of_readMembers (readsPieces 126) read
  -- The brace at the end is read, so nothing is left.
  have done : rest = [] := by
    rcases List.eq_nil_or_concat rest with none | ⟨front, last, rfl⟩
    · exact none
    · rw [List.concat_eq_append, ← List.append_assoc] at whole
      obtain ⟨-, same⟩ := List.append_inj' whole rfl
      cases same
      have blank := List.dropWhile_eq_nil_iff.mp blank '\x7d' (by simp)
      exact absurd blank (by decide)
  rw [done, List.append_nil] at whole
  -- All values were texts, or there would be no table.
  obtain ⟨found, texts, same⟩ : ∃ found,
      Table.entriesOf (OrderedMap.ofList members).entries = .ok found ∧
        OrderedMap.ofList found = table := by
    cases texts : Table.entriesOf (OrderedMap.ofList members).entries with
    | error fault =>
      rw [texts] at entries
      cases entries
    | ok found =>
      rw [texts] at entries
      exact ⟨found, rfl, Except.ok.inj entries⟩
  obtain ⟨keys, allTexts⟩ := of_entriesOf texts
  refine ⟨members.map Prod.fst, nested, .other '\x7b' :: pieces, congrArg ('\x7b' :: ·) whole,
    .object written, fun key => ?_, ?_⟩
  · -- Its keys are the names of the members, of which the last one with a name counts.
    rw [← same, OrderedMap.contains, Option.isSome_iff_exists, ← OrderedMap.mem_keys_iff,
      OrderedMap.mem_keys_ofList, keys]
    exact OrderedMap.mem_keys_ofList
  · -- Without a repeated name, all members are entries, so no value holds names.
    rintro (distinct | flat)
    · rw [OrderedMap.entries_ofList distinct] at allTexts
      exact plain allTexts
    · exact (written.nested_eq_nil flat).1

/-- The line of a key is that of the first name in the region that reads as the key: one more than
the line feeds before it. It is found if the table contains the key, or if a name inside of another
value reads as the key. Such a value is not in the table: it is one that a later member with the
same name has replaced. The search by bytes finds the same, and no slice cuts a character. -/
theorem keyLine?_of_parse {text : String} {file : TableFile} (h : parse text = .ok file) :
    ∃ own nested pieces, file.region = spell pieces ∧ Written .value own nested pieces ∧
      (∀ key, file.table.contains key = true ↔ key ∈ own) ∧
      (own.Nodup ∨ (∀ piece ∈ pieces.tail, piece.opens = false) → nested = []) ∧
      ∀ key,
        ((file.keyLine? key).isSome = true ↔ file.table.contains key = true ∨ key ∈ nested) ∧
        (∀ line, file.keyLine? key = some line ↔ ∃ front piece back,
          pieces = front ++ piece :: back ∧ piece.name? = some key ∧
            (∀ other ∈ front, other.name? ≠ some key) ∧
              line = (file.before ++ spell front).count '\n' + 1) ∧
        ∃ found, keyWalk? key file.region 0 (bytesOf file.region) = some found ∧
          file.keyLine? key = found.map fun offset =>
            Text.lineAt (Text.lineStarts text).toArray (Text.byteLength file.before + offset) := by
  obtain ⟨whole, read, -⟩ := framed_of_parse h
  -- The region is an object, so it is made of pieces.
  obtain ⟨inner, same⟩ : ∃ inner, file.region = '\x7b' :: (inner ++ ['\x7d']) := by
    obtain ⟨_, lead, _, gap, _, inner, trail, tail, -, -, -, -, -, same⟩ := parse_eq_ok h
    exact ⟨inner, congrArg TableFile.region same⟩
  rw [same] at read
  obtain ⟨own, nested, pieces, cut, written, keys, plain⟩ := exists_written_of_parse read
  rw [← same] at cut
  -- The search finds names of members only, since just these stand before a colon.
  have marked := marked_of_written written [] fun _ => rfl
  have search (key : String) (offset : Nat) := @keyOffset?_spell pieces key offset marked
  refine ⟨own, nested, pieces, cut, written, keys, plain, fun key => ⟨?_, fun line => ?_, ?_⟩⟩
  · rw [keys, ← written.names]
    unfold keyLine?
    rw [Option.isSome_map, cut]
    exact isSome_keyOffset?_spell marked
  · -- The line is that of the first such name, by the line feeds in front of it.
    unfold keyLine?
    dsimp only
    rw [cut, Option.map_eq_some_iff]
    constructor
    · rintro ⟨found, stops, rfl⟩
      obtain ⟨front, piece, back, rfl, named, before, rfl⟩ := (search key _ found).mp stops
      exact ⟨front, piece, back, rfl, named, before, lineAt_spell _ _ front _⟩
    · rintro ⟨front, piece, back, rfl, named, before, rfl⟩
      exact ⟨_, (search key _ _).mpr ⟨front, piece, back, rfl, named, before, rfl⟩,
        lineAt_spell _ _ front _⟩
  · -- The walk over the bytes of the region finds the same offset.
    refine ⟨_, keyWalk?_eq key [] file.region, ?_⟩
    have text_eq : String.ofList (file.before ++ file.region ++ file.after) = text := by
      rw [← whole, String.ofList_toList]
    have shifted := keyOffset?_add key (Text.byteLength file.before) 0 file.region
    rw [Nat.add_zero] at shifted
    unfold keyLine?
    dsimp only
    rw [text_eq, shifted, Option.map_map]
    rfl

/-- A table in which the first value of a name is replaced by the second one. -/
def replacedText : String :=
  "export default \x7b\"a\": \x7b\n\"b\": \"c\"\x7d, \"a\": \"x\"\x7d; /** I18NTABLEEND */"

/-- The table does not contain a name that stands in the replaced value, but a line is found for
it. -/
theorem line_of_replaced_name : ∃ file, parse replacedText = .ok file ∧
    file.table.contains "b" = false ∧ file.keyLine? "b" = some 2 ∧
      ∃ own nested pieces, file.region = spell pieces ∧ Written .value own nested pieces ∧
        "b" ∉ own ∧ "b" ∈ nested := by
  have found : (parse replacedText).toOption.map
      (fun file => (file.table.contains "b", file.keyLine? "b")) = some (false, some 2) := by
    decide +kernel
  cases read : parse replacedText with
  | error fault =>
    rw [read] at found
    cases found
  | ok file =>
    rw [read] at found
    obtain ⟨lacks, line⟩ := Prod.mk.inj (Option.some.inj found)
    obtain ⟨own, nested, pieces, cut, written, keys, -, lines⟩ := keyLine?_of_parse read
    have absent : "b" ∉ own := by
      rw [← keys, lacks]
      exact Bool.false_ne_true
    refine ⟨file, rfl, lacks, line, own, nested, pieces, cut, written, absent, ?_⟩
    have known := (lines "b").1.mp (by rw [line]; rfl)
    rw [lacks] at known
    exact known.resolve_left Bool.false_ne_true

end Phrasebook.TableFile
