import Phrasebook.Proofs.Scanning
import Phrasebook.Proofs.Walks

/-!
# Texts that patterns fit

Matching gives up where a text ends before the pattern does. For the patterns of endings and of
folders, below any other folders, this never hides a match.

- `Glob.endingIn`, `Glob.matchesText_endingIn`: the texts with a given end;
- `Glob.inFolder`, `Glob.matchesText_inFolder`: the texts with a given piece before the last one;
- `Scan.builtIn_eq`: the patterns that are left out of each scan are of these kinds.
-/

namespace Phrasebook

namespace Path

theorem pieces_of_slash {first rest : List Char} (clean : '/' ∉ first) :
    pieces (first ++ '/' :: rest) = first :: pieces rest := by
  rw [pieces_append_slash, pieces_of_clean clean, List.singleton_append]

/-- A name stands before the last piece if the text starts with it and a slash, or if it stands
there after the first piece. -/
theorem mem_dropLast_pieces_iff {name text : List Char} (clean : '/' ∉ name) :
    name ∈ (pieces text).dropLast ↔
      name ++ ['/'] <+: text ∨ name ∈ (pieces text).tail.dropLast := by
  by_cases slash : '/' ∈ text
  · obtain ⟨first, rest, rfl, cleanFirst⟩ := List.eq_append_cons_of_mem slash
    have led : name ++ ['/'] <+: first ++ '/' :: rest ↔ name = first := by
      constructor
      · rintro ⟨others, same⟩
        rw [List.append_assoc, List.singleton_append] at same
        have cut := congrArg pieces same
        rw [pieces_of_slash clean, pieces_of_slash cleanFirst] at cut
        exact (List.cons.inj cut).1
      · rintro rfl
        exact ⟨rest, by simp⟩
    rw [led, pieces_of_slash cleanFirst, List.tail_cons, List.dropLast_cons_of_ne_nil
      (pieces_ne_nil rest), List.mem_cons]
  · have led : ¬ name ++ ['/'] <+: text := fun h =>
      slash (h.subset (List.mem_append_right _ (List.mem_singleton_self _)))
    rw [pieces_of_clean slash]
    simp [led]

/-- Without a slash, only the last piece matters to how a text ends. -/
theorem suffix_iff_of_getLast? {ending text last : List Char} (clean : '/' ∉ ending)
    (h : (pieces text).getLast? = some last) : ending <:+ text ↔ ending <:+ last := by
  by_cases slash : '/' ∈ text
  · -- Cut the text at its last slash.
    obtain ⟨behind, before, cut, cleanBehind⟩ :=
      List.eq_append_cons_of_mem (List.mem_reverse.mpr slash)
    have whole : text = before.reverse ++ '/' :: behind.reverse := by
      rw [← List.reverse_reverse text, cut]
      simp
    have cleanLast : '/' ∉ behind.reverse := mt List.mem_reverse.mp cleanBehind
    rw [whole, pieces_append_slash, pieces_of_clean cleanLast, List.getLast?_concat] at h
    obtain rfl := Option.some.inj h
    rw [whole]
    constructor
    · intro ends
      rcases List.suffix_or_suffix_of_suffix ends (List.suffix_append _ _) with within | beyond
      · rcases List.suffix_cons_iff.mp within with rfl | within
        · exact absurd List.mem_cons_self clean
        · exact within
      · exact absurd (beyond.subset List.mem_cons_self) clean
    · intro ends
      exact ends.trans ((List.suffix_cons _ _).trans (List.suffix_append _ _))
  · rw [pieces_of_clean slash, List.getLast?_singleton] at h
    rw [Option.some.inj h]

end Path

namespace Glob

/-! ## Running patterns -/

/-- The outcome of an attempt, or of the next one if it does not rule that out. -/
def Outcome.orElse : Outcome → Outcome → Outcome
  | .mismatched, next => next
  | outcome, _ => outcome

@[simp] theorem matched_orElse (next : Outcome) : Outcome.matched.orElse next = .matched := rfl

@[simp] theorem exhausted_orElse (next : Outcome) :
    Outcome.exhausted.orElse next = .exhausted := rfl

@[simp] theorem mismatched_orElse (next : Outcome) : Outcome.mismatched.orElse next = next := rfl

theorem run_anyText (tokens : List Token) (text : List Char) :
    run (.anyText :: tokens) text =
      (run tokens text).orElse (spread false (run tokens) text) := by
  rw [run]
  cases run tokens text <;> rfl

theorem run_anyComponents (tokens : List Token) (text : List Char) :
    run (.anyComponents :: tokens) text =
      (run tokens text).orElse (spread true (run tokens) text) := by
  rw [run]
  cases run tokens text <;> rfl

theorem spread_false (next : List Char → Outcome) (c : Char) (rest : List Char) :
    spread false next (c :: rest) = (next rest).orElse (spread false next rest) := by
  rw [spread, Bool.false_and, if_neg Bool.false_ne_true]
  cases next rest <;> rfl

theorem spread_slash (next : List Char → Outcome) (rest : List Char) :
    spread true next ('/' :: rest) = (next rest).orElse (spread true next rest) := by
  rw [spread, if_neg (by decide)]
  cases next rest <;> rfl

theorem spread_letter (next : List Char → Outcome) {c : Char} (h : c ≠ '/') (rest : List Char) :
    spread true next (c :: rest) = spread true next rest := by
  rw [spread, if_pos (by simpa using h)]

/-- Letters fit a text that starts with them. A text that ends among them is given up. -/
theorem run_letters (letters : List Char) (tokens : List Token) (text : List Char) :
    run (letters.map .letter ++ tokens) text =
      if letters <+: text then run tokens (text.drop letters.length)
      else if text <+: letters then .exhausted
      else .mismatched := by
  induction letters generalizing text with
  | nil => simp
  | cons letter rest ih =>
    cases text with
    | nil => simp [run]
    | cons c others =>
      show (if Token.accepts (.letter letter) c then run (rest.map .letter ++ tokens) others
        else .mismatched) = _
      by_cases same : c = letter
      · subst same
        rw [if_pos (by simp [Token.accepts]), ih]
        simp [List.cons_prefix_cons]
      · rw [if_neg (by simpa [Token.accepts] using same)]
        simp [List.cons_prefix_cons, same, Ne.symm same]

/-- The end of a pattern that stands for any components fits any text. -/
theorem run_rest (text : List Char) : run [.anyComponents] text = .matched := by
  have spread_all (text : List Char) : spread true (run []) text = .matched := by
    induction text with
    | nil => rfl
    | cons c rest ih =>
      by_cases slash : c = '/'
      · rw [slash, spread_slash, ih]
        cases rest <;> rfl
      · rw [spread_letter _ slash, ih]
  rw [run_anyComponents, spread_all]
  cases text <;> rfl

/-! ## Endings -/

/-- The pattern of the texts that end in `ending`, below any folders. -/
def endingIn (ending : String) : Glob :=
  ⟨.anyComponents :: .anyText :: ending.toList.map .letter⟩

/-- Letters fit the end of a text if they are the whole of it. -/
theorem run_last (letters text : List Char) :
    run (letters.map .letter) text =
      if letters = text then .matched
      else if text <+: letters then .exhausted
      else .mismatched := by
  have whole := run_letters letters [] text
  rw [List.append_nil] at whole
  rw [whole]
  by_cases led : letters <+: text
  · obtain ⟨more, rfl⟩ := led
    cases more with
    | nil => simp [run]
    | cons c rest =>
      have short : ¬ letters ++ c :: rest <+: letters := fun h => by
        have within := h.length_le
        rw [List.length_append, List.length_cons] at within
        omega
      simp [run, short]
  · have other : letters ≠ text := fun same => led (same ▸ List.prefix_refl _)
    rw [if_neg led, if_neg other]

/-- Any text before an ending is given up until the ending fits, or the text is too short for it. -/
theorem run_ending {ending : List Char} (some : ending ≠ []) (text : List Char) :
    run (.anyText :: ending.map .letter) text =
      if ending <:+ text then .matched else .exhausted := by
  rw [run_anyText]
  induction text with
  | nil => simp [run_last, spread, some]
  | cons c rest ih =>
    by_cases whole : ending = c :: rest
    · rw [run_last, if_pos whole, if_pos (whole ▸ List.suffix_refl _), matched_orElse]
    · have later : ending <:+ c :: rest ↔ ending <:+ rest := by
        rw [List.suffix_cons_iff, or_iff_right whole]
      simp only [later]
      by_cases inside : c :: rest <+: ending
      · -- The text is shorter than the ending.
        have short : ¬ ending <:+ rest := fun h => by
          have within := h.length_le
          have beyond := inside.length_le
          rw [List.length_cons] at beyond
          omega
        rw [run_last, if_neg whole, if_pos inside, if_neg short, exhausted_orElse]
      · rw [run_last, if_neg whole, if_neg inside, mismatched_orElse, spread_false]
        exact ih

theorem matchesText_endingIn {ending : String} (some : ending ≠ "") (text : String) :
    (endingIn ending).matchesText text = true ↔ ending.toList <:+ text.toList := by
  have outcome := run_ending (mt String.toList_eq_nil_iff.mp some) text.toList
  rw [matchesText, endingIn, run_anyComponents, outcome, beq_iff_eq]
  by_cases fits : ending.toList <:+ text.toList
  · rw [if_pos fits, matched_orElse]
    exact iff_of_true rfl fits
  · rw [if_neg fits, exhausted_orElse]
    exact iff_of_false (fun same => by cases same) fits

/-- An ending is the end of the last step. -/
theorem matchesText_endingIn_path {ending : String} (some : ending ≠ "")
    (clean : '/' ∉ ending.toList) {path : Path} (ended : path.Ended) :
    (endingIn ending).matchesText path.text = true ↔
      ∃ last ∈ path.steps.getLast?, ending.toList <:+ last := by
  obtain ⟨last, ends, steps⟩ := ended.steps_eq
  rw [matchesText_endingIn some, Path.suffix_iff_of_getLast? clean ends, steps,
    List.getLast?_concat]
  simp

/-! ## Folders -/

/-- The pattern of what lies in a folder of the given name, below any folders. -/
def inFolder (name : String) : Glob :=
  ⟨.anyComponents :: ((name.toList ++ ['/']).map .letter ++ [.anyComponents])⟩

/-- A text fits at its start if it starts with the folder. Where it is given up, no piece but the
last one is the name. -/
theorem run_folder (name text : List Char) :
    run ((name ++ ['/']).map .letter ++ [.anyComponents]) text =
      if name ++ ['/'] <+: text then .matched
      else if text <+: name then .exhausted
      else .mismatched := by
  rw [run_letters, run_rest]
  by_cases led : name ++ ['/'] <+: text
  · rw [if_pos led, if_pos led]
  · have within : text <+: name ++ ['/'] ↔ text <+: name := by
      rw [List.prefix_concat_iff, or_iff_right]
      exact fun same => led (same ▸ List.prefix_refl _)
    simp only [if_neg led, within]

theorem notMem_of_inside {name text : List Char} (clean : '/' ∉ name) (inside : text <+: name) :
    name ∉ (Path.pieces text).dropLast := by
  rw [Path.pieces_of_clean fun slash => clean (inside.subset slash)]
  exact List.not_mem_nil

/-- A folder fits at the start of a text or later. -/
theorem orElse_folder {name text : List Char} (clean : '/' ∉ name) {later : Outcome}
    (h : later = .matched ↔ name ∈ (Path.pieces text).tail.dropLast) :
    (run ((name ++ ['/']).map .letter ++ [.anyComponents]) text).orElse later = .matched ↔
      name ∈ (Path.pieces text).dropLast := by
  rw [run_folder]
  by_cases led : name ++ ['/'] <+: text
  · rw [if_pos led, matched_orElse]
    exact iff_of_true rfl ((Path.mem_dropLast_pieces_iff clean).mpr (.inl led))
  · rw [if_neg led]
    by_cases inside : text <+: name
    · rw [if_pos inside, exhausted_orElse]
      exact iff_of_false (fun same => by cases same) (notMem_of_inside clean inside)
    · rw [if_neg inside, mismatched_orElse, h, Path.mem_dropLast_pieces_iff clean,
        or_iff_right led]

/-- Components are given up until a folder fits, or the text is too short for its name. -/
theorem spread_folder {name : List Char} (clean : '/' ∉ name) (text : List Char) :
    spread true (run ((name ++ ['/']).map .letter ++ [.anyComponents])) text = .matched ↔
      name ∈ (Path.pieces text).tail.dropLast := by
  induction text with
  | nil =>
    rw [spread, run_folder]
    simp [Path.pieces]
  | cons c rest ih =>
    by_cases slash : c = '/'
    · rw [slash, spread_slash, Path.pieces, if_pos rfl, List.tail_cons]
      exact orElse_folder clean ih
    · obtain ⟨first, others, cut⟩ := List.exists_cons_of_ne_nil (Path.pieces_ne_nil rest)
      rw [spread_letter _ slash, ih, Path.pieces_cons slash cut, cut]
      rfl

theorem matchesText_inFolder {name : String} (clean : '/' ∉ name.toList) (text : String) :
    (inFolder name).matchesText text = true ↔
      name.toList ∈ (Path.pieces text.toList).dropLast := by
  rw [matchesText, inFolder, run_anyComponents, beq_iff_eq]
  exact orElse_folder clean (spread_folder clean text.toList)

/-- A folder of the path is a step before the last one. -/
theorem matchesText_inFolder_path {name : String} (clean : '/' ∉ name.toList)
    (said : Path.isBlank name.toList = false) {path : Path} (ended : path.Ended) :
    (inFolder name).matchesText path.text = true ↔ name.toList ∈ path.steps.dropLast := by
  obtain ⟨last, -, steps⟩ := ended.steps_eq
  rw [matchesText_inFolder clean, steps, List.dropLast_concat, List.mem_filter]
  simp [said]

end Glob

namespace Scan

/-- The endings of the names of test files. -/
def testEndings : List String :=
  [".test.tsx", ".test.ts", ".test.jsx", ".test.js", ".spec.tsx", ".spec.ts", ".spec.jsx",
    ".spec.js"]

theorem builtIn_eq (options : Options) :
    builtIn options =
      (if options.ignoreTests then testEndings.map Glob.endingIn ++ [Glob.inFolder "__tests__"]
        else []) ++ [Glob.inFolder "node_modules"] := by
  unfold builtIn
  cases options.ignoreTests <;> decide +kernel

end Scan

end Phrasebook
