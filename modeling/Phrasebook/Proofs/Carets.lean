import Phrasebook.Extraction
import Phrasebook.Report
import Phrasebook.Proofs.Positions

/-!
# Carets below source lines

A place is reported with the columns in front of it, and the caret below its line is moved as far as
that many characters of the line are wide. Where each character in front of a place takes one column
these are the characters in front of it. A wide character takes two columns, so one character too
many is counted; a combining one takes none, so one is missed.

- `Text.StandsAlone`, `Text.width_eq_sum`: the width of a text whose characters stand alone;
- `Text.width_take_add`: how far apart the two widths are;
- `Report.numberedLine`, `Report.caretLine`: the two lines that an issue shows below each other;
- `Report.caret_below_counted_columns`: where the caret of an issue stands.
-/

namespace Phrasebook

/-! ## Widths -/

namespace Text

/-- The columns of a character that nothing stands behind. -/
def ownColumns (c : Char) : Nat := (measure c .nothing).1.toNat

/-- A character that nothing in front of it is shown together with: it is no part of a picture, of a
flag, or of letters that are one. -/
def StandsAlone (c : Char) : Prop := (measure c .nothing).2 = .nothing

instance (c : Char) : Decidable (StandsAlone c) :=
  inferInstanceAs (Decidable ((measure c .nothing).2 = .nothing))

theorem alone_nonneg (c : Char) : 0 ≤ (alone c).1 := by
  unfold alone
  dsimp only
  split
  · exact Int.one_nonneg
  · split_ifs <;> simp

theorem measure_of_standsAlone {c : Char} (alone : StandsAlone c) :
    measure c .nothing = (↑(ownColumns c), .nothing) := by
  have nonneg : 0 ≤ (measure c .nothing).1 := by
    show 0 ≤ (if c.toNat ≤ 0xA0 then measureLatin c .plain else Text.alone c).1
    split
    · unfold measureLatin
      split_ifs <;> simp
    · exact alone_nonneg c
  exact Prod.ext (Int.toNat_of_nonneg nonneg).symm alone

/-- One character more in front of a text that has been measured. -/
def addColumns (c : Char) (measured : Int × Behind) : Int × Behind :=
  (measured.1 + (measure c measured.2).1, (measure c measured.2).2)

theorem width_eq_foldr (text : List Char) :
    width text = (text.foldr addColumns (0, .nothing)).1.toNat := rfl

theorem foldr_addColumns {text : List Char} (alone : ∀ c ∈ text, StandsAlone c) :
    text.foldr addColumns (0, .nothing) = (((text.map ownColumns).sum : Int), .nothing) := by
  induction text with
  | nil => rfl
  | cons c text ih =>
    have one := measure_of_standsAlone (alone c List.mem_cons_self)
    rw [List.foldr_cons, ih fun other among => alone other (List.mem_cons_of_mem c among),
      addColumns, one, List.map_cons, List.sum_cons, Nat.add_comm, Int.natCast_add]

/-- A text whose characters stand alone is as wide as these are. -/
theorem width_eq_sum {text : List Char} (alone : ∀ c ∈ text, StandsAlone c) :
    width text = (text.map ownColumns).sum := by
  rw [width_eq_foldr, foldr_addColumns alone, Int.toNat_natCast]

-- Narrow, wide and combining characters stand alone.
example : ['x', '한', '\u0301'].all (StandsAlone ·) = true ∧ width ['x', '한', '\u0301'] = 3 := by
  decide +kernel

variable {line tail : List Char}

/-- So many characters of a line are as wide as its front, but for the characters that are missing,
or that are too many. -/
theorem width_take_add (count : Nat) (alone : ∀ c ∈ line ++ tail, StandsAlone c) :
    width ((line ++ tail).take count) + ((line.drop count).map ownColumns).sum =
      width line + ((tail.take (count - line.length)).map ownColumns).sum := by
  have inFront : ∀ c ∈ line, StandsAlone c := fun c among =>
    alone c (List.mem_append_left tail among)
  have taken : ∀ c ∈ (line ++ tail).take count, StandsAlone c := fun c among =>
    alone c (List.mem_of_mem_take among)
  have parts : (line.map ownColumns).sum =
      ((line.take count).map ownColumns).sum + ((line.drop count).map ownColumns).sum := by
    rw [← List.sum_append, ← List.map_append, List.take_append_drop]
  rw [width_eq_sum inFront, width_eq_sum taken, List.take_append, List.map_append, List.sum_append,
    parts]
  omega

theorem sum_ownColumns_eq_zero_iff {text : List Char} :
    (text.map ownColumns).sum = 0 ↔ ∀ c ∈ text, ownColumns c = 0 := by
  simp [List.sum_eq_zero_iff_forall_eq_nat]

/-- So many characters of a line are as wide as its front if and only if the characters that are
missing, or that are too many, take no columns. -/
theorem width_take_eq_iff (count : Nat) (alone : ∀ c ∈ line ++ tail, StandsAlone c) :
    width ((line ++ tail).take count) = width line ↔
      ∀ c ∈ line.drop count ++ tail.take (count - line.length), ownColumns c = 0 := by
  have apart := width_take_add count alone
  rw [← sum_ownColumns_eq_zero_iff, List.map_append, List.sum_append]
  by_cases short : count ≤ line.length
  · have none : tail.take (count - line.length) = [] := by
      rw [Nat.sub_eq_zero_of_le short, List.take_zero]
    rw [none, List.map_nil, List.sum_nil] at apart ⊢
    omega
  · have none : line.drop count = [] := List.drop_eq_nil_of_le (by omega)
    rw [none, List.map_nil, List.sum_nil] at apart ⊢
    omega

end Text

/-! ## Lines of a report -/

namespace Report

/-- The line that a place points into, with its number in front. -/
def numberedLine (terminal : Terminal) (gutter : Nat) (context : SourceContext) : String :=
  line (terminal.paintWide .blue gutter (toString context.line) ++ " " ++
    terminal.paint .blue "|" ++ " " ++ context.sourceLine)

/-- The line with a caret that many columns to the right. -/
def caretLine (terminal : Terminal) (gutter : Nat) (severity : Severity) (padding : Nat) : String :=
  line (blanks gutter ++ " " ++ terminal.paint .blue "|" ++ " " ++ blanks padding ++
    terminal.paint (caretStyle severity) "^")

/-- An issue shows the line of its place, and below it the line with the caret. -/
theorem issue_of_location {issue : Issue} {context : SourceContext}
    (located : issue.location = .source context) (terminal : Terminal) (gutter : Nat) :
    ∃ above below, Report.issue terminal gutter issue =
      above ++ numberedLine terminal gutter context ++
        caretLine terminal gutter issue.severity (caretPadding context) ++ below := by
  have around (heading place bar numbered caret details hint last : String) :
      ∃ above below, heading ++ (place ++ (bar ++ numbered ++ caret)) ++ details ++ hint ++ last =
        above ++ numbered ++ caret ++ below :=
    ⟨heading ++ place ++ bar, details ++ hint ++ last, by simp only [String.append_assoc]⟩
  unfold Report.issue
  rw [located]
  exact around _ _ _ _ _ _ _ _

/-! ## Where the caret stands -/

open Text (Boundary StandsAlone displayColumns ownColumns width)
open Text.Position (OnLine lineEnds)
open Source (Node)

/-- Each place between characters of a unit is on a line. An issue at such a place shows that line,
and below it a caret that is as far to the right as so many characters of the line are wide as there
are columns in front of the place. The caret stands behind what is in front of the place if that has
as many columns as characters. If the characters of the line stand alone, it does so if and only if
the characters that are missing, or that are too many, take no columns, and otherwise it is as many
columns too far to the left or to the right as these take. -/
theorem caret_below_counted_columns (program : Program) (file : Nat) (unit : Program.SourceUnit)
    (found : program.units[file]? = some unit) :
    (∀ offset, Boundary unit.script.body.toList offset →
      ∃ earlier line rest, OnLine unit.script.body.toList offset earlier line rest) ∧
    ∀ offset earlier line rest, OnLine unit.script.body.toList offset earlier line rest →
      let tail := rest.takeWhile (· ≠ '\n')
      let columns := (line.map displayColumns).sum
      let context := program.contextAt file offset
      let padding := width ((line ++ tail).take columns)
      context = ⟨unit.display, 1 + lineEnds (line ++ rest) earlier, columns + 1,
        String.ofList (line ++ tail)⟩ ∧
      (∀ issue : Issue, issue.location = .source context → ∀ terminal gutter,
        ∃ above below, Report.issue terminal gutter issue =
          above ++ numberedLine terminal gutter context ++
            caretLine terminal gutter issue.severity padding ++ below) ∧
      (columns = line.length → padding = width line) ∧
      ((∀ c ∈ line ++ tail, StandsAlone c) →
        (padding = width line ↔
          ∀ c ∈ line.drop columns ++ tail.take (columns - line.length), ownColumns c = 0) ∧
        padding + ((line.drop columns).map ownColumns).sum =
          width line + ((tail.take (columns - line.length)).map ownColumns).sum) := by
  refine ⟨fun offset boundary => OnLine.exists_of_boundary boundary, ?_⟩
  intro offset earlier line rest here tail columns context padding
  have located : context = ⟨unit.display, 1 + lineEnds (line ++ rest) earlier, columns + 1,
      String.ofList (line ++ tail)⟩ := by
    show program.contextAt file offset = _
    unfold Program.contextAt
    rw [found]
    dsimp only
    rw [Text.Position.find_eq_of_onLine here, Text.Position.lineText_of_unbroken here.unbroken]
  have padded : caretPadding context = padding := by
    rw [located, caretPadding, String.toList_ofList, Nat.add_sub_cancel]
  refine ⟨located, ?_, ?_, ?_⟩
  · intro issue placed terminal gutter
    rw [← padded]
    exact issue_of_location placed terminal gutter
  · -- As many columns as characters: just the line in front of the place is taken.
    intro narrow
    show width ((line ++ tail).take columns) = width line
    rw [narrow, List.take_left]
  · intro alone
    exact ⟨Text.width_take_eq_iff columns alone, Text.width_take_add columns alone⟩

/-- A call without a literal, behind a name of two wide letters. -/
def hangulCalls : Program :=
  let call : Node := .call 15 (.member (.name 15 "i18n") (some "locText")) [.name 28 "name"]
  let statement : Node := .variables "" false [.declarator (.binding "한글") [call]]
  let script : Source.Script := ⟨"const 한글 = i18n.locText(name);", false, [.statement statement]⟩
  ⟨#[⟨⟨"/app.ts"⟩, "app.ts", script, .empty, .empty, true, []⟩],
    #[⟨"locText", .member, 0, "* I18NLOCTEXTSYMBOL ", some .lookup, none⟩], []⟩

/-- The call is reported, and the caret stands below its third letter. -/
theorem caret_behind_hangul :
    let context := hangulCalls.contextAt 0 15
    let issue := Issue.callShape context .keyNotLiteral
    (Extraction.ofProgram hangulCalls).toOption.any (fun extraction => issue ∈ extraction.issues) =
      true ∧
    width "const 한글 = ".toList = 13 ∧
    ∃ above below, Report.issue ⟨false⟩ 1 issue =
      above ++ "1 | const 한글 = i18n.locText(name);\n" ++ "  | " ++ blanks 15 ++ "^\n" ++ below := by
  intro context issue
  refine ⟨by decide +kernel, by decide +kernel, ?_⟩
  have here : OnLine (hangulCalls.units[0].script.body).toList 15 [] "const 한글 = ".toList
      "i18n.locText(name);".toList := by
    refine ⟨by decide +kernel, by decide +kernel, .inl rfl, by decide +kernel⟩
  -- The eleven characters in front take 13 columns, the first 13 characters take 15.
  obtain ⟨-, shown, -⟩ := (caret_below_counted_columns hangulCalls 0 _ rfl).2 15 _ _ _ here
  obtain ⟨above, below, report⟩ := shown issue rfl ⟨false⟩ 1
  have numbered : numberedLine ⟨false⟩ 1 context = "1 | const 한글 = i18n.locText(name);\n" := by
    decide +kernel
  have caret : caretLine ⟨false⟩ 1 issue.severity
      (width (("const 한글 = ".toList ++ "i18n.locText(name);".toList.takeWhile (· ≠ '\n')).take
        (("const 한글 = ".toList).map displayColumns).sum)) = "  | " ++ blanks 15 ++ "^\n" := by
    decide +kernel
  refine ⟨above, below, ?_⟩
  rw [report, numbered, caret]
  simp only [String.append_assoc]

end Report

end Phrasebook
