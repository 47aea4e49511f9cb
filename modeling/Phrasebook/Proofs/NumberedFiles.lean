import Phrasebook.Proofs.Edits
import Phrasebook.Proofs.LookupCalls

/-!
# Numbered files

Where numbers take the place of keys, nothing else of a file changes. The edits come in the order in
which calls are visited, which is not the order of the text, and calls are nested in the arguments
of others; but each key is a string literal of its own.

- `Script.Spanned`: what is promised about the places of string literals;
- `literals_perm`, `pairwise_keys`: keys are different literals;
- `Numbering.Replaces`: an edit that puts a number in place of a key;
- `numbered_files`: root files with such edits, and nothing else.
-/

namespace Phrasebook

open Source

/-! ## String literals -/

namespace Source

/-- Where a string literal stands. -/
def Node.span? : Node → Option (Nat × Nat)
  | .text start stop _ => some (start, stop)
  | _ => none

/-- Where the string literals of some nodes stand, at any depth, in visiting order. -/
def Node.literals (nodes : List Node) : List (Nat × Nat) := (preorderAll nodes).filterMap span?

/-- Each string literal of a script is a part of the text that was read, and no two have a byte in
common. -/
structure Script.Spanned (script : Script) : Prop where
  cuts : ∀ span ∈ Node.literals script.nodes, Text.Cuts script.body.toList span.1 span.2
  apart : (Node.literals script.nodes).Pairwise Text.Apart

instance (script : Script) : Decidable script.Spanned :=
  decidable_of_iff
    ((∀ span ∈ Node.literals script.nodes, Text.Cuts script.body.toList span.1 span.2) ∧
      (Node.literals script.nodes).Pairwise Text.Apart)
    ⟨fun ⟨cuts, apart⟩ => ⟨cuts, apart⟩, fun spanned => ⟨spanned.cuts, spanned.apart⟩⟩

/-- The byte order mark of a file, if it has one. -/
def Script.mark (script : Script) : String := if script.hasMark then "\ufeff" else ""

theorem Script.eq_of_cutMark (content : String) :
    content = (if (cutMark content).1 then "\ufeff" else "") ++ (cutMark content).2 := by
  unfold cutMark
  split
  · rename_i rest start
    refine String.toList_inj.mp ?_
    rw [start]
    simp
  · simp

/-- A script is the text of its file, but for the byte order mark. -/
theorem Script.content_of_read {path content : String} {script : Script}
    (h : Script.read? path content = some script) : content = script.mark ++ script.text := by
  unfold Script.read? at h
  simp only [Option.pure_def, Option.bind_eq_bind, Option.bind_eq_some_iff] at h
  obtain ⟨items, -, same⟩ := h
  cases same
  exact Script.eq_of_cutMark content

namespace Node

/-- Every string literal stands in front or is a part of some node. -/
theorem literals_perm (nodes : List Node) :
    (literals nodes).Perm (nodes.filterMap span? ++
      (preorderAll nodes).flatMap fun node => node.children.filterMap span?) := by
  induction nodes using forest_induction with
  | nil => exact .refl _
  | cons node rest ihParts ihRest =>
    have whole : literals (node :: rest) =
        [node].filterMap span? ++ (literals node.children ++ literals rest) := by
      unfold literals
      rw [preorderAll_cons, ← List.filterMap_append, ← List.filterMap_append]
      rfl
    have fronts : (node :: rest).filterMap span? =
        [node].filterMap span? ++ rest.filterMap span? := List.filterMap_append (l := [node])
    rw [whole, fronts, preorderAll_cons, List.flatMap_cons, List.flatMap_append, List.append_assoc]
    -- Both sides hold the parts of `node` and what is below them, `rest` and what is below it.
    refine List.Perm.append_left _ ((ihParts.append ihRest).trans ?_)
    rw [List.perm_iff_count]
    intro span
    simp only [List.count_append]
    omega

end Node

end Source

/-! ## Keys -/

namespace PlacedLookup

/-- Where the key of a lookup stands. -/
def keySpan (placed : PlacedLookup) : Nat × Nat := (placed.lookup.keyStart, placed.lookup.keyStop)

end PlacedLookup

namespace Program

variable {program : Program} {root : Nat × SourceUnit}

theorem keySpan_mem_children {file : Nat} {node : Node} {placed : PlacedLookup}
    (h : program.lookupAt? file node = some placed) :
    placed.keySpan ∈ node.children.filterMap Node.span? := by
  obtain ⟨-, callee, arguments, rfl, classified⟩ := lookupAt?_eq_some_iff.mp h
  obtain ⟨⟨content, argument, -⟩, -⟩ := LookupCall.ok_of_classify classified
  exact List.mem_filterMap.mpr ⟨_, List.mem_cons_of_mem _ argument, rfl⟩

theorem keys_sublist :
    ((program.lookupsIn root).map PlacedLookup.keySpan).Sublist
      ((Node.preorderAll root.2.script.nodes).flatMap fun node =>
        node.children.filterMap Node.span?) := by
  unfold lookupsIn
  induction Node.preorderAll root.2.script.nodes with
  | nil => exact .slnil
  | cons node rest ih =>
    rw [List.flatMap_cons, List.filterMap_cons]
    cases found : program.lookupAt? root.1 node with
    | none => exact ih.trans (List.sublist_append_right _ _)
    | some placed =>
      exact (List.singleton_sublist.mpr (keySpan_mem_children found)).append ih

/-- The keys of a file are string literals. -/
theorem keySpan_mem_literals {placed : PlacedLookup} (h : placed ∈ program.lookupsIn root) :
    placed.keySpan ∈ Node.literals root.2.script.nodes :=
  (Node.literals_perm _).symm.subset
    (List.mem_append_right _ (keys_sublist.subset (List.mem_map_of_mem h)))

/-- Different lookups have different literals for their keys. -/
theorem pairwise_keys (h : (Node.literals root.2.script.nodes).Pairwise Text.Apart) :
    (program.lookupsIn root).Pairwise fun placed other =>
      Text.Apart placed.keySpan other.keySpan := by
  have all := ((Node.literals_perm _).pairwise h Text.Apart.symm).sublist
    (List.sublist_append_right _ _)
  exact List.pairwise_map.mp (all.sublist keys_sublist)

end Program

/-! ## Numbers in place of keys -/

namespace Numbering

variable {numbering : Numbering} {program : Program} {root : Nat × Program.SourceUnit}

/-- The edit puts its number in place of the key of a lookup, which is a call nested anywhere in a
root file, and every language has the text that it looks up. -/
def Replaces (numbering : Numbering) (program : Program) (root : Nat × Program.SourceUnit)
    (edit : Text.Edit) : Prop :=
  ∃ start callee arguments lookup content ordinal,
    Node.Within root.2.script.nodes (.call start callee arguments) ∧
    LookupCall.classify program root.1 callee arguments = some (.ok lookup) ∧
    .text lookup.keyStart lookup.keyStop content ∈ arguments ∧
    content.text? = some lookup.identity.key ∧
    numbering.find lookup.identity = .mature ordinal ∧
    edit = ⟨lookup.keyStart, lookup.keyStop, toString ordinal⟩

/-- The edits of a root file, in the order in which its calls are visited. -/
def editsIn (numbering : Numbering) (program : Program) (root : Nat × Program.SourceUnit) :
    List Text.Edit :=
  editsOf (callOutcomes program numbering root.1 root.2)

/-- What is edited about a lookup. -/
def editAt? (numbering : Numbering) (placed : PlacedLookup) : Option Text.Edit :=
  match numbering.find placed.lookup.identity with
  | .mature ordinal => some ⟨placed.lookup.keyStart, placed.lookup.keyStop, toString ordinal⟩
  | _ => none

theorem editsIn_eq :
    numbering.editsIn program root = (program.lookupsIn root).filterMap numbering.editAt? := by
  unfold editsIn editsOf
  rw [callOutcomes_eq, List.filterMap_map]
  refine List.filterMap_congr fun placed _ => ?_
  unfold PlacedLookup.outcome editAt?
  dsimp only [Function.comp]
  cases numbering.find placed.lookup.identity <;> rfl

theorem editAt?_eq_some_iff {placed : PlacedLookup} {edit : Text.Edit} :
    numbering.editAt? placed = some edit ↔
      ∃ ordinal, numbering.find placed.lookup.identity = .mature ordinal ∧
        edit = ⟨placed.lookup.keyStart, placed.lookup.keyStop, toString ordinal⟩ := by
  unfold editAt?
  cases numbering.find placed.lookup.identity with
  | mature ordinal => simp [eq_comm]
  | missing => simp
  | immature text => simp

theorem replaced_of_editAt? {placed : PlacedLookup} {edit : Text.Edit}
    (h : numbering.editAt? placed = some edit) : edit.replaced = placed.keySpan := by
  obtain ⟨ordinal, -, rfl⟩ := editAt?_eq_some_iff.mp h
  rfl

theorem mem_editsIn_iff {edit : Text.Edit} :
    edit ∈ numbering.editsIn program root ↔ numbering.Replaces program root edit := by
  rw [editsIn_eq, List.mem_filterMap]
  simp only [Program.mem_lookupsIn_iff, editAt?_eq_some_iff]
  constructor
  · rintro ⟨placed, ⟨-, callee, arguments, nested, classified⟩, ordinal, found, rfl⟩
    obtain ⟨⟨content, argument, key⟩, -⟩ := LookupCall.ok_of_classify classified
    exact ⟨_, _, _, _, content, ordinal, nested, classified, argument, key, found, rfl⟩
  · rintro ⟨start, callee, arguments, lookup, -, ordinal, nested, classified, -, -, found, rfl⟩
    exact ⟨⟨root.1, start, lookup⟩, ⟨rfl, callee, arguments, nested, classified⟩, ordinal, found,
      rfl⟩

/-- The edits of a file replace different parts of it. -/
theorem pairwise_editsIn (spanned : root.2.script.Spanned) :
    (numbering.editsIn program root).Pairwise fun edit other =>
      Text.Apart edit.replaced other.replaced := by
  rw [editsIn_eq]
  refine (Program.pairwise_keys spanned.apart).filterMap _ fun placed other apart => ?_
  intro edit found edit' found'
  rw [replaced_of_editAt? found, replaced_of_editAt? found']
  exact apart

theorem cuts_editsIn (spanned : root.2.script.Spanned) {edit : Text.Edit}
    (h : edit ∈ numbering.editsIn program root) :
    Text.Cuts root.2.script.body.toList edit.start edit.stop := by
  rw [editsIn_eq] at h
  obtain ⟨placed, here, found⟩ := List.mem_filterMap.mp h
  have cuts := spanned.cuts _ (Program.keySpan_mem_literals here)
  rwa [← replaced_of_editAt? found] at cuts

/-- What becomes of a root file. -/
structure Numbered (numbering : Numbering) (program : Program) (root : Nat × Program.SourceUnit)
    (file : NumberedFile) : Prop where
  display : file.display = root.2.display
  /-- What is edited is the file that was read. -/
  original : ∀ path content, Script.read? path content = some root.2.script →
    content = root.2.script.mark ++ root.2.script.text
  /-- A file without keys of texts that every language has stays as it is. -/
  untouched : (∀ edit, ¬ numbering.Replaces program root edit) →
    file.content = root.2.script.mark ++ root.2.script.text
  /-- From left to right, numbers take the place of the keys of all texts that every language has.
  All else is kept, and no slice that is kept is out of range. But where a second byte order mark
  was lost in reading, the offsets are not those of the text. -/
  edited : root.2.script.body = root.2.script.text → ∃ edits result,
    (∀ edit, edit ∈ edits ↔ numbering.Replaces program root edit) ∧
    (edits.Pairwise fun edit later => edit.stop ≤ later.start) ∧
    Text.Edited 0 root.2.script.text.toList edits result ∧
    Text.spliced? root.2.script.text.toList 0 edits = some result ∧
    file.content = root.2.script.mark ++ String.ofList result ∧
    file.replaced = edits.length

theorem numbered_numberUnit (spanned : root.2.script.Spanned) :
    numbering.Numbered program root (numberUnit root.2 (numbering.editsIn program root)) where
  display := rfl
  original _ _ read := Script.content_of_read read
  untouched none := by
    have unedited : numbering.editsIn program root = [] :=
      List.eq_nil_iff_forall_not_mem.mpr fun edit h => none edit (mem_editsIn_iff.mp h)
    rw [unedited]
    exact congrArg (root.2.script.mark ++ ·) (Text.applyEdits_nil _)
  edited once := by
    obtain ⟨edits, result, same, sorted, edited, applied⟩ :=
      @Text.edited_applyEdits root.2.script.text (numbering.editsIn program root)
        (fun edit h => once ▸ cuts_editsIn spanned h) (pairwise_editsIn spanned)
    refine ⟨edits, result, fun edit => same.mem_iff.trans mem_editsIn_iff, sorted, edited, ?_,
      congrArg (root.2.script.mark ++ ·) applied, same.symm.length_eq⟩
    exact @Text.Edited.spliced? [] _ _ _ _ edited rfl

/-- In every root file, numbers take the place of the keys of the texts that every language has, and
nothing else changes. -/
theorem numbered_files (spanned : ∀ root ∈ program.roots, root.2.script.Spanned) :
    program.roots.Forall₂ (numbering.Numbered program) (numbering.numberProgram program).files := by
  have files : (numbering.numberProgram program).files =
      program.roots.map fun root => numberUnit root.2 (numbering.editsIn program root) :=
    List.map_map
  rw [files, List.forall₂_map_right_iff, List.forall₂_same]
  exact fun root here => numbered_numberUnit (spanned root here)

/-- A loop that greets. Its condition is visited before its body, and one lookup stands among the
arguments of another. -/
def greetingUnit : Program.SourceUnit :=
  let lookup (start : Nat) (arguments : List Node) : Node :=
    .call start (.member (.name start "i18n") (some "text")) arguments
  let condition := lookup 62 [.text 72 76 ⟨"Hi", true⟩]
  let body := lookup 18 [.text 28 32 ⟨"é", true⟩, lookup 34 [.text 44 49 ⟨"Bye", true⟩]]
  let text :=
    "/* 인사 */ do \x7b i18n.text(\"é\", i18n.text(\"Bye\")); \x7d while (i18n.text(\"Hi\"));"
  ⟨⟨"/app.ts"⟩, "app.ts", ⟨text, true, [.statement (.group [condition, .block [body]])]⟩, .empty,
    .empty, true, []⟩

def greetingLoop : Program :=
  ⟨#[greetingUnit], #[⟨"text", .member, 0, "* I18NLOCTEXTSYMBOL ", some .lookup, none⟩], []⟩

/-- Two greetings have numbers, one waits for its translation. -/
def loopGreetings : Numbering :=
  ⟨.ofList [(⟨"default", "é"⟩, ⟨0, ["en"]⟩), (⟨"default", "Bye"⟩, ⟨1, []⟩),
    (⟨"default", "Hi"⟩, ⟨10, ["en"]⟩)], ["en"]⟩

theorem greetingLoop_numbered :
    (loopGreetings.numberProgram greetingLoop).files.map NumberedFile.content =
      ["\ufeff/* 인사 */ do \x7b i18n.text(0, i18n.text(\"Bye\")); \x7d while (i18n.text(10));"] := by
  have roots : greetingLoop.roots = [(0, greetingUnit)] := rfl
  have numbered := @numbered_files loopGreetings greetingLoop (by decide +kernel)
  rw [roots, List.forall₂_cons_left_iff] at numbered
  obtain ⟨file, others, here, none, files⟩ := numbered
  rw [List.forall₂_nil_left_iff] at none
  obtain ⟨edits, result, members, sorted, -, spliced, content, count⟩ :=
    here.edited (by decide +kernel)
  have visited : loopGreetings.editsIn greetingLoop (0, greetingUnit) =
      [⟨72, 76, "10"⟩, ⟨28, 32, "0"⟩] := by
    decide +kernel
  have two : (loopGreetings.numberProgram greetingLoop).files.map NumberedFile.replaced = [2] := by
    decide +kernel
  have ordered : edits = [⟨28, 32, "0"⟩, ⟨72, 76, "10"⟩] := by
    rw [files, none, List.map_singleton, count, List.singleton_inj] at two
    obtain ⟨first, second, rfl⟩ := List.length_eq_two.mp two
    have among : ∀ edit ∈ [first, second], edit = ⟨72, 76, "10"⟩ ∨ edit = ⟨28, 32, "0"⟩ := by
      intro edit h
      simpa [visited] using mem_editsIn_iff.mpr ((members edit).mp h)
    rcases among first (by simp) with rfl | rfl <;> rcases among second (by simp) with rfl | rfl
    -- Only one order goes from left to right.
    · simp at sorted
    · simp at sorted
    · rfl
    · simp at sorted
  have same : Text.spliced? greetingUnit.script.text.toList 0 edits = some
      "/* 인사 */ do \x7b i18n.text(0, i18n.text(\"Bye\")); \x7d while (i18n.text(10));".toList := by
    rw [ordered]
    decide +kernel
  rw [files, none, List.map_singleton, content, Option.some.inj (spliced.symm.trans same)]
  rfl

/-- A greeting in a file with two byte order marks. -/
def markedTwice : Program :=
  let lookup : Node := .call 0 (.member (.name 0 "i18n") (some "text")) [.text 10 14 ⟨"Hi", true⟩]
  ⟨#[⟨⟨"/app.ts"⟩, "app.ts", ⟨"\ufeffi18n.text(\"Hi\");", true, [.statement lookup]⟩, .empty,
      .empty, true, []⟩],
    greetingLoop.declarations, []⟩

-- The number comes three bytes too early.
example : (loopGreetings.numberProgram markedTwice).files.map NumberedFile.content =
    ["\ufeff\ufeffi18n.te10Hi\");"] := by
  cbv

end Numbering

end Phrasebook
