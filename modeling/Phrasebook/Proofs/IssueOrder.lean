import Mathlib.Data.List.Pairwise
import Mathlib.Data.List.Perm.Basic
import Phrasebook.Report

/-!
# The order of reports

Issues are compared in two ways, by their places or by the rules that they break, and those that
point at a file come before those of the whole program. All this is the lexicographic order of one
key, in which the rule of an issue counts only where it has no place. A report shows each issue once
in that order, and how issues were collected shows only among those that compare equal.

- `Issue.compareKeys`, `compare_eq_compareKeys`: the key, and that issues are compared by it;
- `perm_sort`, `pairwise_sort`, `filter_sort`: what sorting does;
- `sort_eq_of_perm`: where no two issues compare equal, it does not depend on how they were
  collected;
- `Report.issues_in_order`: the order, and reports in it.
-/

namespace Phrasebook

namespace Issue

/-! ## One key for all issues -/

/-- The rank of the rule that an issue of the whole program breaks; zero if an issue points at a
file. -/
def programRank (issue : Issue) : Nat := if issue.file?.isSome then 0 else issue.rule.rank

/-- The lexicographic order by whether an issue points at no file, then by its file, line, column,
rank and words. -/
def compareKeys : Issue → Issue → Ordering :=
  compareLex (compareOn fun issue => issue.file?.isNone) <|
    compareLex (compareOn fun issue => issue.file?.getD "") <|
      compareLex (compareOn line) <|
        compareLex (compareOn col) <|
          compareLex (compareOn programRank) (compareOn message)

theorem file?_eq_none_iff {issue : Issue} : issue.file? = none ↔ issue.location = .program := by
  unfold file?
  cases issue.location <;> simp

/-- What points at no file has no line and no column. -/
theorem line_and_col_of_program {issue : Issue} (h : issue.file? = none) :
    issue.line = 0 ∧ issue.col = 0 := by
  rw [file?_eq_none_iff] at h
  unfold line col
  rw [h]
  exact ⟨rfl, rfl⟩

theorem compare_eq_compareKeys (a b : Issue) : a.compare b = compareKeys a b := by
  unfold Issue.compare compareKeys
  simp only [compareLex, compareOn, programRank]
  cases first : a.file? with
  | some file =>
    cases second : b.file? with
    | some other => rfl
    | none => rfl
  | none =>
    cases second : b.file? with
    | some other => rfl
    | none =>
      -- Neither has a line or a column, so the key goes on to the ranks of their rules.
      obtain ⟨line, col⟩ := line_and_col_of_program first
      obtain ⟨line', col'⟩ := line_and_col_of_program second
      rw [line, col, line', col']
      rfl

/-- What points at a file comes before what points at none. -/
theorem compare_eq_lt {a b : Issue} (placed : a.location ≠ .program)
    (whole : b.location = .program) :
    a.compare b = .lt := by
  obtain ⟨file, some⟩ := Option.ne_none_iff_exists'.mp (mt file?_eq_none_iff.mp placed)
  unfold Issue.compare
  rw [some, file?_eq_none_iff.mpr whole]

instance : Std.TransCmp Issue.compare := by
  have same : Issue.compare = compareKeys := funext₂ compare_eq_compareKeys
  rw [same]
  unfold compareKeys
  infer_instance

/-! ## Sorting -/

theorem isLE_trans {a b c : Issue} (first : (a.compare b).isLE) (second : (b.compare c).isLE) :
    (a.compare c).isLE := Std.TransCmp.isLE_trans first second

theorem isLE_total (a b : Issue) : ((a.compare b).isLE || (b.compare a).isLE) = true := by
  have swapped : b.compare a = (a.compare b).swap := Std.OrientedCmp.eq_swap
  rw [swapped]
  cases a.compare b <;> rfl

theorem sort_eq_mergeSort (issues : List Issue) :
    sort issues = issues.mergeSort fun a b => (a.compare b).isLE := by
  have same (order : Ordering) : (order != .gt) = order.isLE := by cases order <;> rfl
  unfold sort
  simp only [same]

theorem perm_sort (issues : List Issue) : (sort issues).Perm issues := List.mergeSort_perm issues _

theorem pairwise_sort (issues : List Issue) :
    (sort issues).Pairwise fun a b => (a.compare b).isLE := by
  rw [sort_eq_mergeSort]
  refine List.pairwise_mergeSort ?_ ?_ issues
  · intro a b c
    exact isLE_trans
  · exact isLE_total

/-- Issues that compare equal keep their order. -/
theorem filter_sort (issues : List Issue) (issue : Issue) :
    (sort issues).filter (issue.compare · = .eq) = issues.filter (issue.compare · = .eq) := by
  have alike : (issues.filter (issue.compare · = .eq)).Pairwise fun a b => (a.compare b).isLE := by
    refine List.pairwise_of_forall_mem_list ?_
    intro a inA b inB
    rw [List.mem_filter, decide_eq_true_eq] at inA inB
    rw [← Std.TransCmp.congr_left inA.2, inB.2]
    rfl
  have kept : (issues.filter (issue.compare · = .eq)).Sublist (sort issues) := by
    rw [sort_eq_mergeSort]
    refine List.sublist_mergeSort ?_ ?_ alike List.filter_sublist
    · intro a b c
      exact isLE_trans
    · exact isLE_total
  -- They are as many before as after.
  have among := kept.filter (issue.compare · = .eq)
  simp only [List.filter_filter, Bool.and_self] at among
  exact (among.eq_of_length ((perm_sort issues).filter _).length_eq.symm).symm

/-- Where no two issues compare equal, they are sorted in one way only. -/
theorem sort_eq_of_perm {issues others : List Issue} (same : issues.Perm others)
    (distinct : issues.Pairwise fun a b => a.compare b ≠ .eq) : sort issues = sort others := by
  have : Std.Symm fun a b : Issue => a.compare b ≠ .eq :=
    ⟨fun a b differ equal => differ (Std.OrientedCmp.eq_comm.mp equal)⟩
  refine List.Perm.eq_of_pairwise ?_ (pairwise_sort issues) (pairwise_sort others)
    (((perm_sort issues).trans same).trans (perm_sort others).symm)
  intro a b inFirst inSecond first second
  -- Two issues that come before each other compare equal, and so they are one and the same.
  by_contra differ
  have known := (perm_sort issues).mem_iff.mp inFirst
  have known' := same.mem_iff.mpr ((perm_sort others).mem_iff.mp inSecond)
  exact distinct.forall known known' differ (Std.OrientedCmp.isLE_antisymm first second)

end Issue

/-! ## Reports -/

namespace Report

variable {issues others : List Issue}

theorem gutter_of_perm (same : issues.Perm others) : gutter issues = gutter others := by
  unfold gutter
  dsimp only
  rw [(same.filterMap _).foldl_eq]

theorem summary_of_perm (terminal : Terminal) (same : issues.Perm others) :
    summary terminal issues = summary terminal others := by
  unfold summary
  dsimp only
  rw [(same.filter _).length_eq, same.length_eq]

theorem issues_eq (terminal : Terminal) (issues : List Issue) :
    Report.issues terminal issues =
      if issues.isEmpty then ""
      else String.join ((Issue.sort issues).map (issue terminal (gutter issues))) ++
        summary terminal issues := by
  unfold Report.issues
  dsimp only
  rw [gutter_of_perm (Issue.perm_sort issues), summary_of_perm terminal (Issue.perm_sort issues)]

/-- Comparing issues is a total preorder in which each issue that points at a file comes before each
issue of the whole program. A report shows each of its issues once, in this order, and issues that
compare equal in the order in which they were collected; so where no two compare equal, it does not
depend on that order. -/
theorem issues_in_order :
    (∀ a : Issue, a.compare a = .eq) ∧
    (∀ a b : Issue, b.compare a = (a.compare b).swap) ∧
    (∀ a b c : Issue, (a.compare b).isLE → (b.compare c).isLE → (a.compare c).isLE) ∧
    (∀ a b c : Issue, a.compare b = .eq → a.compare c = b.compare c) ∧
    (∀ a b : Issue, a.location ≠ .program → b.location = .program → a.compare b = .lt) ∧
    ∀ (terminal : Terminal) (issues : List Issue),
      (∃ shown : List Issue, shown.Perm issues ∧
        shown.Pairwise (fun a b => (a.compare b).isLE) ∧
        (∀ a : Issue, shown.filter (a.compare · = .eq) = issues.filter (a.compare · = .eq)) ∧
        Report.issues terminal issues =
          if issues.isEmpty then ""
          else String.join (shown.map (issue terminal (gutter issues))) ++
            summary terminal issues) ∧
      ∀ others : List Issue, issues.Perm others →
        issues.Pairwise (fun a b => a.compare b ≠ .eq) →
        Report.issues terminal issues = Report.issues terminal others := by
  refine ⟨fun a => Std.ReflCmp.compare_self, fun a b => Std.OrientedCmp.eq_swap,
    fun a b c => Issue.isLE_trans, fun a b c => Std.TransCmp.congr_left,
    fun a b => Issue.compare_eq_lt, fun terminal issues => ⟨?_, ?_⟩⟩
  · exact ⟨Issue.sort issues, Issue.perm_sort issues, Issue.pairwise_sort issues,
      Issue.filter_sort issues, issues_eq terminal issues⟩
  · intro others same distinct
    unfold Report.issues
    rw [Issue.sort_eq_of_perm same distinct, same.isEmpty_eq]

/-- A call whose key is in no table. -/
def missedKey : Issue :=
  .keyNotFound ⟨"src/a.ts", 3, 1, "locText(\"Hi\");"⟩ ⟨"default", "Hi"⟩

/-- A file that cannot be read as a source. -/
def brokenFile : Issue := .parseError "src/b.ts" "unexpected end"

/-- A key that a language does not translate, and that no call uses. -/
def lackingIn (language : String) : Issue := .partialTranslation ⟨"menu", "Open"⟩ [language] none

/-- Issues of files come before those of the program, two of which can compare equal. Where no two
do, the report is the same for the reversed list. -/
theorem missedKey_in_order :
    (missedKey.compare brokenFile).isLE ∧ (brokenFile.compare (lackingIn "ko")).isLE ∧
    (missedKey.compare (lackingIn "ko")).isLE ∧
    brokenFile.location ≠ .program ∧ (lackingIn "ko").location = .program ∧
    brokenFile.compare (lackingIn "ko") = .lt ∧
    (lackingIn "ko").compare (lackingIn "en") = .eq ∧
    (lackingIn "ko").compare .missingLookup = (lackingIn "en").compare .missingLookup ∧
    [lackingIn "ko", brokenFile, .missingLookup, missedKey].Pairwise
      (fun a b => a.compare b ≠ .eq) ∧
    Report.issues ⟨false⟩ [lackingIn "ko", brokenFile, .missingLookup, missedKey] =
      Report.issues ⟨false⟩ [missedKey, .missingLookup, brokenFile, lackingIn "ko"] := by
  obtain ⟨-, -, trans, congr, before, reports⟩ := issues_in_order
  have first : (missedKey.compare brokenFile).isLE := by decide +kernel
  have second : (brokenFile.compare (lackingIn "ko")).isLE := by decide +kernel
  have placed : brokenFile.location ≠ .program := by decide
  have whole : (lackingIn "ko").location = .program := by decide
  have equal : (lackingIn "ko").compare (lackingIn "en") = .eq := by decide +kernel
  have distinct : [lackingIn "ko", brokenFile, .missingLookup, missedKey].Pairwise
      (fun a b => a.compare b ≠ .eq) := by decide +kernel
  exact ⟨first, second, trans _ _ _ first second, placed, whole, before _ _ placed whole, equal,
    congr _ _ _ equal, distinct, (reports ⟨false⟩ _).2 _ (List.reverse_perm _).symm distinct⟩

end Report

end Phrasebook
