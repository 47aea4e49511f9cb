import Mathlib.Data.List.Basic
import Phrasebook.Program.Alias

/-!
# Searching for an export

A name that a unit does not export itself is looked for in the modules that it exports again, which
may lead around in circles. Every unit is entered once, and still whatever any unit on the way
offers is found.

- `directSymbol?`, `forwards`: what a unit exports itself, and where it passes a search on to;
- `Offers`: a unit offers a symbol under a name, itself or through modules that it exports again;
- `Searched`: what a search that is under way has found and ruled out;
- `offers_of_exportSymbol?`, `exportSymbol?_eq_none_iff`: a search finds a symbol that is offered,
  if there is any.
-/

namespace Phrasebook.Program

/-- What a name stands for that a unit exports itself. -/
def directSymbol? (program : Program) (name : String) (file : Nat) : Option Symbol := do
  let unit ← program.units[file]?
  let target ← unit.symbols.exports.get? name
  program.targetSymbol? file target

/-- The units that a unit passes the search for a name on to: those that it exports again, if it
does not export the name itself. -/
def forwards (program : Program) (name : String) (file : Nat) : List Nat :=
  match program.units[file]? with
  | none => []
  | some unit =>
    match unit.symbols.exports.get? name with
    | some _ => []
    | none =>
      if name = "default" then []
      else unit.symbols.starExports.filterMap (program.importedUnit? file)

/-- A unit offers a symbol under a name: it exports it itself, or passes the search on to a unit
that offers it. -/
inductive Offers (program : Program) (name : String) : Nat → Symbol → Prop where
  | direct {file : Nat} {symbol : Symbol} (h : program.directSymbol? name file = some symbol) :
    Offers program name file symbol
  | forwarded {file target : Nat} {symbol : Symbol} (on : target ∈ program.forwards name file)
    (h : Offers program name target symbol) : Offers program name file symbol

variable {program : Program} {name : String} {file depth : Nat} {visited after : List Nat}
  {found : Option Symbol}

theorem directSymbol?_of_exports {unit : SourceUnit} {target : ExportTarget}
    (here : program.units[file]? = some unit)
    (exported : unit.symbols.exports.get? name = some target) :
    program.directSymbol? name file = program.targetSymbol? file target := by
  simp only [directSymbol?, here, exported, bind, Option.bind]

/-! ## One unit -/

/-- A search enters a unit once; it ends there, or goes on with the units that it is passed on
to. -/
theorem run_searchExport :
    (program.searchExport name (depth + 1) file).run visited =
      if visited.contains file then (none, visited)
      else
        match program.directSymbol? name file with
        | some symbol => (some symbol, file :: visited)
        | none =>
          (searchExport.firstFound (program.searchExport name depth)
            (program.forwards name file)).run (file :: visited) := by
  show (get >>= _ : StateM _ _).run visited = _
  rw [StateT.run_bind]
  show (if visited.contains file then _ else _ : StateM _ _).run visited = _
  split
  · rfl
  · -- A unit that is new is noted before it is looked into.
    show (modify (file :: ·) >>= _ : StateM _ _).run visited = _
    rw [StateT.run_bind]
    show (match program.units[file]? with
      | none => _
      | some unit => _ : StateM (List Nat) (Option Symbol)).run (file :: visited) = _
    unfold directSymbol? forwards
    rcases program.units[file]? with _ | unit
    · rfl
    · dsimp only [bind, Option.bind]
      rcases unit.symbols.exports.get? name with _ | target
      · dsimp only
        split <;> rfl
      · dsimp only
        cases program.targetSymbol? file target <;> rfl

theorem run_firstFound_cons {search : Nat → StateM (List Nat) (Option Symbol)} {rest : List Nat} :
    (searchExport.firstFound search (file :: rest)).run visited =
      match (search file).run visited with
      | (some symbol, after) => (some symbol, after)
      | (none, after) => (searchExport.firstFound search rest).run after := by
  show (search file >>= _ : StateM _ _).run visited = _
  rw [StateT.run_bind]
  rcases (search file).run visited with ⟨_ | symbol, after⟩ <;> rfl

/-! ## Whole searches -/

/-- What a search from some files has found when it has visited more files: a symbol that one of
them offers, or that all files which are new offer nothing and pass the search on to no other
file. -/
structure Searched (program : Program) (name : String) (files visited : List Nat)
    (found : Option Symbol) (after : List Nat) : Prop where
  grown : visited ⊆ after
  sound : ∀ symbol, found = some symbol → ∃ file ∈ files, program.Offers name file symbol
  entered : found = none → files ⊆ after
  closed : found = none → ∀ file ∈ after, file ∉ visited →
    program.directSymbol? name file = none ∧ program.forwards name file ⊆ after

/-- The number of units that were not visited. -/
def unvisited (program : Program) (visited : List Nat) : Nat :=
  ((List.range program.units.size).filter fun file => file ∉ visited).length

theorem unvisited_mono (h : visited ⊆ after) :
    program.unvisited after ≤ program.unvisited visited := by
  refine (List.monotone_filter_right _ fun file new => ?_).length_le
  exact decide_eq_true fun seen => of_decide_eq_true new (h seen)

theorem unvisited_cons_lt (inside : file < program.units.size) (new : file ∉ visited) :
    program.unvisited (file :: visited) < program.unvisited visited := by
  have fewer : (List.range program.units.size).filter (fun other => other ∉ file :: visited) =
      ((List.range program.units.size).filter fun other => other ∉ visited).filter (· ≠ file) := by
    rw [List.filter_filter]
    simp
  unfold unvisited
  rw [fewer]
  refine List.length_filter_lt_length_iff_exists.mpr ⟨file, ?_, by simp⟩
  exact List.mem_filter.mpr ⟨List.mem_range.mpr inside, decide_eq_true new⟩

theorem lt_size_of_mem_forwards {target : Nat} (h : target ∈ program.forwards name file) :
    file < program.units.size := by
  unfold forwards at h
  split at h
  · cases h
  · exact (Array.getElem?_eq_some_iff.mp ‹_›).1

/-- Searches one after the other, each to the end, have together found what the first successful one
has found. -/
theorem searched_firstFound {search : Nat → StateM (List Nat) (Option Symbol)} {files : List Nat}
    (each : ∀ file ∈ files, ∀ middle, visited ⊆ middle →
      program.Searched name [file] middle ((search file).run middle).1
        ((search file).run middle).2) :
    program.Searched name files visited ((searchExport.firstFound search files).run visited).1
      ((searchExport.firstFound search files).run visited).2 := by
  induction files generalizing visited with
  | nil =>
    exact ⟨fun _ => id, nofun, fun _ => List.nil_subset _,
      fun _ file here new => absurd here new⟩
  | cons file rest ih =>
    have first := each file List.mem_cons_self visited fun _ => id
    rw [run_firstFound_cons]
    generalize (search file).run visited = result at first ⊢
    obtain ⟨_ | symbol, middle⟩ := result
    · -- The first file has offered nothing: the others start with what it has visited.
      have others := ih fun other h late grown =>
        each other (List.mem_cons_of_mem _ h) late fun _ seen => grown (first.grown seen)
      refine ⟨fun _ seen => others.grown (first.grown seen), fun symbol found => ?_, fun none => ?_,
        fun none other here new => ?_⟩
      · obtain ⟨other, h, offers⟩ := others.sound symbol found
        exact ⟨other, List.mem_cons_of_mem _ h, offers⟩
      · exact List.cons_subset.mpr
          ⟨others.grown (first.entered rfl List.mem_cons_self), others.entered none⟩
      · by_cases early : other ∈ middle
        · obtain ⟨nothing, on⟩ := first.closed rfl other early new
          exact ⟨nothing, fun _ h => others.grown (on h)⟩
        · exact others.closed none other here early
    · -- The first file has a symbol, which ends the search.
      refine ⟨first.grown, fun symbol' found => ?_, nofun, nofun⟩
      obtain ⟨other, h, offers⟩ := first.sound symbol' found
      exact ⟨file, List.mem_cons_self, List.mem_singleton.mp h ▸ offers⟩

/-- A search to a depth of more units than there are left misses nothing. -/
theorem searched_searchExport (deep : program.unvisited visited < depth) :
    program.Searched name [file] visited ((program.searchExport name depth file).run visited).1
      ((program.searchExport name depth file).run visited).2 := by
  induction depth generalizing visited file with
  | zero => exact absurd deep (Nat.not_lt_zero _)
  | succ depth ih =>
    rw [run_searchExport]
    by_cases seen : file ∈ visited
    · rw [if_pos (by simpa using seen)]
      exact ⟨fun _ => id, nofun, fun _ => List.cons_subset.mpr ⟨seen, List.nil_subset _⟩,
        fun _ other here new => absurd here new⟩
    · rw [if_neg (by simpa using seen)]
      cases direct : program.directSymbol? name file with
      | some symbol =>
        refine ⟨List.subset_cons_self _ _, fun other found => ?_, nofun, nofun⟩
        cases found
        exact ⟨file, List.mem_cons_self, .direct direct⟩
      | none =>
        -- One more unit is visited, so the bound suffices for those that are passed the name.
        have inner := @searched_firstFound program name (file :: visited)
          (program.searchExport name depth) (program.forwards name file)
          fun target on middle grown => by
            refine ih ?_
            have less := unvisited_cons_lt (lt_size_of_mem_forwards on) seen
            have fewer := @unvisited_mono program _ _ grown
            omega
        have entered := inner.grown List.mem_cons_self
        refine ⟨fun _ h => inner.grown (List.mem_cons_of_mem _ h), fun symbol found => ?_,
          fun _ => List.cons_subset.mpr ⟨entered, List.nil_subset _⟩, fun none other here new => ?_⟩
        · obtain ⟨target, on, offers⟩ := inner.sound symbol found
          exact ⟨file, List.mem_cons_self, .forwarded on offers⟩
        · -- The unit itself offers nothing directly, and those behind it were visited.
          by_cases same : other = file
          · subst same
            exact ⟨direct, inner.entered none⟩
          · exact inner.closed none other here (by simp [same, new])

/-! ## Exports -/

theorem unvisited_nil : program.unvisited [] = program.units.size := by
  simp [unvisited]

theorem searched_exportSymbol? :
    ∃ after, program.Searched name [file] [] (program.exportSymbol? file name) after :=
  ⟨_, searched_searchExport (by rw [unvisited_nil]; exact Nat.lt_succ_self _)⟩

/-- What a search finds is offered. -/
theorem offers_of_exportSymbol? {symbol : Symbol}
    (h : program.exportSymbol? file name = some symbol) : program.Offers name file symbol := by
  obtain ⟨after, searched⟩ := @searched_exportSymbol? program name file
  obtain ⟨other, here, offers⟩ := searched.sound symbol h
  exact List.mem_singleton.mp here ▸ offers

/-- Units that offer nothing themselves and pass a search on only to one another offer nothing. -/
theorem not_offers_of_closed {files : List Nat}
    (closed : ∀ file ∈ files,
      program.directSymbol? name file = none ∧ program.forwards name file ⊆ files)
    (here : file ∈ files) {symbol : Symbol} : ¬ program.Offers name file symbol := by
  intro offers
  induction offers with
  | direct direct =>
    rw [(closed _ here).1] at direct
    cases direct
  | forwarded on _ ih => exact ih ((closed _ here).2 on)

/-- A search fails only where nothing is offered. -/
theorem exportSymbol?_eq_none_iff :
    program.exportSymbol? file name = none ↔ ∀ symbol, ¬ program.Offers name file symbol := by
  obtain ⟨after, searched⟩ := @searched_exportSymbol? program name file
  constructor
  · intro none symbol offers
    exact not_offers_of_closed (fun other visited => searched.closed none other visited nofun)
      (searched.entered none List.mem_cons_self) offers
  · intro nothing
    cases found : program.exportSymbol? file name with
    | none => rfl
    | some symbol => exact absurd (offers_of_exportSymbol? found) (nothing symbol)

theorem exists_exportSymbol?_iff :
    (∃ symbol, program.exportSymbol? file name = some symbol) ↔
      ∃ symbol, program.Offers name file symbol := by
  rw [← Option.isSome_iff_exists, Option.isSome_iff_ne_none, ne_eq, exportSymbol?_eq_none_iff,
    not_forall_not]

end Phrasebook.Program
