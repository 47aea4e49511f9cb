import Mathlib.Data.List.Dedup
import Mathlib.Data.List.Perm.Subperm
import Mathlib.Logic.Relation
import Phrasebook.Program.Callee
import Phrasebook.Proofs.ExportSearch
import Phrasebook.Proofs.OrderedMap

/-!
# Searches and chases

Modules can export one another again, and names can stand for one another, in circles. A search for
an export enters no unit twice, and a symbol is followed no further than to where it has been
before. Both end therefore, and neither loses anything by it.

- `searchExport_of_deep`, `nodup_searchExport`: a search ends, and enters every unit once;
- `ExportsAll`, `offers_iff`: what a unit offers comes from the units that it exports again;
- `Follows`, `Chase`: steps from symbol to symbol, and the loop that makes them, without a bound;
- `chase_resolveAlias`: how many steps the loop makes at most;
- `resolveAlias_spec`: following a symbol ends where no step is left or a circle closes;
- `searches_and_chases_end`: all of this together.
-/

namespace Phrasebook

/-- Whether a symbol stands for an export of another module. -/
def Symbol.isAlias : Symbol → Bool
  | .alias _ _ _ => true
  | .declaration _ | .module _ => false

namespace Program

open Relation (ReflTransGen TransGen)

variable {program : Program} {name : String} {file depth : Nat} {visited : List Nat}
  {symbol next start last : Symbol} {index : Nat}

/-! ## Searches -/

/-- Searches that agree as long as the visited units grow find the same, one after the other. -/
theorem firstFound_congr {search search' : Nat → StateM (List Nat) (Option Symbol)}
    {files : List Nat}
    (same : ∀ file ∈ files, ∀ middle, visited ⊆ middle →
      (search file).run middle = (search' file).run middle)
    (grown : ∀ file ∈ files, ∀ middle, visited ⊆ middle → middle ⊆ ((search file).run middle).2) :
    (searchExport.firstFound search files).run visited =
      (searchExport.firstFound search' files).run visited := by
  induction files generalizing visited with
  | nil => rfl
  | cons file rest ih =>
    have first := same file List.mem_cons_self visited fun _ => id
    have more := grown file List.mem_cons_self visited fun _ => id
    rw [run_firstFound_cons, run_firstFound_cons, ← first]
    generalize (search file).run visited = result at more ⊢
    obtain ⟨_ | symbol, middle⟩ := result
    · refine ih (fun other h late later => ?_) (fun other h late later => ?_)
      · exact same other (List.mem_cons_of_mem _ h) late fun _ seen => later (more seen)
      · exact grown other (List.mem_cons_of_mem _ h) late fun _ seen => later (more seen)
    · rfl

/-- A search that may go deeper than there are units left does not depend on how deep it may go. -/
theorem searchExport_of_deep {depth' : Nat} (deep : program.unvisited visited < depth)
    (deep' : program.unvisited visited < depth') :
    (program.searchExport name depth file).run visited =
      (program.searchExport name depth' file).run visited := by
  induction depth generalizing depth' visited file with
  | zero => omega
  | succ depth ih =>
    cases depth' with
    | zero => omega
    | succ depth' =>
      rw [run_searchExport, run_searchExport]
      by_cases entered : file ∈ visited
      · have entered : visited.contains file = true := by simpa using entered
        rw [if_pos entered, if_pos entered]
      · have new : ¬ visited.contains file = true := by simpa using entered
        rw [if_neg new, if_neg new]
        cases program.directSymbol? name file with
        | some symbol => rfl
        | none =>
          -- Below this unit there is one unit less to visit.
          have fewer {target : Nat} (on : target ∈ program.forwards name file) {middle : List Nat}
              (later : file :: visited ⊆ middle) :
              program.unvisited middle < program.unvisited visited := by
            have less := unvisited_cons_lt (lt_size_of_mem_forwards on) entered
            have rest := @unvisited_mono program _ _ later
            omega
          refine firstFound_congr (fun target on middle later => ?_)
            fun target on middle later => ?_
          · have left := fewer on later
            exact ih (by omega) (by omega)
          · have left := fewer on later
            exact (searched_searchExport (by omega)).grown

/-- A search enters no unit that was entered before. -/
theorem nodup_searchExport (distinct : visited.Nodup) :
    ((program.searchExport name depth file).run visited).2.Nodup := by
  induction depth generalizing visited file with
  | zero => exact distinct
  | succ depth ih =>
    -- Searches one after the other: each is handed what those before it have entered.
    have rest (files : List Nat) {visited : List Nat} (distinct : visited.Nodup) :
        ((searchExport.firstFound (program.searchExport name depth) files).run visited).2.Nodup :=
        by
      induction files generalizing visited with
      | nil => exact distinct
      | cons file rest on =>
        have first := @ih file visited distinct
        rw [run_firstFound_cons]
        generalize (program.searchExport name depth file).run visited = result at first ⊢
        obtain ⟨_ | symbol, middle⟩ := result
        · exact on first
        · exact first
    rw [run_searchExport]
    by_cases entered : file ∈ visited
    · have entered : visited.contains file = true := by simpa using entered
      rw [if_pos entered]
      exact distinct
    · -- The unit is new and comes in front of all that were entered.
      have new : ¬ visited.contains file = true := by simpa using entered
      have more : (file :: visited).Nodup := List.nodup_cons.mpr ⟨entered, distinct⟩
      rw [if_neg new]
      cases program.directSymbol? name file with
      | some symbol => exact more
      | none => exact rest _ more

/-- A unit that does not export a name itself exports all of another unit again. -/
def ExportsAll (program : Program) (name : String) (file target : Nat) : Prop :=
  ∃ unit specifier, program.units[file]? = some unit ∧ unit.symbols.exports.get? name = none ∧
    specifier ∈ unit.symbols.starExports ∧ program.importedUnit? file specifier = some target

theorem mem_forwards_iff {target : Nat} :
    target ∈ program.forwards name file ↔
      name ≠ "default" ∧ program.ExportsAll name file target := by
  unfold forwards ExportsAll
  constructor
  · intro h
    split at h
    · cases h
    · rename_i unit here
      split at h
      · cases h
      · rename_i none
        split at h
        · cases h
        · rename_i plain
          obtain ⟨specifier, star, link⟩ := List.mem_filterMap.mp h
          exact ⟨plain, unit, specifier, here, none, star, link⟩
  · rintro ⟨plain, unit, specifier, here, none, star, link⟩
    simp only [here, none, if_neg plain]
    exact List.mem_filterMap.mpr ⟨specifier, star, link⟩

/-- What a unit offers is what is exported by one of the units that it leads to. -/
theorem offers_iff (plain : name ≠ "default") :
    program.Offers name file symbol ↔
      ∃ target, ReflTransGen (program.ExportsAll name) file target ∧
        program.directSymbol? name target = some symbol := by
  constructor
  · intro offers
    induction offers with
    | @direct file symbol direct => exact ⟨file, .refl, direct⟩
    | forwarded on _ ih =>
      obtain ⟨target, leads, direct⟩ := ih
      exact ⟨target, .head (mem_forwards_iff.mp on).2 leads, direct⟩
  · rintro ⟨target, leads, direct⟩
    induction leads using ReflTransGen.head_induction_on with
    | refl => exact .direct direct
    | head step _ ih => exact .forwarded (mem_forwards_iff.mpr ⟨plain, step⟩) ih

/-! ## Steps from symbol to symbol -/

/-- One step from a symbol to what it stands for. -/
def Follows (program : Program) (symbol next : Symbol) : Prop := program.step? symbol = some next

theorem follows_unique : Relator.RightUnique program.Follows := fun _ _ _ first second =>
  Option.some.inj (first.symm.trans second)

theorem not_follows_declaration : ¬ program.Follows (.declaration index) next := nofun

theorem eq_of_declaration (h : ReflTransGen program.Follows (.declaration index) symbol) :
    symbol = .declaration index := by
  rcases h.cases_head with same | ⟨_, step, -⟩
  · exact same.symm
  · exact absurd step not_follows_declaration

/-- What lies behind a circle lies on it. -/
theorem circle_of_follows (circle : TransGen program.Follows symbol symbol)
    (h : ReflTransGen program.Follows symbol next) : TransGen program.Follows next next := by
  induction h with
  | refl => exact circle
  | tail _ step around =>
    obtain ⟨second, first, back⟩ := TransGen.head'_iff.mp around
    obtain rfl := follows_unique first step
    exact .tail' back step

/-! ## The aliases of a program -/

/-- What the top-level names and the exported names of a unit stand for. -/
def symbolsOf (program : Program) (unit : SourceUnit) (file : Nat) : List Symbol :=
  unit.symbols.locals.keys.filterMap (program.localSymbol? file) ++
    unit.symbols.exports.entries.filterMap fun (_, target) => program.targetSymbol? file target

/-- The aliases that the names of a program stand for, each once. -/
def aliases (program : Program) : List Symbol :=
  ((program.units.toList.zipIdx.flatMap fun (unit, file) => program.symbolsOf unit file).filter
    Symbol.isAlias).dedup

/-- There are no more aliases than names. -/
theorem length_aliases_le : program.aliases.length ≤ program.nameCount := by
  -- The units that follow add their names to those before.
  have grown (units : List SourceUnit) (file total : Nat) :
      ((units.zipIdx file).flatMap fun (unit, file) => program.symbolsOf unit file).length + total ≤
        units.foldl (fun total unit =>
          total + unit.symbols.locals.size + unit.symbols.exports.size) total := by
    induction units generalizing file total with
    | nil => exact Nat.le_of_eq (Nat.zero_add total)
    | cons unit rest ih =>
      have own : (program.symbolsOf unit file).length ≤
          unit.symbols.locals.size + unit.symbols.exports.size := by
        have bound : (unit.symbols.locals.keys.filterMap (program.localSymbol? file)).length ≤
            unit.symbols.locals.keys.length := List.length_filterMap_le _ _
        have exported : (unit.symbols.exports.entries.filterMap fun (_, target) =>
            program.targetSymbol? file target).length ≤ unit.symbols.exports.size :=
          List.length_filterMap_le _ _
        rw [OrderedMap.keys, List.length_map] at bound
        rw [symbolsOf, List.length_append, OrderedMap.keys]
        exact Nat.add_le_add bound exported
      have others := ih (file + 1) (total + unit.symbols.locals.size + unit.symbols.exports.size)
      rw [List.zipIdx_cons, List.flatMap_cons, List.length_append, List.foldl_cons]
      dsimp only at own others ⊢
      omega
  calc program.aliases.length
      ≤ (program.units.toList.zipIdx.flatMap fun (unit, file) =>
          program.symbolsOf unit file).length :=
        ((List.dedup_sublist _).trans List.filter_sublist).length_le
    _ ≤ program.nameCount := grown program.units.toList 0 0

/-- What is offered is an alias of the program, or no alias at all. -/
theorem mem_aliases_of_offers (offers : program.Offers name file symbol)
    (leads : symbol.isAlias = true) : symbol ∈ program.aliases := by
  induction offers with
  | forwarded _ _ ih => exact ih leads
  | @direct file symbol direct =>
    unfold directSymbol? at direct
    obtain ⟨unit, here, direct⟩ := Option.bind_eq_some_iff.mp direct
    obtain ⟨target, exported, direct⟩ := Option.bind_eq_some_iff.mp direct
    have listed : symbol ∈ program.symbolsOf unit file :=
      List.mem_append_right _ (List.mem_filterMap.mpr
        ⟨(name, target), OrderedMap.mem_entries_iff.mpr exported, direct⟩)
    have numbered : (unit, file) ∈ program.units.toList.zipIdx := by
      rw [List.mk_mem_zipIdx_iff_getElem?, Array.getElem?_toList]
      exact here
    exact List.mem_dedup.mpr (List.mem_filter.mpr
      ⟨List.mem_flatMap.mpr ⟨(unit, file), numbered, listed⟩, leads⟩)

/-- A step from a symbol leads to an alias of the program, or to where no step leads on. -/
theorem mem_aliases_of_follows (h : program.Follows symbol next) :
    next ∈ program.aliases ∨ program.step? next = none := by
  by_cases leads : next.isAlias = true
  · obtain index | ⟨file, specifier, imported⟩ | file := symbol
    · cases h
    · unfold Follows step? at h
      dsimp only at h
      split at h
      · cases h
      · split at h
        · cases h
          cases leads
        · exact .inl (mem_aliases_of_offers (offers_of_exportSymbol? h) leads)
    · cases h
  · right
    obtain index | ⟨file, specifier, imported⟩ | file := next
    · rfl
    · exact absurd rfl leads
    · rfl

/-! ## The loop that follows a symbol -/

/-- Following a symbol when some symbols were seen already, without a bound: the symbols that the
hops lead to, and the last one. The loop ends at a symbol that was seen or that leads nowhere. -/
inductive Chase (program : Program) : List Symbol → Symbol → List Symbol → Symbol → Prop where
  | again {seen : List Symbol} {symbol : Symbol} (known : symbol ∈ seen) :
    Chase program seen symbol [] symbol
  | stuck {seen : List Symbol} {symbol : Symbol} (new : symbol ∉ seen)
    (nowhere : program.step? symbol = none) : Chase program seen symbol [] symbol
  | hop {seen hops : List Symbol} {symbol next last : Symbol} (new : symbol ∉ seen)
    (step : program.Follows symbol next) (on : Chase program (symbol :: seen) next hops last) :
    Chase program seen symbol (next :: hops) last

namespace Chase

variable {seen hops : List Symbol}

theorem reached (chase : program.Chase seen symbol hops last) :
    ReflTransGen program.Follows symbol last := by
  induction chase with
  | again | stuck => exact .refl
  | hop _ step _ ih => exact .head step ih

/-- If steps lead from all that was seen to the symbol, the loop ends in a circle or nowhere. -/
theorem ends (chase : program.Chase seen symbol hops last)
    (behind : ∀ other ∈ seen, TransGen program.Follows other symbol) :
    program.step? last = none ∨ TransGen program.Follows last last := by
  induction chase with
  | again known => exact .inr (behind _ known)
  | stuck _ nowhere => exact .inl nowhere
  | hop _ step _ ih =>
    refine ih fun other among => ?_
    rcases List.mem_cons.mp among with rfl | before
    · exact .single step
    · exact (behind other before).tail step

end Chase

/-- The loop makes at most one hop for each alias of the program, and one more. The symbols that
were seen count among them. -/
theorem chase_follow {steps : Nat} {seen : List Symbol} (distinct : seen.Nodup)
    (known : seen ⊆ start :: program.aliases)
    (here : symbol ∈ start :: program.aliases ∨ program.step? symbol = none)
    (enough : program.aliases.length + 1 < steps + seen.length) :
    ∃ hops, program.Chase seen symbol hops (program.follow steps seen symbol) ∧
      hops.length + seen.length ≤ program.aliases.length + 1 := by
  -- The symbols that were seen are distinct aliases, the start apart.
  have few : seen.length ≤ program.aliases.length + 1 := by
    have few := (List.Nodup.subperm distinct known).length_le
    rwa [List.length_cons] at few
  induction steps generalizing seen symbol with
  | zero => omega
  | succ steps ih =>
    unfold follow
    by_cases again : symbol ∈ seen
    · -- The symbol was seen: the chase has come to a circle.
      rw [if_pos (by simpa using again)]
      exact ⟨[], .again again, by simpa using few⟩
    · rw [if_neg (by simpa using again)]
      cases step : program.step? symbol with
      | none => exact ⟨[], .stuck again step, by simpa using few⟩
      | some next =>
        -- A hop leaves one step less and one more symbol that was seen.
        have listed : symbol ∈ start :: program.aliases :=
          here.resolve_right (by rw [step]; exact nofun)
        have more : (symbol :: seen).Nodup := List.nodup_cons.mpr ⟨again, distinct⟩
        have inside : symbol :: seen ⊆ start :: program.aliases :=
          List.cons_subset.mpr ⟨listed, known⟩
        have few := (List.Nodup.subperm more inside).length_le
        obtain ⟨hops, chase, bound⟩ := ih more inside
          ((mem_aliases_of_follows step).imp_left (List.mem_cons_of_mem _))
          (by rw [List.length_cons]; omega) (by rwa [List.length_cons] at few)
        refine ⟨next :: hops, .hop again step chase, ?_⟩
        rw [List.length_cons] at bound ⊢
        omega

/-- The bound on the steps is never reached. -/
theorem chase_resolveAlias (program : Program) (symbol : Symbol) :
    ∃ hops, program.Chase [] symbol hops (program.resolveAlias symbol) ∧
      hops.length ≤ program.aliases.length + 1 := by
  have few := @length_aliases_le program
  obtain ⟨hops, chase, bound⟩ := @chase_follow program symbol symbol (program.nameCount + 2) []
    List.nodup_nil (List.nil_subset _) (.inl List.mem_cons_self)
    (by rw [List.length_nil]; omega)
  exact ⟨hops, chase, bound⟩

/-- A symbol is followed to where no step leads on, or around a circle. -/
theorem resolveAlias_spec (program : Program) (symbol : Symbol) :
    ReflTransGen program.Follows symbol (program.resolveAlias symbol) ∧
      (program.step? (program.resolveAlias symbol) = none ∨
        TransGen program.Follows (program.resolveAlias symbol) (program.resolveAlias symbol)) := by
  obtain ⟨hops, chase, -⟩ := program.chase_resolveAlias symbol
  exact ⟨chase.reached, chase.ends nofun⟩

/-- A declaration that steps lead to is found. -/
theorem resolveAlias_eq_declaration_iff :
    program.resolveAlias symbol = .declaration index ↔
      ReflTransGen program.Follows symbol (.declaration index) := by
  obtain ⟨reached, stops⟩ := program.resolveAlias_spec symbol
  constructor
  · intro same
    exact same ▸ reached
  · intro leads
    rcases ReflTransGen.total_of_right_unique follows_unique reached leads with on | back
    · rcases stops with last | circle
      · rcases on.cases_head with same | ⟨_, step, -⟩
        · exact same
        · rw [Follows, last] at step
          cases step
      · obtain ⟨_, step, -⟩ := TransGen.head'_iff.mp (circle_of_follows circle on)
        exact absurd step not_follows_declaration
    · exact eq_of_declaration back

/-! ## Both together -/

/-- A search for an export other than `default` does not depend on how deep it may go beyond the
number of units, enters no unit twice, and finds what a unit exports that it leads to, if there is
any. A symbol is followed by at most one hop for each alias of the program and one more, to where no
step leads on or to a circle of aliases; a declaration that steps lead to is never missed. -/
theorem searches_and_chases_end (program : Program) {name : String} (plain : name ≠ "default")
    (file : Nat) (symbol : Symbol) :
    (∃ entered : List Nat, entered.Nodup ∧ ∀ depth, program.units.size < depth →
      (program.searchExport name depth file).run [] = (program.exportSymbol? file name, entered)) ∧
    (program.exportSymbol? file name = none ↔
      ∀ target, ReflTransGen (program.ExportsAll name) file target →
        program.directSymbol? name target = none) ∧
    (∀ found, program.exportSymbol? file name = some found →
      ∃ target, ReflTransGen (program.ExportsAll name) file target ∧
        program.directSymbol? name target = some found) ∧
    (∃ hops, program.Chase [] symbol hops (program.resolveAlias symbol) ∧
      hops.length ≤ program.aliases.length + 1) ∧
    ReflTransGen program.Follows symbol (program.resolveAlias symbol) ∧
    ((program.resolveAlias symbol).isAlias = true →
      program.step? (program.resolveAlias symbol) = none ∨
        TransGen program.Follows (program.resolveAlias symbol) (program.resolveAlias symbol)) ∧
    ∀ index, program.resolveAlias symbol = .declaration index ↔
      ReflTransGen program.Follows symbol (.declaration index) := by
  obtain ⟨reached, stops⟩ := program.resolveAlias_spec symbol
  refine ⟨?_, ?_, fun found same => (offers_iff plain).mp (offers_of_exportSymbol? same),
    program.chase_resolveAlias symbol, reached, fun _ => stops,
    fun index => resolveAlias_eq_declaration_iff⟩
  · -- Every unit is still to be visited, and any bound above their number gives one result.
    have left : program.unvisited [] = program.units.size := unvisited_nil
    refine ⟨((program.searchExport name (program.units.size + 1) file).run []).2,
      nodup_searchExport List.nodup_nil, fun depth deep => ?_⟩
    exact searchExport_of_deep (by omega) (by omega)
  · rw [exportSymbol?_eq_none_iff]
    constructor
    · intro nothing target leads
      rw [Option.eq_none_iff_forall_ne_some]
      exact fun symbol direct => nothing symbol ((offers_iff plain).mpr ⟨target, leads, direct⟩)
    · intro nothing symbol offers
      obtain ⟨target, leads, direct⟩ := (offers_iff plain).mp offers
      rw [nothing target leads] at direct
      cases direct

/-- A unit with some names. -/
def unitOf (symbols : ModuleSymbols) (imports : List (String × Nat)) : SourceUnit :=
  { (default : SourceUnit) with symbols, imports := .ofList imports }

/-- An app imports a name from a barrel. One of the modules that this exports again exports the
barrel again as a whole, and the other takes the name from a module that takes it from there. -/
def circles : Program where
  units := #[
    unitOf { ModuleSymbols.empty with locals := .ofList [("x", .imported "./barrel" "x")] }
      [("./barrel", 1)],
    unitOf { ModuleSymbols.empty with starExports := ["./back", "./there"] }
      [("./back", 2), ("./there", 3)],
    unitOf { ModuleSymbols.empty with starExports := ["./barrel"] } [("./barrel", 1)],
    unitOf { ModuleSymbols.empty with exports := .ofList [("x", .reexport "./here" "x")] }
      [("./here", 4)],
    unitOf { ModuleSymbols.empty with exports := .ofList [("x", .reexport "./there" "x")] }
      [("./there", 3)]]
  declarations := #[]
  faults := []

theorem circles_chased :
    "x" ≠ "default" ∧ circles.aliases.length = 3 ∧
      (∃ target, ReflTransGen (circles.ExportsAll "x") 1 target ∧
        circles.directSymbol? "x" target = some (.alias 3 "./here" "x")) ∧
      TransGen circles.Follows (.alias 3 "./here" "x") (.alias 3 "./here" "x") ∧
      ∃ hops, circles.Chase [] (.alias 0 "./barrel" "x") hops (.alias 3 "./here" "x") ∧
        hops.length ≤ 4 := by
  have three : circles.aliases.length = 3 := by decide +kernel
  have result : circles.resolveAlias (.alias 0 "./barrel" "x") = .alias 3 "./here" "x" := by
    decide +kernel
  obtain ⟨-, -, found, hops, -, stops, -⟩ :=
    searches_and_chases_end circles (by decide : "x" ≠ "default") 1 (.alias 0 "./barrel" "x")
  rw [result] at hops stops
  refine ⟨by decide, three, found _ (by decide +kernel), ?_, three ▸ hops⟩
  exact (stops rfl).resolve_left (by decide +kernel)

end Program

end Phrasebook
