import Phrasebook.Proofs.Loading
import Phrasebook.Proofs.OrderedMap

/-!
# Import closures

A loaded program holds its roots and everything that they import, each file once, and its units know
which units their specifiers stand for.

- `Program.paths`: the files of a program, read or not;
- `Searching.mem_paths_iff`, `Searching.nodup_paths`: what a finished search has found;
- `imports_linkUnit`: where specifiers lead once the units are linked;
- `IsImportClosure`: what holds of a program with all imports of its roots;
- `load_closure`: it holds of the loaded program, and more rounds load the same program.
-/

namespace Phrasebook.Program

open Source

variable {tree : FileTree} {root path : Path} {roots known : List Path} {isRoot : Bool}
variable {program : Program}

/-! ## Files -/

/-- The files of a program: its units, and those that could not be read. -/
def paths (program : Program) : List Path :=
  program.units.toList.map SourceUnit.path ++ program.faults.map fun fault => fault.2.path

section

variable (searching : Searching tree root roots isRoot known [] known program)
include searching

theorem Searching.map_path_units :
    program.units.toList.map SourceUnit.path = known.filter (parses tree) := by
  have made := searching.units
  generalize known.filter (parses tree) = read at made
  generalize program.units.toList = units at made
  induction made with
  | nil => rfl
  | cons made _ ih => rw [List.map_cons, ih, made.path_eq]

theorem Searching.map_path_faults :
    (program.faults.map fun fault => fault.2.path) =
      known.filter fun path => !parses tree path := by
  rw [searching.faults, List.map_filterMap, ← List.filterMap_eq_filter]
  refine List.filterMap_congr fun path _ => ?_
  unfold fault? parses
  cases read : readScript tree path with
  | ok script => simp [Option.guard, read, Except.toOption]
  | error fault => simp [Option.guard, read, Except.toOption, path_of_readScript read]

theorem Searching.perm_paths : program.paths.Perm known := by
  rw [paths, searching.map_path_units, searching.map_path_faults]
  exact List.filter_append_perm _ _

/-- The known files are those that are needed. -/
theorem Searching.mem_known_iff : path ∈ known ↔ Imported tree roots path := by
  refine ⟨searching.sound path, fun needed => ?_⟩
  induction needed with
  | root h => exact searching.firsts.subset (mem_firstPaths_iff.mpr (List.mem_map_of_mem h))
  | target _ leads ih => exact searching.closed _ ih _ leads

theorem Searching.isUnitOf {unit : SourceUnit} (h : unit ∈ program.units.toList) :
    IsUnitOf tree root (decide (unit.path ∈ firstPaths roots)) unit.path unit := by
  obtain ⟨path, -, made⟩ := (exists_of_forall₂ searching.units).2 unit h
  obtain rfl := made.path_eq
  exact made

/-- The units of the roots come first. -/
theorem Searching.exists_firsts :
    ∃ firsts others, program.units.toList = firsts ++ others ∧
      firsts.map SourceUnit.path = (firstPaths roots).filter (parses tree) ∧
      (∀ unit ∈ firsts, unit.isRoot = true) ∧ ∀ unit ∈ others, unit.isRoot = false := by
  obtain ⟨later, split⟩ := searching.firsts
  have paths := searching.map_path_units
  rw [← split, List.filter_append] at paths
  obtain ⟨firsts, others, units, first, other⟩ := List.map_eq_append_iff.mp paths
  have distinct := searching.distinct
  rw [← split] at distinct
  refine ⟨firsts, others, units, first, fun unit h => ?_, fun unit h => ?_⟩
  · have made := searching.isUnitOf (units ▸ List.mem_append_left _ h)
    have here : unit.path ∈ (firstPaths roots).filter (parses tree) :=
      first ▸ List.mem_map_of_mem h
    rw [made.marked, decide_eq_true (List.mem_filter.mp here).1]
  · have made := searching.isUnitOf (units ▸ List.mem_append_right _ h)
    have here : unit.path ∈ later.filter (parses tree) := other ▸ List.mem_map_of_mem h
    -- No path is read twice, so a later one is not among the roots.
    have apart : unit.path ∉ firstPaths roots := fun first =>
      (List.nodup_append.mp distinct).2.2 _ first _ (List.mem_filter.mp here).1 rfl
    rw [made.marked, decide_eq_false apart]

end

/-! ## Links -/

section Links

variable {units : Array SourceUnit}

@[simp] theorem path_linkUnit (unit : SourceUnit) :
    (linkUnit tree units unit).path = unit.path := rfl

variable (distinct : (units.toList.map SourceUnit.path).Nodup)
variable (normal : Normal (units.toList.map SourceUnit.path))
include distinct normal

/-- Among units with distinct paths in normal form, a path is found at its unit. -/
theorem findIdx?_same_iff {target : Path} {index : Nat}
    (written : ∃ written : Path, target = written.normalize) :
    (units.findIdx? fun other => other.path.same target) = some index ↔
      units[index]?.map SourceUnit.path = some target := by
  have same_iff {place : Nat} (h : place < units.size) :
      units[place].path.same target = true ↔ units[place].path = target :=
    same_iff_eq (normal _ (List.mem_map_of_mem (Array.getElem_mem_toList h))) written
  rw [Array.findIdx?_eq_some_iff_getElem, Option.map_eq_some_iff]
  constructor
  · rintro ⟨inside, same, -⟩
    exact ⟨units[index], Array.getElem?_eq_getElem inside, (same_iff inside).mp same⟩
  · rintro ⟨unit, found, rfl⟩
    obtain ⟨inside, rfl⟩ := Array.getElem?_eq_some_iff.mp found
    refine ⟨inside, (same_iff inside).mpr rfl, fun before earlier same => ?_⟩
    -- An earlier unit with the same path would be at the same place.
    have equal : units[before].path = units[index].path :=
      (same_iff (Nat.lt_trans earlier inside)).mp same
    have places := @List.Nodup.getElem_inj_iff _ _ distinct before
      (by simpa using Nat.lt_trans earlier inside) index (by simpa using inside)
    exact absurd (places.mp (by simpa using equal)) (Nat.ne_of_lt earlier)

/-- A specifier of a unit stands for the unit of the file that it leads to. -/
theorem imports_linkUnit {unit : SourceUnit} {specifier : String} {index : Nat} :
    (linkUnit tree units unit).imports.get? specifier = some index ↔
      specifier ∈ unit.symbols.specifiers ∧ ∃ target,
        Imports.resolve? tree unit.path specifier = some target ∧
          units[index]?.map SourceUnit.path = some target := by
  have mem_pairs {index : Nat} : (specifier, index) ∈ ((targets tree unit).filterMap fun pair =>
      (units.findIdx? fun other => other.path.same pair.2).map fun index => (pair.1, index)) ↔
        specifier ∈ unit.symbols.specifiers ∧ ∃ target,
          Imports.resolve? tree unit.path specifier = some target ∧
            (units.findIdx? fun other => other.path.same target) = some index := by
    simp [targets, and_assoc]
  -- A specifier may be given twice, but it leads to one file only.
  refine (OrderedMap.get?_ofList_eq_some_iff fun index other h h' => ?_).trans ?_
  · obtain ⟨-, target, resolved, found⟩ := mem_pairs.mp h
    obtain ⟨-, target', resolved', found'⟩ := mem_pairs.mp h'
    obtain rfl := Option.some.inj (resolved.symm.trans resolved')
    exact Option.some.inj (found.symm.trans found')
  · refine mem_pairs.trans (and_congr_right fun _ => exists_congr fun target => ?_)
    refine and_congr_right fun resolved => findIdx?_same_iff distinct normal ?_
    obtain ⟨written, -, same⟩ := Imports.exists_of_resolve? resolved
    exact ⟨written, same⟩

end Links

/-! ## Loaded programs -/

/-- A program holds some roots and everything that they import. -/
structure IsImportClosure (tree : FileTree) (root : Path) (roots : List Path)
    (program : Program) : Prop where
  /-- No file is there twice. -/
  distinct : program.paths.Nodup
  /-- The files are the least set with the roots and all that its files refer to. -/
  closure : ∀ path, path ∈ program.paths ↔ Imported tree roots path
  /-- The units are the files that are read, -/
  units : ∀ unit ∈ program.units,
    IsUnitOf tree root.normalize (decide (unit.path ∈ roots.map Path.normalize)) unit.path unit
  /-- and the faults are the files that are not. -/
  faults : ∀ fault ∈ program.faults,
    readScript tree fault.2.path = .error fault.2 ∧ fault.1 = fault.2.path.display root.normalize
  /-- The units of the roots come first, in the order of the roots, and only they are marked. -/
  firsts : ∃ firsts others, program.units.toList = firsts ++ others ∧
    firsts.map SourceUnit.path = (roots.map Path.normalize).eraseDups.filter (parses tree) ∧
    (∀ unit ∈ firsts, unit.isRoot = true) ∧ ∀ unit ∈ others, unit.isRoot = false
  /-- A specifier of a unit stands for the unit of the file that it leads to, -/
  imports : ∀ unit ∈ program.units, ∀ specifier index,
    unit.imports.get? specifier = some index ↔
      specifier ∈ unit.script.specifiers ∧ ∃ target,
        Imports.resolve? tree unit.path specifier = some target ∧
          program.units[index]?.map SourceUnit.path = some target
  /-- which there is where that file is read. -/
  imported : ∀ unit ∈ program.units, ∀ specifier,
    unit.imports.contains specifier = true ↔
      specifier ∈ unit.script.specifiers ∧ ∃ target script,
        Imports.resolve? tree unit.path specifier = some target ∧
          readScript tree target = .ok script

/-- The program with its units linked. -/
def linked (tree : FileTree) (program : Program) : Program :=
  { program with units := program.units.map (linkUnit tree program.units) }

theorem paths_linked (tree : FileTree) (program : Program) :
    (linked tree program).paths = program.paths := by
  simp [paths, linked, Function.comp_def]

section

variable {root : Path}
variable (searching : Searching tree root.normalize roots isRoot known [] known program)
include searching

/-- The units that a finished search has found are linked as their files refer to each other. -/
theorem Searching.imports_linkUnit {unit : SourceUnit} (h : unit ∈ program.units.toList)
    (specifier : String) (index : Nat) :
    (linkUnit tree program.units unit).imports.get? specifier = some index ↔
      specifier ∈ unit.script.specifiers ∧ ∃ target,
        Imports.resolve? tree unit.path specifier = some target ∧
          program.units[index]?.map SourceUnit.path = some target := by
  rw [← (searching.isUnitOf h).refers]
  refine Program.imports_linkUnit ?_ ?_
  · rw [searching.map_path_units]
    exact searching.distinct.filter _
  · rw [searching.map_path_units]
    exact fun path among => searching.normal path (List.mem_filter.mp among).1

/-- A file that a unit refers to has a unit if it is read. -/
theorem Searching.exists_unit_iff {source target : Path} (here : source ∈ known)
    (refers : RefersTo tree source target) :
    (∃ index : Nat, program.units[index]?.map SourceUnit.path = some target) ↔
      ∃ script, readScript tree target = .ok script := by
  have found : (∃ index : Nat, program.units[index]?.map SourceUnit.path = some target) ↔
      target ∈ program.units.toList.map SourceUnit.path := by
    simp [List.mem_iff_getElem?]
  rw [found, searching.map_path_units, List.mem_filter, parses_iff]
  exact and_iff_right (searching.closed source here target refers)

/-- What a finished search has found is an import closure once it is linked. -/
theorem Searching.isImportClosure : IsImportClosure tree root roots (linked tree program) := by
  -- Linking keeps the units in order, and all of their data but the imports.
  have unlinked {unit : SourceUnit} (h : unit ∈ (linked tree program).units) :
      ∃ source ∈ program.units.toList, unit = linkUnit tree program.units source := by
    obtain ⟨source, among, rfl⟩ := Array.mem_map.mp h
    exact ⟨source, Array.mem_toList_iff.mpr among, rfl⟩
  refine ⟨?_, fun path => ?_, fun unit h => ?_, fun fault h => ?_, ?_, fun unit h => ?_,
    fun unit h specifier => ?_⟩
  · rw [paths_linked]
    exact searching.perm_paths.nodup_iff.mpr searching.distinct
  · rw [paths_linked, searching.perm_paths.mem_iff, searching.mem_known_iff]
  · -- Each unit is what its file reads as, and a root if its path is one.
    obtain ⟨source, among, rfl⟩ := unlinked h
    have made := searching.isUnitOf among
    refine ⟨rfl, made.read, made.refers, made.shown, made.marked.trans ?_⟩
    exact decide_eq_decide.mpr mem_firstPaths_iff
  · -- A fault is told of a file that was come to and cannot be read.
    have found : fault ∈ known.filterMap (fault? tree root.normalize) := searching.faults ▸ h
    obtain ⟨path, -, unread⟩ := List.mem_filterMap.mp found
    unfold fault? at unread
    split at unread
    · cases unread
    · next fault read =>
      cases unread
      obtain rfl := path_of_readScript read
      exact ⟨read, rfl⟩
  · -- The roots come first, in their order.
    obtain ⟨firsts, others, units, paths, marked, unmarked⟩ := searching.exists_firsts
    refine ⟨firsts.map (linkUnit tree program.units), others.map (linkUnit tree program.units),
      ?_, ?_, ?_, ?_⟩
    · rw [← List.map_append, ← units]
      exact Array.toList_map
    · rw [List.map_map]
      exact paths
    · exact List.forall_mem_map.mpr marked
    · exact List.forall_mem_map.mpr unmarked
  · intro specifier index
    obtain ⟨source, among, rfl⟩ := unlinked h
    have unchanged : (linked tree program).units[index]?.map SourceUnit.path =
        program.units[index]?.map SourceUnit.path := by
      simp [linked, Function.comp_def]
    rw [unchanged]
    exact searching.imports_linkUnit among specifier index
  · obtain ⟨source, among, rfl⟩ := unlinked h
    have here : source.path ∈ known := by
      have read := List.mem_map_of_mem (f := SourceUnit.path) among
      rw [searching.map_path_units] at read
      exact (List.mem_filter.mp read).1
    -- What an import resolves to was come to, hence it has a unit if it can be read.
    have refers {target : Path} (named : specifier ∈ source.script.specifiers)
        (resolved : Imports.resolve? tree source.path specifier = some target) :
        RefersTo tree source.path target :=
      ⟨_, specifier, (searching.isUnitOf among).read, named, resolved⟩
    rw [OrderedMap.contains, Option.isSome_iff_exists]
    simp only [searching.imports_linkUnit among]
    constructor
    · rintro ⟨index, named, target, resolved, unit⟩
      obtain ⟨script, read⟩ :=
        (searching.exists_unit_iff here (refers named resolved)).mp ⟨index, unit⟩
      exact ⟨named, target, script, resolved, read⟩
    · rintro ⟨named, target, script, resolved, read⟩
      obtain ⟨index, unit⟩ :=
        (searching.exists_unit_iff here (refers named resolved)).mpr ⟨script, read⟩
      exact ⟨index, named, target, resolved, unit⟩

end

/-- The loaded program is the import closure of its roots, and more rounds load nothing else. -/
theorem load_closure (tree : FileTree) (root : Path) (roots : List Path) :
    IsImportClosure tree root roots (load tree root roots) ∧
      ∀ more, loadWithin (roundLimit tree + more) tree root roots = load tree root roots := by
  have start := searching_start tree root.normalize roots
  -- Even if no normal form were known at the start, there would be rounds for all of them.
  have enough : remaining tree (firstPaths roots) < roundLimit tree := by
    have few : remaining tree (firstPaths roots) ≤ tree.spellings.length :=
      List.length_filter_le _ _
    rw [FileTree.length_spellings] at few
    exact Nat.lt_succ_of_le few
  have queued :
      enqueue [] [] (roots.map Path.normalize) = (firstPaths roots, firstPaths roots) := by
    rw [enqueue_eq (List.forall_mem_nil _) (normal_map_normalize roots)]
    simp [newPaths, firstPaths]
  obtain ⟨last, runs, _, known, searching⟩ := start.run (.inr enough)
  have found (more : Nat) :
      loadWithin (roundLimit tree + more) tree root roots = linked tree last := by
    rw [← runs more]
    unfold loadWithin
    rw [queued]
    rfl
  have loaded : load tree root roots = linked tree last := found 0
  refine ⟨loaded ▸ searching.isImportClosure, fun more => ?_⟩
  rw [found more, loaded]

end Phrasebook.Program
