import Phrasebook.Proofs.Spellings
import Phrasebook.Proofs.LookupCalls

/-!
# Loading files

A program is loaded round by round: every round reads the files that wait, and then those wait that
the files of the round refer to and that were not known before.

- `ModuleSymbols.specifiers_collect`: the modules that a file refers to;
- `foldl_addFile_spec`: files that are read become units, others become faults;
- `enqueue_eq`: paths in normal form wait once;
- `RefersTo`, `Imported`: what a file refers to, and what some roots need;
- `Searching`: what holds between rounds (`Searching.round`);
- `Searching.run`: each round but the last one finds a normal form of a file, so the rounds end.
-/

namespace Phrasebook

open Source

/-! ## Specifiers -/

/-- The module that an item refers to, if it is named by a text. -/
def Source.Item.specifier? : Item → Option String
  | .importing specifier _ _ => specifier.text?
  | .exportList _ specifier _ => specifier.bind Literal.text?
  | .exportAll specifier _ => specifier.text?
  | _ => none

/-- The modules that a script refers to, item by item. -/
def Source.Script.specifiers (script : Script) : List String :=
  script.items.filterMap Item.specifier?

namespace Program.ModuleSymbols

namespace Collection

variable {collection : Collection} {file : Nat}

/-- The modules that a collection refers to. -/
def specifiers (collection : Collection) : List String := collection.symbols.specifiers

@[simp] theorem specifiers_declare (name : String) (kind : DeclarationKind) (comment : String)
    (owner : Option Nat) :
    (collection.declare file name kind comment owner).specifiers = collection.specifiers := rfl

@[simp] theorem specifiers_bind (name : String) (index : Nat) (exported : Bool) :
    (collection.bind name index exported).specifiers = collection.specifiers := by
  unfold bind
  dsimp only
  split <;> split <;> rfl

@[simp] theorem specifiers_exportDefault (target : ExportTarget) :
    (collection.exportDefault target).specifiers = collection.specifiers := rfl

theorem specifiers_foldl {α : Type} {step : Collection → α → Collection}
    (h : ∀ collection item, (step collection item).specifiers = collection.specifiers)
    (items : List α) (collection : Collection) :
    (items.foldl step collection).specifiers = collection.specifiers := by
  induction items generalizing collection with
  | nil => rfl
  | cons item rest ih => rw [List.foldl_cons, ih, h]

@[simp] theorem specifiers_addClass (name comment : String) (body : Node) :
    (collection.addClass file name comment body).specifiers = collection.specifiers := by
  unfold addClass
  dsimp only
  split
  · refine (specifiers_foldl (fun collection node => ?_) _ _).trans (specifiers_declare ..)
    unfold addMember
    split <;> rfl
  · rfl

@[simp] theorem specifiers_addDeclaration (before : List String) (exported : Bool) (node : Node) :
    (collection.addDeclaration file before exported node).specifiers = collection.specifiers := by
  unfold addDeclaration
  dsimp only
  split
  · simp
  · simp
  · refine specifiers_foldl (fun collection node => ?_) _ _
    unfold addVariable
    split
    · split
      · simp
      · rfl
    · rfl
  · rfl

@[simp] theorem specifiers_addDefault (before : String) (node : Node) :
    (collection.addDefault file before node).specifiers = collection.specifiers := by
  unfold addDefault
  dsimp only
  split
  · split <;> simp
  · split <;> simp
  · rfl

@[simp] theorem specifiers_addImports (specifier : String) (bindings : List ImportBinding) :
    (bindings.foldl (addImport specifier) collection).specifiers = collection.specifiers :=
  @specifiers_foldl _ (addImport specifier) (fun _ _ => rfl) bindings collection

@[simp] theorem specifiers_addExports (source : Option String) (bindings : List ExportBinding) :
    (bindings.foldl (addExport source) collection).specifiers = collection.specifiers :=
  @specifiers_foldl _ (addExport source) (fun _ _ => rfl) bindings collection

theorem specifiers_refer (specifier : String) :
    (collection.refer specifier).specifiers = collection.specifiers ++ [specifier] := rfl

/-- An item adds the module that it refers to. -/
theorem specifiers_addItem (item : Item) :
    (collection.addItem file item).specifiers =
      collection.specifiers ++ item.specifier?.toList := by
  cases item with
  | statement node => simp [addItem, Item.specifier?]
  | exporting comment node => simp [addItem, Item.specifier?]
  | exportDefault comment node => simp [addItem, Item.specifier?]
  | exportValue value => cases value <;> simp [addItem, Item.specifier?]
  | importing specifier bindings attributes =>
    cases named : specifier.text? <;> simp [addItem, Item.specifier?, named, specifiers_refer]
  | exportList bindings specifier attributes =>
    cases named : specifier.bind Literal.text? <;>
      simp [addItem, Item.specifier?, named, specifiers_refer]
  | exportAll specifier attributes =>
    cases named : specifier.text? with
    | none => simp [addItem, Item.specifier?, named]
    | some text =>
      simp only [addItem, Item.specifier?, named]
      exact specifiers_refer text

end Collection

/-- A module refers to what its items refer to, in their order. -/
theorem specifiers_collect (file : Nat) (items : List Item) (declarations : Array Declaration) :
    (collect file items declarations).symbols.specifiers = items.filterMap Item.specifier? := by
  have gathered (collection : Collection) :
      (items.foldl (Collection.addItem file) collection).specifiers =
        collection.specifiers ++ items.filterMap Item.specifier? := by
    induction items generalizing collection with
    | nil => exact (List.append_nil _).symm
    | cons item rest ih =>
      rw [List.foldl_cons, ih, Collection.specifiers_addItem, List.append_assoc,
        List.filterMap_cons]
      cases item.specifier? <;> rfl
  exact gathered _

end Program.ModuleSymbols

namespace Program

/-! ## Reading files -/

/-- The file that is not part of a program. -/
def LoadFault.path : LoadFault → Path
  | .unreadable path _ => path
  | .notUnderstood path => path

variable {tree : FileTree} {root path : Path}

theorem path_of_readScript {fault : LoadFault} (h : readScript tree path = .error fault) :
    fault.path = path := by
  unfold readScript at h
  split at h
  · cases h
    rfl
  · split at h
    · cases h
      rfl
    · cases h

/-- Whether a file is read as a script. -/
def parses (tree : FileTree) (path : Path) : Bool := (readScript tree path).toOption.isSome

theorem parses_iff : parses tree path = true ↔ ∃ script, readScript tree path = .ok script := by
  unfold parses
  cases readScript tree path <;> simp [Except.toOption]

/-- The fault of a file that is not read as a script, with the file as it is shown. -/
def fault? (tree : FileTree) (root path : Path) : Option (String × LoadFault) :=
  match readScript tree path with
  | .ok _ => none
  | .error fault => some (path.display root, fault)

/-- A unit that is made of a file. -/
structure IsUnitOf (tree : FileTree) (root : Path) (isRoot : Bool) (path : Path)
    (unit : SourceUnit) : Prop where
  path_eq : unit.path = path
  read : readScript tree path = .ok unit.script
  refers : unit.symbols.specifiers = unit.script.specifiers
  shown : unit.display = path.display root
  marked : unit.isRoot = isRoot

/-- A file is added to the units, or to the faults. -/
theorem addFile_spec (tree : FileTree) (root : Path) (isRoot : Bool) (program : Program)
    (path : Path) :
    ∃ added, (addFile tree root isRoot program path).units.toList = program.units.toList ++ added ∧
      ([path].filter (parses tree)).Forall₂ (IsUnitOf tree root isRoot) added ∧
      (addFile tree root isRoot program path).faults =
        program.faults ++ (fault? tree root path).toList := by
  cases read : readScript tree path with
  | error fault =>
    refine ⟨[], ?_, ?_, ?_⟩
    · simp [addFile, read]
    · simp [parses, read, Except.toOption]
    · simp [addFile, fault?, read]
  | ok script =>
    let collection := ModuleSymbols.collect program.units.size script.items program.declarations
    let unit : SourceUnit := {
      path, script, isRoot
      display := path.display root
      symbols := collection.symbols
      imports := .empty
      shadowed := shadowedCallees script.nodes }
    have made : IsUnitOf tree root isRoot path unit :=
      ⟨rfl, read, ModuleSymbols.specifiers_collect _ _ _, rfl, rfl⟩
    refine ⟨[unit], ?_, ?_, ?_⟩
    · simp only [addFile, read, Array.toList_push]
      rfl
    · rw [List.filter_cons_of_pos (parses_iff.mpr ⟨script, read⟩)]
      exact .cons made .nil
    · simp [addFile, fault?, read]

/-- So are many files. -/
theorem foldl_addFile_spec (tree : FileTree) (root : Path) (isRoot : Bool) (paths : List Path)
    (program : Program) :
    ∃ added, (paths.foldl (addFile tree root isRoot) program).units.toList =
        program.units.toList ++ added ∧
      (paths.filter (parses tree)).Forall₂ (IsUnitOf tree root isRoot) added ∧
      (paths.foldl (addFile tree root isRoot) program).faults =
        program.faults ++ paths.filterMap (fault? tree root) := by
  induction paths generalizing program with
  | nil => exact ⟨[], (List.append_nil _).symm, .nil, (List.append_nil _).symm⟩
  | cons path rest ih =>
    obtain ⟨first, units, made, faults⟩ := addFile_spec tree root isRoot program path
    obtain ⟨later, units', made', faults'⟩ := ih (addFile tree root isRoot program path)
    refine ⟨first ++ later, ?_, ?_, ?_⟩
    · rw [List.foldl_cons, units', units, List.append_assoc]
    · rw [← List.singleton_append, List.filter_append]
      exact List.rel_append made made'
    · rw [List.foldl_cons, faults', faults, List.append_assoc, List.filterMap_cons]
      cases fault? tree root path <;> rfl

/-! ## Queues -/

/-- Paths in normal form. -/
def Normal (paths : List Path) : Prop := ∀ path ∈ paths, ∃ written : Path, path = written.normalize

theorem same_iff_eq {other : Path} (normal : ∃ written : Path, path = written.normalize)
    (normal' : ∃ written : Path, other = written.normalize) :
    path.same other = true ↔ path = other := by
  obtain ⟨written, rfl⟩ := normal
  obtain ⟨written', rfl⟩ := normal'
  exact Path.same_normalize_iff

theorem any_same_iff {known : List Path} (normal : Normal known)
    (written : ∃ written : Path, path = written.normalize) :
    known.any path.same = true ↔ path ∈ known := by
  rw [List.any_eq_true]
  constructor
  · rintro ⟨other, among, same⟩
    exact (same_iff_eq written (normal other among)).mp same ▸ among
  · exact fun among => ⟨path, among, (same_iff_eq written written).mpr rfl⟩

/-- The paths of a queue that are new, where each comes first. -/
def newPaths (known paths : List Path) : List Path :=
  (paths.filter fun path => path ∉ known).eraseDups

/-- Paths in normal form are put in a queue once. -/
theorem enqueue_eq {known waiting paths : List Path} (normal : Normal known)
    (normal' : Normal paths) :
    enqueue known waiting paths =
      (known ++ newPaths known paths, waiting ++ newPaths known paths) := by
  induction paths generalizing known waiting with
  | nil => simp [enqueue, newPaths]
  | cons path rest ih =>
    obtain ⟨written, normal'⟩ := List.forall_mem_cons.mp normal'
    rw [enqueue, if_congr (any_same_iff normal written) rfl rfl]
    by_cases old : path ∈ known
    · rw [if_pos old, ih normal normal']
      simp [newPaths, old]
    · have normal'' : Normal (known ++ [path]) := by
        intro other h
        rcases List.mem_append.mp h with h | h
        · exact normal other h
        · exact List.mem_singleton.mp h ▸ written
      rw [if_neg old, ih normal'' normal']
      have new : newPaths known (path :: rest) = path :: newPaths (known ++ [path]) rest := by
        unfold newPaths
        rw [List.filter_cons_of_pos (by simpa using old), List.eraseDups_cons, List.filter_filter]
        congr 3
        funext other
        by_cases same : other = path <;> simp [same]
      rw [new]
      simp

theorem mem_newPaths_iff {known paths : List Path} :
    path ∈ newPaths known paths ↔ path ∈ paths ∧ path ∉ known := by
  simp [newPaths]

theorem nodup_newPaths (known paths : List Path) : (newPaths known paths).Nodup :=
  Extraction.nodup_eraseDups _

/-! ## Related lists -/

theorem forall₂_imp_of_mem {α β : Type} {r s : α → β → Prop} {items : List α} {others : List β}
    (h : items.Forall₂ r others) (imp : ∀ item ∈ items, ∀ other, r item other → s item other) :
    items.Forall₂ s others := by
  induction h with
  | nil => exact .nil
  | cons here _ ih =>
    exact .cons (imp _ List.mem_cons_self _ here)
      (ih fun item h => imp item (List.mem_cons_of_mem _ h))

theorem exists_of_forall₂ {α β : Type} {r : α → β → Prop} {items : List α} {others : List β}
    (h : items.Forall₂ r others) :
    (∀ item ∈ items, ∃ other ∈ others, r item other) ∧
      ∀ other ∈ others, ∃ item ∈ items, r item other := by
  induction h with
  | nil => exact ⟨nofun, nofun⟩
  | cons here _ ih =>
    constructor
    · refine List.forall_mem_cons.mpr ⟨⟨_, List.mem_cons_self, here⟩, fun item among => ?_⟩
      obtain ⟨other, among, related⟩ := ih.1 item among
      exact ⟨other, List.mem_cons_of_mem _ among, related⟩
    · refine List.forall_mem_cons.mpr ⟨⟨_, List.mem_cons_self, here⟩, fun other among => ?_⟩
      obtain ⟨item, among, related⟩ := ih.2 other among
      exact ⟨item, List.mem_cons_of_mem _ among, related⟩

/-! ## The search -/

/-- One file refers to another one. -/
def RefersTo (tree : FileTree) (source target : Path) : Prop :=
  ∃ script specifier, readScript tree source = .ok script ∧ specifier ∈ script.specifiers ∧
    Imports.resolve? tree source specifier = some target

/-- The files of a program: the least set that holds the roots, in normal form, and everything that
its files refer to. -/
inductive Imported (tree : FileTree) (roots : List Path) : Path → Prop where
  | root {path : Path} (h : path ∈ roots) : Imported tree roots path.normalize
  | target {source target : Path} (h : Imported tree roots source)
    (refers : RefersTo tree source target) : Imported tree roots target

theorem exists_of_refersTo {source target : Path} (h : RefersTo tree source target) :
    ∃ path, Imports.isFile tree path = true ∧ target = path.normalize := by
  obtain ⟨script, specifier, -, -, resolved⟩ := h
  exact Imports.exists_of_resolve? resolved

theorem normal_of_refersTo {source target : Path} (h : RefersTo tree source target) :
    ∃ written : Path, target = written.normalize := by
  obtain ⟨written, -, same⟩ := exists_of_refersTo h
  exact ⟨written, same⟩

theorem parses_of_refersTo {source target : Path} (h : RefersTo tree source target) :
    parses tree source = true := by
  obtain ⟨script, -, read, -⟩ := h
  exact parses_iff.mpr ⟨script, read⟩

/-- The targets of a unit are what its file refers to. -/
theorem mem_targets_iff {isRoot : Bool} {unit : SourceUnit} {target : Path}
    (made : IsUnitOf tree root isRoot path unit) :
    target ∈ (targets tree unit).map Prod.snd ↔ RefersTo tree path target := by
  unfold targets RefersTo
  rw [made.refers, made.path_eq]
  simp [made.read]

/-- The roots of a program in normal form, each once. -/
def firstPaths (roots : List Path) : List Path := (roots.map Path.normalize).eraseDups

theorem mem_firstPaths_iff {roots : List Path} :
    path ∈ firstPaths roots ↔ path ∈ roots.map Path.normalize := List.mem_eraseDups

theorem normal_map_normalize (paths : List Path) : Normal (paths.map Path.normalize) := by
  intro path h
  obtain ⟨written, -, same⟩ := List.mem_map.mp h
  exact ⟨written, same.symm⟩

/-- What holds before a round of the search: the known files are those that were read and those that
wait. -/
structure Searching (tree : FileTree) (root : Path) (roots : List Path) (isRoot : Bool)
    (known waiting done : List Path) (program : Program) : Prop where
  split : known = done ++ waiting
  distinct : known.Nodup
  normal : Normal known
  units : (done.filter (parses tree)).Forall₂
    (fun path => IsUnitOf tree root (decide (path ∈ firstPaths roots)) path) program.units.toList
  faults : program.faults = done.filterMap (fault? tree root)
  sound : ∀ path ∈ known, Imported tree roots path
  closed : ∀ source ∈ done, ∀ target, RefersTo tree source target → target ∈ known
  firsts : firstPaths roots <+: known
  waits : ∀ path ∈ waiting, isRoot = decide (path ∈ firstPaths roots)

theorem searching_start (tree : FileTree) (root : Path) (roots : List Path) :
    Searching tree root roots true (firstPaths roots) (firstPaths roots) [] ⟨#[], #[], []⟩ where
  split := rfl
  distinct := Extraction.nodup_eraseDups _
  normal path h := normal_map_normalize roots path (mem_firstPaths_iff.mp h)
  units := .nil
  faults := rfl
  sound path h := by
    obtain ⟨written, among, rfl⟩ := List.mem_map.mp (mem_firstPaths_iff.mp h)
    exact .root among
  closed _ h := nomatch h
  firsts := List.prefix_refl _
  waits path h := (decide_eq_true h).symm

/-- The program once the waiting files are read. -/
def readAll (tree : FileTree) (root : Path) (isRoot : Bool) (waiting : List Path)
    (program : Program) : Program :=
  waiting.foldl (addFile tree root isRoot) program

/-- What the files that were read last refer to. -/
def freshPaths (tree : FileTree) (before after : Program) : List Path :=
  (after.units.toList.drop before.units.size).flatMap fun unit => (targets tree unit).map Prod.snd

theorem mem_freshPaths_iff {isRoot : Bool} {waiting : List Path} {program : Program}
    {target : Path} :
    target ∈ freshPaths tree program (readAll tree root isRoot waiting program) ↔
      ∃ source ∈ waiting, RefersTo tree source target := by
  obtain ⟨added, units, made, -⟩ := foldl_addFile_spec tree root isRoot waiting program
  unfold freshPaths readAll
  rw [units, ← Array.length_toList, List.drop_left, List.mem_flatMap]
  constructor
  · rintro ⟨unit, among, found⟩
    obtain ⟨source, here, isUnit⟩ := (exists_of_forall₂ made).2 unit among
    exact ⟨source, (List.mem_filter.mp here).1, (mem_targets_iff isUnit).mp found⟩
  · rintro ⟨source, here, refers⟩
    have kept := List.mem_filter.mpr ⟨here, parses_of_refersTo refers⟩
    obtain ⟨unit, among, isUnit⟩ := (exists_of_forall₂ made).1 source kept
    exact ⟨unit, among, (mem_targets_iff isUnit).mpr refers⟩

/-- What waits after a round of the search. -/
def nextPaths (tree : FileTree) (root : Path) (isRoot : Bool) (known waiting : List Path)
    (program : Program) : List Path :=
  newPaths known (freshPaths tree program (readAll tree root isRoot waiting program))

section Round

variable {roots known waiting done : List Path} {isRoot : Bool} {program : Program}

theorem mem_nextPaths_iff {target : Path} :
    target ∈ nextPaths tree root isRoot known waiting program ↔
      (∃ source ∈ waiting, RefersTo tree source target) ∧ target ∉ known := by
  rw [nextPaths, mem_newPaths_iff, mem_freshPaths_iff]

/-- One round reads all files that wait, and finds what they refer to. -/
theorem Searching.round
    (searching : Searching tree root roots isRoot known waiting done program) :
    Searching tree root roots false
      (known ++ nextPaths tree root isRoot known waiting program)
      (nextPaths tree root isRoot known waiting program)
      known (readAll tree root isRoot waiting program) := by
  obtain ⟨added, units, made, faults⟩ := foldl_addFile_spec tree root isRoot waiting program
  refine ⟨rfl, ?_, ?_, ?_, ?_, ?_, ?_, ?_, ?_⟩
  · refine List.nodup_append.mpr ⟨searching.distinct, nodup_newPaths _ _, ?_⟩
    rintro path old _ new rfl
    exact (mem_nextPaths_iff.mp new).2 old
  · intro path among
    rcases List.mem_append.mp among with old | new
    · exact searching.normal path old
    · obtain ⟨⟨source, -, refers⟩, -⟩ := mem_nextPaths_iff.mp new
      exact normal_of_refersTo refers
  · rw [readAll, units, searching.split, List.filter_append]
    refine List.rel_append searching.units (forall₂_imp_of_mem made fun path among unit made => ?_)
    rwa [← searching.waits path (List.mem_filter.mp among).1]
  · rw [readAll, faults, searching.faults, searching.split, List.filterMap_append]
  · intro path among
    rcases List.mem_append.mp among with old | new
    · exact searching.sound path old
    · obtain ⟨⟨source, waits, refers⟩, -⟩ := mem_nextPaths_iff.mp new
      have here : source ∈ known := searching.split ▸ List.mem_append_right _ waits
      exact .target (searching.sound source here) refers
  · intro source among target refers
    -- Files read before lead to known files only, so what is new comes from those of this round.
    by_cases old : target ∈ known
    · exact List.mem_append_left _ old
    · rw [searching.split] at among
      rcases List.mem_append.mp among with done | waits
      · exact absurd (searching.closed source done target refers) old
      · exact List.mem_append_right _ (mem_nextPaths_iff.mpr ⟨⟨source, waits, refers⟩, old⟩)
  · exact searching.firsts.trans (List.prefix_append _ _)
  · intro path new
    have later : path ∉ firstPaths roots := fun first =>
      (mem_nextPaths_iff.mp new).2 (searching.firsts.subset first)
    exact (decide_eq_false later).symm

/-! ## The end of the search -/

/-- How many normal forms of files are not known. -/
def remaining (tree : FileTree) (known : List Path) : Nat :=
  (tree.spellings.filter fun path => path ∉ known).length

/-- There are fewer of them once one more is known. -/
theorem remaining_append_lt {next : List Path} (new : path ∈ next) (fresh : path ∉ known)
    (spelled : path ∈ tree.spellings) : remaining tree (known ++ next) < remaining tree known := by
  unfold remaining
  have kept : (tree.spellings.filter fun path => path ∉ known ++ next) =
      (tree.spellings.filter fun path => path ∉ known).filter fun path => path ∉ next := by
    rw [List.filter_filter]
    refine List.filter_congr fun other _ => ?_
    simp [Bool.and_comm]
  rw [kept]
  refine List.length_filter_lt_length_iff_exists.mpr ⟨path, ?_, by simpa using new⟩
  exact List.mem_filter.mpr ⟨spelled, by simpa using fresh⟩

/-- After a round nothing waits, or fewer normal forms are left. -/
theorem nextPaths_eq_nil_or_remaining_lt :
    nextPaths tree root isRoot known waiting program = [] ∨
      remaining tree (known ++ nextPaths tree root isRoot known waiting program) <
        remaining tree known := by
  cases next : nextPaths tree root isRoot known waiting program with
  | nil => exact .inl rfl
  | cons path rest =>
    obtain ⟨⟨source, -, refers⟩, fresh⟩ := mem_nextPaths_iff.mp (next ▸ List.mem_cons_self)
    obtain ⟨written, file, rfl⟩ := exists_of_refersTo refers
    exact .inr (remaining_append_lt List.mem_cons_self fresh (FileTree.mem_spellings file))

theorem loadRounds_done (rounds : Nat) (isRoot : Bool) (known : List Path) (program : Program) :
    loadRounds tree root rounds isRoot known [] program = program := by
  cases rounds <;> rfl

theorem Searching.loadRounds_succ
    (searching : Searching tree root roots isRoot known waiting done program)
    (some : waiting ≠ []) (rounds : Nat) :
    loadRounds tree root (rounds + 1) isRoot known waiting program =
      loadRounds tree root rounds false
        (known ++ nextPaths tree root isRoot known waiting program)
        (nextPaths tree root isRoot known waiting program)
        (readAll tree root isRoot waiting program) := by
  have normal : Normal (freshPaths tree program (readAll tree root isRoot waiting program)) := by
    intro path among
    obtain ⟨source, -, refers⟩ := mem_freshPaths_iff.mp among
    exact normal_of_refersTo refers
  rw [loadRounds, if_neg (by simpa using some)]
  have queued := @enqueue_eq known [] _ searching.normal normal
  dsimp only
  unfold nextPaths freshPaths readAll at *
  rw [queued]
  rfl

end Round

/-- Where nothing waits, all known files are read. -/
theorem Searching.all_done {roots known done : List Path} {isRoot : Bool} {program : Program}
    (searching : Searching tree root roots isRoot known [] done program) :
    Searching tree root roots isRoot known [] known program := by
  have all := searching.split
  rw [List.append_nil] at all
  exact all ▸ searching

/-- With more rounds than there are normal forms left, the search comes to its end, and further
rounds change nothing. -/
theorem Searching.run {roots known waiting done : List Path} {isRoot : Bool} {program : Program}
    {rounds : Nat} (searching : Searching tree root roots isRoot known waiting done program)
    (enough : waiting = [] ∨ remaining tree known < rounds) :
    ∃ last, (∀ more, loadRounds tree root (rounds + more) isRoot known waiting program = last) ∧
      ∃ isRoot known, Searching tree root roots isRoot known [] known last := by
  induction rounds generalizing isRoot known waiting done program with
  | zero =>
    obtain rfl := enough.resolve_right (Nat.not_lt_zero _)
    exact ⟨program, fun more => loadRounds_done _ _ _ _, isRoot, known, searching.all_done⟩
  | succ rounds ih =>
    by_cases idle : waiting = []
    · subst idle
      exact ⟨program, fun more => loadRounds_done _ _ _ _, isRoot, known, searching.all_done⟩
    · have left := enough.resolve_left idle
      obtain ⟨last, runs, ends⟩ := ih searching.round
        (nextPaths_eq_nil_or_remaining_lt.imp_right fun fewer => by omega)
      refine ⟨last, fun more => ?_, ends⟩
      rw [Nat.add_right_comm, searching.loadRounds_succ idle]
      exact runs more

end Program

end Phrasebook
