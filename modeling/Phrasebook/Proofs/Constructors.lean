import Phrasebook.Proofs.Recording
import Phrasebook.Proofs.Shadowing

/-!
# Constructors and local names

The walk that looks for locally bound callees looks at calls and not at `new` expressions. So a
`new` expression means what its module says, whatever the scopes around it bind.

- `Program.unscoped`: the program as it were if nothing in it were bound locally;
- `Program.Scoped`, `Program.scoped_load`: what a loaded program takes for bound locally;
- `Extraction.Ignores`: a node that leaves extraction as it is;
- `Extraction.construct_ignored_iff`: which `new` expressions are no constructors.
-/

namespace Phrasebook

open Source

/-- The property of an object that a callee names. -/
def Source.Node.calleeProperty? : Node → Option String
  | .paren inner | .nonNull inner => inner.calleeProperty?
  | .member _ key => key
  | .element _ (.text _ _ literal) => literal.text?
  | _ => none

namespace Program

/-! ## Programs without local names -/

/-- The program as it were if nothing in it were bound locally. -/
def unscoped (program : Program) : Program :=
  { program with units := program.units.map fun unit => { unit with shadowed := [] } }

variable {program : Program} {file : Nat} {name : String}

theorem getElem?_unscoped (program : Program) (file : Nat) :
    program.unscoped.units[file]? =
      program.units[file]?.map fun unit => { unit with shadowed := [] } :=
  Array.getElem?_map ..

@[simp] theorem isShadowed_unscoped (start : Nat) :
    program.unscoped.isShadowed file start = false := by
  unfold isShadowed
  rw [getElem?_unscoped]
  cases program.units[file]? <;> rfl

@[simp] theorem importedUnit?_unscoped (specifier : String) :
    program.unscoped.importedUnit? file specifier = program.importedUnit? file specifier := by
  unfold importedUnit?
  rw [getElem?_unscoped]
  cases program.units[file]? <;> rfl

@[simp] theorem localSymbol?_unscoped :
    program.unscoped.localSymbol? file name = program.localSymbol? file name := by
  unfold localSymbol?
  simp only [importedUnit?_unscoped]
  rw [getElem?_unscoped]
  cases program.units[file]? <;> rfl

@[simp] theorem targetSymbol?_unscoped (target : ExportTarget) :
    program.unscoped.targetSymbol? file target = program.targetSymbol? file target := by
  cases target <;> simp [targetSymbol?]

@[simp] theorem searchExport_unscoped (depth : Nat) :
    program.unscoped.searchExport name depth = program.searchExport name depth := by
  induction depth with
  | zero => rfl
  | succ depth ih =>
    funext file
    unfold searchExport
    rw [getElem?_unscoped]
    cases program.units[file]? with
    | none => rfl
    | some unit =>
      simp only [Option.map_some, targetSymbol?_unscoped, ih,
        show program.unscoped.importedUnit? file = program.importedUnit? file from
          funext fun _ => importedUnit?_unscoped _]

@[simp] theorem exportSymbol?_unscoped :
    program.unscoped.exportSymbol? file name = program.exportSymbol? file name := by
  have size : program.unscoped.units.size = program.units.size := Array.size_map ..
  unfold exportSymbol?
  rw [size, searchExport_unscoped]

theorem step?_unscoped (symbol : Symbol) :
    program.unscoped.step? symbol = program.step? symbol := by
  cases symbol <;> simp [step?]

@[simp] theorem resolveAlias_unscoped (symbol : Symbol) :
    program.unscoped.resolveAlias symbol = program.resolveAlias symbol := by
  have count : program.unscoped.nameCount = program.nameCount := by
    simp [nameCount, unscoped, List.foldl_map]
  unfold resolveAlias
  rw [count]
  -- The names that have been seen grow with each step, so the induction is for all of them.
  generalize program.nameCount + 2 = steps
  generalize [] = seen
  induction steps generalizing seen symbol with
  | zero => rfl
  | succ steps ih =>
    unfold follow
    rw [step?_unscoped]
    simp only [ih]

@[simp] theorem declarationOf?_unscoped (symbol : Symbol) :
    program.unscoped.declarationOf? symbol = program.declarationOf? symbol := by
  unfold declarationOf?
  rw [resolveAlias_unscoped]

/-! ## Callees -/

section

variable {callee key : Node} {start : Nat} {id : String}

theorem moduleOf?_unscoped (free : program.isShadowed file start = false) :
    program.unscoped.moduleOf? file (.name start id) = program.moduleOf? file (.name start id) := by
  unfold moduleOf?
  dsimp only
  rw [free, isShadowed_unscoped, localSymbol?_unscoped,
    funext (@resolveAlias_unscoped program)]

theorem propertyDeclarations_unscoped (free : program.isShadowed file start = false) :
    program.unscoped.propertyDeclarations file (.name start id) name =
      program.propertyDeclarations file (.name start id) name := by
  unfold propertyDeclarations
  rw [moduleOf?_unscoped free]
  cases program.moduleOf? file (.name start id) with
  | none => rfl
  | some target =>
    dsimp only
    rw [exportSymbol?_unscoped, funext (@declarationOf?_unscoped program)]

theorem propertyDeclarations_of_shadowed (shadowed : program.isShadowed file start = true) :
    program.propertyDeclarations file (.name start id) name = program.membersNamed name := by
  unfold propertyDeclarations moduleOf?
  dsimp only
  rw [if_pos shadowed]

/-- A callee whose name is not found bound locally refers to the same declarations without
scopes. -/
theorem calleeDeclarations_unscoped (named : callee.calleeName? = some (start, id))
    (free : program.isShadowed file start = false) :
    program.unscoped.calleeDeclarations file callee = program.calleeDeclarations file callee := by
  -- The name of a callee is looked for below parentheses, so the cases are those of that search.
  fun_induction Node.calleeName? callee
  case case1 ih | case2 ih => exact ih named
  case case3 =>
    cases named
    rw [calleeDeclarations, calleeDeclarations, free, isShadowed_unscoped, localSymbol?_unscoped,
      funext (@declarationOf?_unscoped program)]
  case case4 property =>
    cases named
    cases property with
    | none => rfl
    | some name => exact propertyDeclarations_unscoped free
  case case5 key =>
    cases named
    cases key with
    | text _ _ literal =>
      rw [calleeDeclarations, calleeDeclarations]
      cases literal.text? with
      | none => rfl
      | some name => exact propertyDeclarations_unscoped free
    | _ => rfl
  case case6 => cases named

/-- A callee whose name is found bound locally can only refer to class members, by a property. -/
theorem calleeDeclarations_of_shadowed (named : callee.calleeName? = some (start, id))
    (shadowed : program.isShadowed file start = true) :
    program.calleeDeclarations file callee =
      (callee.calleeProperty?.map program.membersNamed).getD [] := by
  fun_induction Node.calleeName? callee
  case case1 ih | case2 ih => exact ih named
  case case3 =>
    cases named
    rw [calleeDeclarations, if_pos shadowed]
    rfl
  case case4 property =>
    cases named
    cases property with
    | none => rfl
    | some name => exact propertyDeclarations_of_shadowed shadowed
  case case5 key =>
    cases named
    cases key with
    | text _ _ literal =>
      rw [calleeDeclarations, Node.calleeProperty?]
      cases literal.text? with
      | none => rfl
      | some name => exact propertyDeclarations_of_shadowed shadowed
    | _ => rfl
  case case6 => cases named

end

/-! ## What is bound locally -/

/-- Every unit takes for bound locally what the walk over its nodes finds. -/
def Scoped (program : Program) : Prop :=
  ∀ unit ∈ program.units, unit.shadowed = shadowedCallees unit.script.nodes

theorem scoped_addFile (tree : FileTree) (root : Path) (isRoot : Bool) (walked : program.Scoped)
    (path : Path) : (addFile tree root isRoot program path).Scoped := by
  unfold addFile
  dsimp only
  split
  · exact walked
  · intro unit among
    rcases Array.mem_push.mp among with among | rfl
    · exact walked unit among
    · rfl

theorem scoped_loadRounds (tree : FileTree) (root : Path) (rounds : Nat) (isRoot : Bool)
    (known waiting : List Path) (walked : program.Scoped) :
    (loadRounds tree root rounds isRoot known waiting program).Scoped := by
  induction rounds generalizing isRoot known waiting program with
  | zero => exact walked
  | succ rounds ih =>
    unfold loadRounds
    split
    · exact walked
    · refine ih _ _ _ ?_
      exact List.foldlRecOn (motive := Scoped) waiting (addFile tree root isRoot) walked
        fun _ walked path _ => scoped_addFile tree root isRoot walked path

/-- A loaded program takes for bound locally what the walk over each file finds. -/
theorem scoped_load (tree : FileTree) (root : Path) (roots : List Path) :
    (load tree root roots).Scoped := by
  have start : Scoped ⟨#[], #[], []⟩ := fun unit among => absurd among (Array.not_mem_empty unit)
  intro unit among
  obtain ⟨found, here, rfl⟩ := Array.mem_map.mp among
  exact scoped_loadRounds tree root.normalize _ _ _ _ start found here

/-- A callee starts at the offset and is called, and the walk takes its name from a scope around
that call. -/
def CalledLocally (nodes : List Node) (start : Nat) : Prop :=
  ∃ id scopes, CallAt nodes start id scopes ∧ Scope.Taken id scopes

theorem isShadowed_iff {unit : SourceUnit} {start : Nat} (walked : program.Scoped)
    (found : program.units[file]? = some unit) :
    program.isShadowed file start = true ↔ CalledLocally unit.script.nodes start := by
  unfold isShadowed CalledLocally
  rw [found, ← mem_shadowedCallees_iff_taken, ← walked unit (Array.mem_of_getElem? found)]
  exact List.contains_iff_mem

end Program

/-! ## Constructors -/

namespace Extraction

variable {program : Program} {file start : Nat} {comment : String} {callee node : Node}
  {arguments : List Node}

/-- A node leaves extraction as it is, whatever has been seen before. -/
def Ignores (program : Program) (file : Nat) (node : Node) : Prop :=
  ∀ progress, recordNode program file progress node = .ok progress

theorem recordConstructor_ne (progress : Progress) (context : SourceContext)
    (arguments : List Node) : recordConstructor progress context arguments ≠ .ok progress := by
  intro same
  unfold recordConstructor at same
  split at same
  · have longer := congrArg Progress.issues (Except.ok.inj same)
    simp at longer
  · next unknown =>
    split at same
    · have known := congrArg Progress.languages (Except.ok.inj same)
      rw [unknown] at known
      cases known
    · cases same

/-- A constructor never leaves extraction as it is. -/
theorem ignores_construct_iff :
    Ignores program file (.construct start comment callee arguments) ↔
      isConstructor program file comment callee = false := by
  unfold Ignores recordNode
  cases judged : isConstructor program file comment callee with
  | false => simp [judged]
  | true =>
    refine iff_of_false (fun ignored => ?_) nofun
    exact recordConstructor_ne .start _ _ (by simpa [judged] using ignored .start)

/-- Whether a `new` expression without a marker of its own is a constructor does not depend on what
the scopes around it bind: it is one exactly if its callee is marked as one in the program without
scopes. Only if a call starts at the same name as the callee, that call decides. -/
theorem construct_ignored_iff (walked : program.Scoped) {unit : Program.SourceUnit}
    (root : (file, unit) ∈ program.roots) {scopes : List Scope}
    (around : Around unit.script.nodes scopes (.construct start comment callee arguments))
    (plain : Text.occursIn Marker.constructorWord.toList comment.toList = false)
    {name : Nat} {id : String} (named : callee.calleeName? = some (name, id)) :
    (file, .construct start comment callee arguments) ∈ program.visited ∧
    (Ignores program file (.construct start comment callee arguments) ↔
      ¬ Program.CalledLocally unit.script.nodes name ∧
          program.unscoped.calleeMarker? file callee ≠ some .constructor ∨
        Program.CalledLocally unit.script.nodes name ∧
          ((callee.calleeProperty?.map program.membersNamed).getD []).findSome? program.markerOf? ≠
            some .constructor) ∧
    (¬ Ignores program file (.construct start comment callee arguments) → ∀ progress,
      recordNode program file progress (.construct start comment callee arguments) =
        recordConstructor progress (program.contextAt file start) arguments) := by
  obtain ⟨found, -⟩ := Program.mem_roots_iff.mp root
  have within : Node.Within unit.script.nodes (.construct start comment callee arguments) :=
    exists_around_iff.mp ⟨scopes, around⟩
  have isConstructor_eq : isConstructor program file comment callee =
      (program.calleeMarker? file callee == some .constructor) := by
    rw [isConstructor, plain, Bool.false_or]
  have shadowed_iff := @Program.isShadowed_iff _ _ _ name walked found
  refine ⟨?_, ?_, fun judged progress => ?_⟩
  · refine List.mem_flatMap.mpr ⟨_, root, List.mem_map_of_mem ?_⟩
    exact Node.mem_preorderAll_iff.mpr within
  · rw [ignores_construct_iff, isConstructor_eq, beq_eq_false_iff_ne, ← shadowed_iff]
    unfold Program.calleeMarker?
    -- A name that is not shadowed is resolved as if there were no scopes.
    cases shadowed : program.isShadowed file name with
    | false =>
      rw [Program.calleeDeclarations_unscoped named shadowed,
        show program.unscoped.markerOf? = program.markerOf? from rfl]
      simp
    -- Of a shadowed name just the members of that name are left.
    | true =>
      rw [Program.calleeDeclarations_of_shadowed named shadowed]
      simp
  · rw [ignores_construct_iff, Bool.not_eq_false] at judged
    rw [recordNode, if_pos judged]

/-- `new I18N()`, where it stands in `maker`. -/
def madeInside : Node := .construct 72 "" (.name 76 "I18N") []

/-- A class that is marked as a constructor, and a function with a parameter of the same name. -/
def maker : Program :=
  let text := "/** I18NCONSTRUCTORSYMBOL */ class I18N \x7b\x7d\n" ++
    "function make(I18N) \x7b return new I18N(); \x7d"
  let comment := "* I18NCONSTRUCTORSYMBOL "
  let function : Node := .function .ordinary [.binding "I18N"] [.block [madeInside]] []
  let statements := [.classDeclaration comment (some "I18N") (.classBody [] []),
    .functionDeclaration "" (some "make") function]
  let symbols := { Program.ModuleSymbols.empty with
    locals := .ofList [("I18N", .declaration 0), ("make", .declaration 1)] }
  ⟨#[⟨⟨"/app.ts"⟩, "app.ts", ⟨text, false, statements.map .statement⟩, symbols, .empty, true, []⟩],
    #[⟨"I18N", .classType, 29, comment, some .constructor, none⟩,
      ⟨"make", .function, 43, "", none, none⟩], []⟩

/-- What the parameter is bound to is made, and extraction takes it for the class: it ends, because
there is no argument that names languages. -/
theorem parameter_taken_for_class :
    (∃ scopes, Around maker.units[0].script.nodes scopes madeInside ∧
      Scope.BoundLocally "I18N" scopes) ∧
    recordNode maker 0 .start madeInside = .error ⟨maker.contextAt 0 72, .noArgument⟩ := by
  have declaration : Around maker.units[0].script.nodes [] _ := .top (.tail _ (.head _))
  have function := declaration.part List.mem_cons_self List.mem_cons_self
  have body := function.part (.tail _ (.head _)) List.mem_cons_self
  have made := body.part List.mem_cons_self List.mem_cons_self
  refine ⟨⟨_, made, _, .outward ?_ (.here (Or.inl List.mem_cons_self)), rfl⟩, ?_⟩
  · simp [Scope.Binds, Node.declaredNames, madeInside]
  · have walked : maker.Scoped := by
      intro unit among
      cases List.mem_singleton.mp (Array.mem_toList_iff.mpr among)
      decide
    have root : (0, maker.units[0]) ∈ maker.roots := Program.mem_roots_iff.mpr ⟨rfl, rfl⟩
    obtain ⟨-, ignored, judged⟩ := construct_ignored_iff walked root made (by decide) rfl
    refine judged (fun still => ?_) .start
    rcases ignored.mp still with ⟨-, marked⟩ | ⟨called, -⟩
    · exact marked (by decide +kernel)
    · exact absurd (Program.mem_shadowedCallees_iff_taken.mpr called) (by decide)

end Extraction

end Phrasebook
