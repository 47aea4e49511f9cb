import Phrasebook.Catalogue
import Phrasebook.Lookup
import Phrasebook.Proofs.FileTree

/-!
# Where table files stand

A namespace that names a table file and a language without slashes have a file of their own, and
what is read from it depends on no other.

- `Catalogue.Regular`: what a project makes sure of about its folder and extension;
- `place_inj`: different tables have different files;
- `read_congr`: what is read from a file depends on what stands at its place.
-/

namespace Phrasebook.Catalogue

/-- The folder of the tables is written without detours, and the extension is part of a name. -/
structure Regular (catalogue : Catalogue) : Prop where
  direct : catalogue.folder.Direct
  extension : '/' ∉ catalogue.extension.toList

/-- A namespace and a language that name a table file. -/
def Nameable (space language : String) : Prop :=
  LookupCall.isValidSpace space = true ∧ '/' ∉ language.toList

/-- The name of a table file. -/
def fileName (catalogue : Catalogue) (space language : String) : String :=
  space ++ "." ++ language ++ "." ++ catalogue.extension

/-- The place of a table file, from the given current folder. -/
def place (catalogue : Catalogue) (here : Location) (space language : String) : Location :=
  (catalogue.filePath space language).destination here

/-! ## Names -/

theorem isValidSpace_iff {space : String} :
    LookupCall.isValidSpace space = true ↔
      space.toList ≠ [] ∧ ∀ c ∈ space.toList, c ≠ '.' ∧ c ≠ '/' ∧ c ≠ '\\' := by
  unfold LookupCall.isValidSpace
  simp [not_or, and_assoc]

theorem toList_fileName (catalogue : Catalogue) (space language : String) :
    (catalogue.fileName space language).toList =
      space.toList ++ '.' :: (language.toList ++ '.' :: catalogue.extension.toList) := by
  unfold fileName
  simp [String.toList_append]

variable {catalogue : Catalogue} {space language : String}

theorem slash_notMem_fileName (regular : catalogue.Regular) (h : Nameable space language) :
    '/' ∉ (catalogue.fileName space language).toList := by
  intro slash
  rw [toList_fileName, List.mem_append, List.mem_cons, List.mem_append, List.mem_cons] at slash
  rcases slash with inSpace | dot | inLanguage | dot | inExtension
  · exact ((isValidSpace_iff.mp h.1).2 _ inSpace).2.1 rfl
  · exact absurd dot (by decide)
  · exact h.2 inLanguage
  · exact absurd dot (by decide)
  · exact regular.extension inExtension

/-- A name starts like its namespace, so it is neither a dot nor two. -/
theorem fileName_forward (h : Nameable space language) :
    Path.isBlank (catalogue.fileName space language).toList = false ∧
      (catalogue.fileName space language).toList ≠ ['.', '.'] := by
  obtain ⟨some, clean⟩ := isValidSpace_iff.mp h.1
  obtain ⟨c, rest, written⟩ := List.exists_cons_of_ne_nil some
  have first : c ≠ '.' := (clean c (written ▸ List.mem_cons_self)).1
  rw [toList_fileName, written]
  constructor
  · simp [Path.isBlank, first]
  · simp [first]

/-- A name tells its namespace, which holds no dot, and then its language. -/
theorem fileName_inj {space' language' : String} (h : Nameable space language)
    (h' : Nameable space' language')
    (same : catalogue.fileName space language = catalogue.fileName space' language') :
    space = space' ∧ language = language' := by
  have same := congrArg String.toList same
  rw [toList_fileName, toList_fileName] at same
  -- Without dots in it, what stands in front of the first dot is known.
  have cut {first second rest rest' : List Char} (clean : '.' ∉ first) (clean' : '.' ∉ second)
      (same : first ++ '.' :: rest = second ++ '.' :: rest') : first = second ∧ rest = rest' := by
    induction first generalizing second with
    | nil =>
      cases second with
      | nil => exact ⟨rfl, (List.cons.inj same).2⟩
      | cons c cs => exact absurd ((List.cons.inj same).1 ▸ List.mem_cons_self) clean'
    | cons c cs ih =>
      cases second with
      | nil => exact absurd ((List.cons.inj same).1 ▸ List.mem_cons_self) clean
      | cons c' cs' =>
        obtain ⟨rfl, tails⟩ := List.cons.inj same
        obtain ⟨rfl, rfl⟩ := ih (fun h => clean (List.mem_cons_of_mem _ h))
          (fun h => clean' (List.mem_cons_of_mem _ h)) tails
        exact ⟨rfl, rfl⟩
  have dotless {space : String} (h : LookupCall.isValidSpace space = true) :
      '.' ∉ space.toList := fun dot => ((isValidSpace_iff.mp h).2 _ dot).1 rfl
  obtain ⟨spaces, rest⟩ := cut (dotless h.1) (dotless h'.1) same
  exact ⟨String.toList_inj.mp spaces, String.toList_inj.mp (List.append_cancel_right rest)⟩

/-! ## Places -/

theorem direct_filePath (regular : catalogue.Regular) (h : Nameable space language) :
    (catalogue.filePath space language).Direct :=
  regular.direct.join (slash_notMem_fileName regular h) (fileName_forward h).2

theorem place_eq (regular : catalogue.Regular) (h : Nameable space language) (here : Location) :
    catalogue.place here space language =
      catalogue.folder.destination here ++ [catalogue.fileName space language] :=
  Path.destination_join (slash_notMem_fileName regular h) (fileName_forward h).1
    (fileName_forward h).2 here

/-- Different tables have different files. -/
theorem place_inj (regular : catalogue.Regular) {space' language' : String}
    (h : Nameable space language) (h' : Nameable space' language') {here : Location}
    (same : catalogue.place here space language = catalogue.place here space' language') :
    space = space' ∧ language = language' := by
  rw [place_eq regular h, place_eq regular h'] at same
  exact fileName_inj h h' (List.singleton_inj.mp (List.append_cancel_left same))

/-! ## Reading -/

/-- What is read from a file depends on what its path finds. -/
theorem read_eq (tree : FileTree) (path : Path) :
    catalogue.read tree path =
      match tree.find path with
      | .error _ => .ok none
      | .ok .folder => .error (.unreadable (catalogue.display path) .isFolder)
      | .ok (.file (.bytes _)) => .error (.unreadable (catalogue.display path) .notText)
      | .ok (.file (.text value)) =>
        match TableFile.parse value with
        | .error fault => .error (.malformed fault)
        | .ok file => .ok (some file) := by
  unfold read FileTree.has FileTree.read
  rcases tree.find path with error | _ | value | bytes <;> rfl

theorem read_congr {tree other : FileTree} {path : Path}
    (h : ∀ entry, tree.find path = .ok entry ↔ other.find path = .ok entry) :
    catalogue.read tree path = catalogue.read other path := by
  rw [read_eq, read_eq]
  cases found : tree.find path with
  | ok entry => rw [(h entry).mp found]
  | error error =>
    cases found' : other.find path with
    | error error' => rfl
    | ok entry =>
      rw [(h entry).mpr found'] at found
      cases found

/-- No table is read where a path finds nothing. -/
theorem find_ne_of_read {tree : FileTree} {path : Path} (h : catalogue.read tree path = .ok none)
    (entry : Entry) : tree.find path ≠ .ok entry := by
  intro found
  rw [read_eq, found] at h
  rcases entry with _ | value | bytes
  · cases h
  · dsimp only at h
    split at h <;> cases h
  · cases h

/-- A table that is read, and one that is malformed, comes from the text of a file. -/
theorem exists_text_of_read {tree : FileTree} {path : Path} {outcome : Except TableFault TableFile}
    (h : catalogue.read tree path = (outcome.map some).mapError .malformed) :
    ∃ text, tree.find path = .ok (.file (.text text)) ∧ TableFile.parse text = outcome := by
  rw [read_eq] at h
  rcases found : tree.find path with error | _ | text | bytes
  · rw [found] at h
    cases outcome <;> cases h
  · rw [found] at h
    cases outcome <;> cases h
  · rw [found] at h
    refine ⟨text, rfl, ?_⟩
    cases parsed : TableFile.parse text <;> simp only [parsed] at h <;> cases outcome <;>
      cases h <;> rfl
  · rw [found] at h
    cases outcome <;> cases h

theorem parse_of_read {tree : FileTree} {path : Path} {file : TableFile}
    (h : catalogue.read tree path = .ok (some file)) :
    ∃ text, tree.find path = .ok (.file (.text text)) ∧ TableFile.parse text = .ok file :=
  exists_text_of_read h

theorem parse_of_malformed {tree : FileTree} {path : Path} {fault : TableFault}
    (h : catalogue.read tree path = .error (.malformed fault)) :
    ∃ text, tree.find path = .ok (.file (.text text)) ∧ TableFile.parse text = .error fault :=
  exists_text_of_read h

end Phrasebook.Catalogue
