import Phrasebook.Proofs.Spellings
import Phrasebook.Proofs.Walks

/-!
# Normal forms of paths

A path denotes a location, seen from a base folder: its components are followed one by one, and
above the root there is only the root. The normal form of a path denotes the same, and it is the
only one among relative normal forms that does.

- `Component.lead`, `Path.denoted`: components followed one by one;
- `Path.extend`, `foldl_extend`: the normal form built by writing names behind a path and taking
  them away again;
- `normalize_normalize`: a normal form is its own;
- `eq_of_above`: steps up and names are told by what they denote;
- `normalize_is_normal_form`: all of this for every path.
-/

namespace Phrasebook.Path

/-! ## Following components -/

/-- Where a component leads from a location. -/
def Component.lead (location : Location) : Component → Location
  | .root => []
  | .here => location
  | .up => location.dropLast
  | .name text => location ++ [text]

/-- The location that a path denotes, seen from a base folder. -/
def denoted (path : Path) (base : Location) : Location :=
  path.components.foldl Component.lead base

theorem lead_componentOf (location : Location) (piece : List Char) :
    (componentOf piece).lead location = advance location piece := by
  unfold componentOf advance
  split <;> rfl

/-- Only where a path starts decides whether the base folder counts. -/
theorem denoted_eq_destination (path : Path) (base : Location) :
    path.denoted base = path.destination base := by
  have start : path.parts.start.toList.foldl Component.lead base =
      if path.isAbsolute then [] else base := by
    rw [isAbsolute_eq]
    rcases path.parts_start with start | start | ⟨start, -⟩ <;> rw [start] <;> rfl
  have later (location : Location) : (path.steps.map componentOf).foldl Component.lead location =
      path.steps.foldl advance location := by
    rw [List.foldl_map]
    simp only [lead_componentOf]
  rw [denoted, components_eq, List.foldl_append, start, later, destination]

/-! ## Pieces of normal forms -/

theorem joinPieces_pieces (cs : List Char) : joinPieces (pieces cs) = cs := by
  induction cs with
  | nil => rfl
  | cons c rest ih =>
    obtain ⟨piece, others, cut⟩ := List.exists_cons_of_ne_nil (pieces_ne_nil rest)
    by_cases slash : c = '/'
    · rw [pieces, if_pos slash, cut]
      show [] ++ '/' :: joinPieces (piece :: others) = c :: rest
      rw [← cut, ih, slash, List.nil_append]
    · rw [pieces_cons slash cut]
      rw [cut] at ih
      cases others <;> exact congrArg (c :: ·) ih

/-- A path is written as its pieces say. -/
theorem eq_of_pieces {path other : Path}
    (same : pieces path.text.toList = pieces other.text.toList) : path = other := by
  have written := congrArg joinPieces same
  rw [joinPieces_pieces, joinPieces_pieces, String.toList_inj] at written
  cases path
  cases other
  exact congrArg Path.mk written

/-- Pieces that say something each. -/
def Said (body : List (List Char)) : Prop := ∀ piece ∈ body, '/' ∉ piece ∧ isBlank piece = false

theorem said_spelled {ups : Nat} {names : List String} (isStep : ∀ name ∈ names, IsStep name) :
    Said (List.replicate ups ['.', '.'] ++ names.map String.toList) := by
  intro piece among
  rcases List.mem_append.mp among with up | name
  · rw [List.eq_of_mem_replicate up]
    decide
  · exact ⟨(isStep_of_mem_map isStep name).1, (isStep_of_mem_map isStep name).2.1⟩

/-- Where a path starts that is written from the root, or not. -/
def startOf (rooted : Bool) : Option Component := if rooted then some .root else none

theorem pieces_ofParts (rooted : Bool) {body : List (List Char)} (some : body ≠ [])
    (said : Said body) :
    pieces (ofParts ⟨startOf rooted, body⟩).text.toList =
      (if rooted then [[]] else []) ++ body := by
  have read := pieces_joinPieces some fun piece among => (said piece among).1
  cases rooted with
  | true =>
    show pieces (String.ofList ('/' :: joinPieces body)).toList = [] :: body
    rw [String.toList_ofList, pieces, if_pos rfl, read]
  | false =>
    show pieces (String.ofList (joinPieces body)).toList = body
    rw [String.toList_ofList, read]

/-- Parts that say something are read back as they were written. -/
theorem parts_ofParts (rooted : Bool) {body : List (List Char)} (some : body ≠ [])
    (said : Said body) : (ofParts ⟨startOf rooted, body⟩).parts = ⟨startOf rooted, body⟩ := by
  have cut := pieces_ofParts rooted some said
  obtain ⟨first, rest, rfl⟩ := List.exists_cons_of_ne_nil some
  have visible := (said first List.mem_cons_self).2
  unfold parts
  cases rooted with
  | true =>
    rw [cut]
    rfl
  | false =>
    rw [cut]
    -- Neither an empty first piece nor a dot says anything.
    split
    · next same =>
      cases same
      cases visible
    · next same =>
      cases same
      cases visible
    · rfl

/-- A piece that is written behind a path comes last in it. -/
theorem join_ofParts (rooted : Bool) {body : List (List Char)} {piece : List Char}
    (said : Said (body ++ [piece])) :
    (ofParts ⟨startOf rooted, body⟩).join (String.ofList piece) =
      ofParts ⟨startOf rooted, body ++ [piece]⟩ := by
  have clean : '/' ∉ (String.ofList piece).toList := by
    rw [String.toList_ofList]
    exact (said piece (by simp)).1
  have relative := isAbsolute_of_clean clean
  by_cases some : body = []
  · subst some
    unfold join
    rw [relative]
    cases rooted <;> simp [ofParts, startOf, joinPieces]
  · have said' : Said body := fun piece among => said piece (List.mem_append_left _ among)
    have before := pieces_ofParts rooted some said'
    have filled : (ofParts ⟨startOf rooted, body⟩).text ≠ "" := by
      intro none
      rw [none] at before
      obtain ⟨first, rest, rfl⟩ := List.exists_cons_of_ne_nil some
      cases rooted with
      | true => cases rest <;> cases before
      | false =>
        cases before
        cases (said' [] List.mem_cons_self).2
    obtain ⟨front, -, known, after⟩ := pieces_join filled relative
    -- The last piece of the path is not empty, so the new one is written behind a slash.
    have whole : pieces (ofParts ⟨startOf rooted, body⟩).text.toList = front := by
      refine known.resolve_right fun blank => ?_
      obtain ⟨others, last, ends⟩ := (List.eq_nil_or_concat body).resolve_left some
      rw [before, ends, List.concat_eq_append, ← List.append_assoc] at blank
      cases List.append_inj_right' blank rfl
      cases (said' [] (by simp [ends])).2
    apply eq_of_pieces
    rw [after, ← whole, before, pieces_of_clean clean, String.toList_ofList, List.append_assoc,
      pieces_ofParts rooted (by simp) said]

theorem trimEnd_of_said {body : List (List Char)} (said : Said body) : trimEnd body = body := by
  unfold trimEnd
  rcases List.eq_nil_or_concat body with rfl | ⟨front, last, rfl⟩
  · rfl
  · have visible := (said last (by simp)).2
    rw [List.concat_eq_append, List.reverse_concat, List.dropWhile_cons_of_neg (by simp [visible]),
      ← List.reverse_concat, List.reverse_reverse]

/-- The last piece of a path is taken away. -/
theorem parent?_ofParts (rooted : Bool) {body : List (List Char)} {piece : List Char}
    (said : Said (body ++ [piece])) :
    (ofParts ⟨startOf rooted, body ++ [piece]⟩).parent? =
      some (ofParts ⟨startOf rooted, body⟩) := by
  have said' : Said body := fun piece among => said piece (List.mem_append_left _ among)
  unfold parent?
  rw [parts_ofParts rooted (by simp) said]
  dsimp only
  rw [trimEnd_of_said said, List.reverse_concat]
  dsimp only
  rw [List.reverse_reverse, trimEnd_of_said said']

/-! ## Building normal forms -/

/-- One component more behind what is written: nothing for a `.`, and a step up takes a name away if
it follows one. -/
def extend (written : Path) : Component → Path
  | .here => written
  | .up =>
    match written.components.getLast? with
    | some (.name _) => written.parent?.getD written
    | _ => written.join ".."
  | .root => written.join "/"
  | .name text => written.join text

section

variable {rooted : Bool} {ups : Nat} {names : List String}

theorem spell_eq : spell rooted ups names =
    ofParts ⟨startOf rooted, List.replicate ups ['.', '.'] ++ names.map String.toList⟩ := rfl

/-- A name behind a normal form makes one. -/
theorem join_spell {name : String} (isStep : ∀ other ∈ names ++ [name], IsStep other) :
    (spell rooted ups names).join name = spell rooted ups (names ++ [name]) := by
  have said := @said_spelled ups _ isStep
  rw [List.map_append, ← List.append_assoc] at said
  have joined := join_ofParts rooted said
  rw [String.ofList_toList, List.append_assoc] at joined
  rw [spell_eq, spell_eq, List.map_append]
  exact joined

/-- A step up behind steps up makes a normal form. -/
theorem join_spell_up : (spell rooted ups []).join ".." = spell rooted (ups + 1) [] := by
  have said := @said_spelled (ups + 1) [] (by simp)
  rw [List.map_nil, List.append_nil, List.replicate_succ'] at said
  rw [spell_eq, spell_eq, List.map_nil, List.append_nil, List.append_nil, List.replicate_succ']
  exact join_ofParts rooted said

/-- The last name of a normal form is taken away. -/
theorem parent?_spell {name : String} (isStep : ∀ other ∈ names ++ [name], IsStep other) :
    (spell rooted ups (names ++ [name])).parent? = some (spell rooted ups names) := by
  have said := @said_spelled ups _ isStep
  rw [List.map_append, ← List.append_assoc] at said
  rw [spell_eq, List.map_append, ← List.append_assoc]
  exact parent?_ofParts rooted said

end

/-- What is written for settled steps, the last name of which comes first, goes on with a step. -/
theorem extend_spell (rooted : Bool) {settled : Nat × List String} {piece : List Char}
    (isStep : ∀ name ∈ settled.2, IsStep name)
    (known : piece ≠ ['.', '.'] → IsStep (String.ofList piece)) :
    (spell rooted settled.1 settled.2.reverse).extend (componentOf piece) =
      spell rooted (settle settled piece).1 (settle settled piece).2.reverse := by
  obtain ⟨ups, names⟩ := settled
  dsimp only at isStep ⊢
  have isStep' : ∀ name ∈ names.reverse, IsStep name := by simpa using isStep
  by_cases up : piece = ['.', '.']
  · subst up
    show (spell rooted ups names.reverse).extend .up = _
    unfold extend
    rw [components_spell isStep']
    cases names with
    | nil =>
      -- Only steps up are written, or the root, so this step is written behind them.
      have last : ∀ name, ((if rooted then [Component.root] else []) ++
          (List.replicate ups Component.up ++ [])).getLast? ≠ some (.name name) := by
        intro name same
        have among := List.mem_of_getLast? same
        cases rooted <;> simp at among
      show (match ((if rooted then [Component.root] else []) ++
          (List.replicate ups Component.up ++ [])).getLast? with
        | some (.name _) => (spell rooted ups []).parent?.getD (spell rooted ups [])
        | _ => (spell rooted ups []).join "..") = _
      split
      · next name same => exact absurd same (last name)
      · exact join_spell_up
    | cons name rest =>
      rw [List.reverse_cons] at isStep' ⊢
      rw [parent?_spell isStep']
      simp [settle_back]
  · show (spell rooted ups names.reverse).extend (if piece = _ then .up else _) = _
    rw [if_neg up, settle_name up, List.reverse_cons]
    refine join_spell fun name among => ?_
    rcases List.mem_append.mp among with before | last
    · exact isStep' name before
    · exact List.mem_singleton.mp last ▸ known up

/-- The normal form is what the components of a path make of nothing, one by one. -/
theorem foldl_extend (path : Path) : path.components.foldl extend ⟨""⟩ = path.normalize := by
  have start : path.parts.start.toList.foldl extend ⟨""⟩ = spell path.isAbsolute 0 [] := by
    rw [isAbsolute_eq]
    rcases path.parts_start with start | start | ⟨start, -⟩ <;> rw [start] <;> rfl
  -- From there on, the steps up and the names left are those that `settle` keeps.
  have later (steps : List (List Char)) (settled : Nat × List String)
      (known : ∀ piece ∈ steps, piece ≠ ['.', '.'] → IsStep (String.ofList piece))
      (isStep : ∀ name ∈ settled.2, IsStep name) :
      (steps.map componentOf).foldl extend (spell path.isAbsolute settled.1 settled.2.reverse) =
        spell path.isAbsolute (steps.foldl settle settled).1
          (steps.foldl settle settled).2.reverse := by
    induction steps generalizing settled with
    | nil => rfl
    | cons piece rest ih =>
      obtain ⟨first, others⟩ := List.forall_mem_cons.mp known
      have next : ∀ name ∈ (settle settled piece).2, IsStep name :=
        (@foldl_settle_spec [piece] settled (by simpa using first) isStep).1
      rw [List.map_cons, List.foldl_cons, extend_spell _ isStep first, ih _ others next,
        List.foldl_cons]
  rw [components_eq, List.foldl_append, start, normalize_eq]
  exact later path.steps (0, []) (fun piece among => isStep_of_mem_steps among) (by simp)

/-! ## Normal forms of normal forms -/

theorem foldl_settle_ups (ups more : Nat) :
    (List.replicate more ['.', '.']).foldl settle (ups, []) = (ups + more, []) := by
  induction more generalizing ups with
  | zero => rfl
  | succ fewer ih =>
    rw [List.replicate_succ, List.foldl_cons, settle_up, ih]
    show (ups + 1 + fewer, []) = (ups + (fewer + 1), [])
    rw [Nat.add_assoc, Nat.add_comm 1]

theorem foldl_settle_names {names : List String} (isStep : ∀ name ∈ names, IsStep name) (ups : Nat)
    (before : List String) :
    (names.map String.toList).foldl settle (ups, before) = (ups, names.reverse ++ before) := by
  induction names generalizing before with
  | nil => rfl
  | cons name rest ih =>
    obtain ⟨⟨-, -, forward⟩, others⟩ := List.forall_mem_cons.mp isStep
    rw [List.map_cons, List.foldl_cons, settle_name forward, ih others, String.ofList_toList]
    simp

/-- The steps of a path, settled: so many steps up, and names with the last one first. -/
def settled (path : Path) : Nat × List String := path.steps.foldl settle (0, [])

/-- The steps of a normal form are settled. -/
theorem settled_normalize (path : Path) : path.normalize.settled = path.settled := by
  obtain ⟨ups, names, spelled, same, isStep, -⟩ := path.normalize_spec
  show path.normalize.steps.foldl settle (0, []) = path.steps.foldl settle (0, [])
  rw [← same, spelled, (steps_spell isStep).1, List.foldl_append, foldl_settle_ups,
    foldl_settle_names isStep, Nat.zero_add, List.append_nil]

theorem isAbsolute_normalize_eq (path : Path) : path.normalize.isAbsolute = path.isAbsolute := by
  obtain ⟨ups, names, spelled, -, isStep, -⟩ := path.normalize_spec
  rw [spelled, (steps_spell isStep).2]

theorem normalize_normalize (path : Path) : path.normalize.normalize = path.normalize := by
  have same := path.settled_normalize
  unfold settled at same
  rw [normalize_eq path.normalize, same, isAbsolute_normalize_eq, ← normalize_eq]

/-! ## What normal forms denote -/

/-- Steps up shorten the base folder, and names come behind what is left of it. -/
theorem denoted_eq (path : Path) (base : Location) :
    path.denoted base =
      above path.settled.1 (if path.isAbsolute then [] else base) ++ path.settled.2.reverse := by
  have whole := foldl_advance_eq path.steps (if path.isAbsolute then [] else base) (0, [])
  rw [denoted_eq_destination, destination, settled, ← whole]
  simp [above]

theorem denoted_normalize (path : Path) (base : Location) :
    path.normalize.denoted base = path.denoted base := by
  rw [denoted_eq, denoted_eq, settled_normalize, isAbsolute_normalize_eq]

/-- A folder that can be a base: its names can stand in a path. -/
def IsBase (base : Location) : Prop := ∀ name ∈ base, IsStep name

/-- What lies more steps up in a base folder of one name differs from what lies fewer steps up and
has names behind it: the names would depend on that one name. -/
theorem not_lt_of_above {ups ups' : Nat} {names names' : List String}
    (same : ∀ base, IsBase base → above ups base ++ names = above ups' base ++ names') :
    ¬ ups < ups' := by
  intro fewer
  have behind {name : String} (isStep : IsStep name) :
      List.replicate (ups' - ups) name ++ names = names' := by
    have base : IsBase (List.replicate ups' name) := fun other among =>
      List.eq_of_mem_replicate among ▸ isStep
    have deep := same _ base
    simpa [above, List.take_replicate] using deep
  have first := (behind (by decide : IsStep "a")).trans (behind (by decide : IsStep "b")).symm
  obtain ⟨more, cut⟩ : ∃ more, ups' - ups = more + 1 := ⟨ups' - ups - 1, by omega⟩
  rw [cut, List.replicate_succ, List.replicate_succ] at first
  exact absurd (List.cons.inj first).1 (by decide)

/-- Steps up and names are told by what they denote. -/
theorem eq_of_above {ups ups' : Nat} {names names' : List String}
    (same : ∀ base, IsBase base → above ups base ++ names = above ups' base ++ names') :
    ups = ups' ∧ names = names' := by
  have least := not_lt_of_above same
  have most := not_lt_of_above fun base h => (same base h).symm
  obtain rfl : ups = ups' := by omega
  exact ⟨rfl, List.append_cancel_left (same [] (List.forall_mem_nil _))⟩

/-- Relative paths have the same normal form if they denote the same. -/
theorem normalize_eq_of_denoted {path other : Path} (relative : path.isAbsolute = false)
    (relative' : other.isAbsolute = false)
    (same : ∀ base, IsBase base → path.denoted base = other.denoted base) :
    path.normalize = other.normalize := by
  have settled : path.settled.1 = other.settled.1 ∧
      path.settled.2.reverse = other.settled.2.reverse := by
    refine eq_of_above fun base h => ?_
    have here := same base h
    rw [denoted_eq, denoted_eq, relative, relative'] at here
    exact here
  unfold Path.settled at settled
  rw [normalize_eq, normalize_eq, relative, relative', settled.1, settled.2]

/-- The normal form of a path has no `.`, and no `..` behind a name. It is built from the components
of the path one by one, it is its own normal form, and it denotes what the path denotes. Relative
paths have the same normal form if and only if they denote the same from every base folder. -/
theorem normalize_is_normal_form :
    (∀ path : Path,
      (∃ (ups : Nat) (names : List String), path.normalize.components =
          (if path.isAbsolute then [.root] else []) ++
            (List.replicate ups .up ++ names.map .name) ∧ ∀ name ∈ names, IsStep name) ∧
      .here ∉ path.normalize.components ∧
      path.components.foldl extend ⟨""⟩ = path.normalize ∧
      path.normalize.normalize = path.normalize ∧
      ∀ base, path.normalize.denoted base = path.denoted base) ∧
    ∀ path other : Path, path.isAbsolute = false → other.isAbsolute = false →
      (path.normalize.same other.normalize = true ↔ path.normalize = other.normalize) ∧
      (path.normalize = other.normalize ↔
        ∀ base, IsBase base → path.denoted base = other.denoted base) := by
  refine ⟨fun path => ?_, fun path other relative relative' => ⟨same_normalize_iff, ?_, ?_⟩⟩
  · obtain ⟨ups, names, spelled, -, isStep, -⟩ := path.normalize_spec
    have shape := @components_spell path.isAbsolute ups _ isStep
    rw [← spelled] at shape
    refine ⟨⟨ups, names, shape, isStep⟩, ?_, path.foldl_extend, path.normalize_normalize,
      path.denoted_normalize⟩
    rw [shape]
    cases path.isAbsolute <;> simp
  · intro same base _
    rw [← denoted_normalize path, same, denoted_normalize]
  · exact normalize_eq_of_denoted relative relative'

/-- Two spellings of a file lead to it from every folder; behind a step up, another file is
meant. -/
theorem library_spelled_twice :
    (∀ base, IsBase base → (Path.mk "./src/../lib/a.ts").denoted base =
      (Path.mk "lib//./b/../a.ts").denoted base) ∧
    ¬ ∀ base, IsBase base → (Path.mk "../lib/a.ts").denoted base =
      (Path.mk "lib/a.ts").denoted base := by
  have spelled (path other : Path) := normalize_is_normal_form.2 path other
  constructor
  · exact (spelled ⟨"./src/../lib/a.ts"⟩ ⟨"lib//./b/../a.ts"⟩ (by decide) (by decide)).2.mp
      (by decide)
  · intro same
    exact absurd ((spelled ⟨"../lib/a.ts"⟩ ⟨"lib/a.ts"⟩ (by decide) (by decide)).2.mpr same)
      (by decide)

end Phrasebook.Path
