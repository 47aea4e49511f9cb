import Phrasebook.Path

/-!
# Steps of paths

What a path says, apart from how it is written: where it starts, and its pieces that are not blank.

- `Path.steps`: these pieces;
- `steps_join_relative`, `steps_parent`: what follows a path adds its steps, and the parent takes
  the last one away;
- `Path.Direct`: a path that never goes up after a name;
- `Path.spell`, `normalize_spec`: normal forms, of steps up and then names.
-/

namespace Phrasebook.Path

/-- The pieces of a path that are not blank. -/
def steps (path : Path) : List (List Char) :=
  (pieces path.text.toList).filter fun piece => !isBlank piece

/-! ## Pieces -/

theorem pieces_ne_nil (cs : List Char) : pieces cs ≠ [] := by
  cases cs with
  | nil => exact List.cons_ne_nil _ _
  | cons c rest =>
    unfold pieces
    split
    · exact List.cons_ne_nil _ _
    · split <;> exact List.cons_ne_nil _ _

theorem pieces_cons {c : Char} {rest piece : List Char} {others : List (List Char)} (h : c ≠ '/')
    (cut : pieces rest = piece :: others) : pieces (c :: rest) = (c :: piece) :: others := by
  rw [pieces, if_neg h, cut]

/-- A slash separates what stands before it from what stands after it. -/
theorem pieces_append_slash (cs others : List Char) :
    pieces (cs ++ '/' :: others) = pieces cs ++ pieces others := by
  induction cs with
  | nil => simp [pieces]
  | cons c rest ih =>
    by_cases h : c = '/'
    · simp [pieces, h, ih]
    · obtain ⟨piece, more, cut⟩ := List.exists_cons_of_ne_nil (pieces_ne_nil rest)
      rw [cut] at ih
      exact (pieces_cons h ih).trans (by rw [pieces_cons h cut]; rfl)

theorem pieces_of_clean {cs : List Char} (h : '/' ∉ cs) : pieces cs = [cs] := by
  induction cs with
  | nil => rfl
  | cons c rest ih =>
    obtain ⟨other, clean⟩ := not_or.mp (mt List.mem_cons.mpr h)
    exact pieces_cons (Ne.symm other) (ih clean)

theorem slash_notMem_of_mem_pieces {cs piece : List Char} (h : piece ∈ pieces cs) :
    '/' ∉ piece := by
  induction cs generalizing piece with
  | nil =>
    rw [List.mem_singleton.mp h]
    exact List.not_mem_nil
  | cons c rest ih =>
    by_cases slash : c = '/'
    · rw [pieces, if_pos slash] at h
      rcases List.mem_cons.mp h with rfl | later
      · exact List.not_mem_nil
      · exact ih later
    · obtain ⟨first, others, cut⟩ := List.exists_cons_of_ne_nil (pieces_ne_nil rest)
      rw [pieces_cons slash cut] at h
      rw [cut] at ih
      rcases List.mem_cons.mp h with rfl | later
      · exact mt List.mem_cons.mp (not_or.mpr ⟨Ne.symm slash, ih List.mem_cons_self⟩)
      · exact ih (List.mem_cons_of_mem _ later)

/-- Pieces are read back from their written form. -/
theorem pieces_joinPieces {body : List (List Char)} (some : body ≠ [])
    (clean : ∀ piece ∈ body, '/' ∉ piece) : pieces (joinPieces body) = body := by
  induction body with
  | nil => exact absurd rfl some
  | cons piece rest ih =>
    have first := pieces_of_clean (clean piece List.mem_cons_self)
    cases rest with
    | nil => exact first
    | cons next others =>
      have later := ih (List.cons_ne_nil _ _) fun piece h => clean piece (List.mem_cons_of_mem _ h)
      show pieces (piece ++ '/' :: joinPieces (next :: others)) = _
      rw [pieces_append_slash, first, later, List.singleton_append]

/-! ## Joining a name -/

theorem isAbsolute_of_clean {name : String} (clean : '/' ∉ name.toList) :
    (Path.mk name).isAbsolute = false := by
  unfold isAbsolute
  cases written : name.toList with
  | nil => rfl
  | cons c rest =>
    rw [written] at clean
    have other : c ≠ '/' := Ne.symm (not_or.mp (mt List.mem_cons.mpr clean)).1
    simp [other]

theorem prefix_join {folder : Path} {name : String} (clean : '/' ∉ name.toList) :
    folder.text.toList <+: (folder.join name).text.toList := by
  unfold join
  rw [isAbsolute_of_clean clean, if_neg Bool.false_ne_true]
  split <;> simp [String.toList_append]

/-- What follows a path adds its own steps and keeps where the path starts. -/
theorem steps_join_relative {folder : Path} {name : String}
    (relative : (Path.mk name).isAbsolute = false) :
    (folder.join name).steps = folder.steps ++ (Path.mk name).steps ∧
      (folder.join name).isAbsolute = folder.isAbsolute := by
  unfold join
  rw [relative, if_neg Bool.false_ne_true]
  split
  case isTrue ends =>
    rw [Bool.or_eq_true] at ends
    rcases ends with empty | slash
    · have none : folder.text = "" := String.isEmpty_iff.mp empty
      refine ⟨?_, ?_⟩
      · unfold steps
        rw [none, String.empty_append]
        rfl
      · rw [none, String.empty_append]
        exact relative.trans (by simp [isAbsolute, none])
    · -- The folder ends in a slash, which parts it from the name.
      have last : folder.text.toList.getLast? = some '/' := by simpa using slash
      obtain ⟨shorter, written⟩ : ∃ shorter, folder.text.toList = shorter ++ ['/'] :=
        List.getLast?_eq_some_iff.mp last
      constructor
      · unfold steps
        rw [String.toList_append, written, List.append_assoc, List.singleton_append,
          pieces_append_slash, pieces_append_slash, List.filter_append, List.filter_append]
        simp [pieces, isBlank]
      · unfold isAbsolute
        rw [String.toList_append, written]
        cases shorter <;> rfl
  case isFalse inside =>
    -- A slash is written between the two.
    have some : folder.text.toList ≠ [] := by
      intro none
      simp [String.toList_eq_nil_iff.mp none] at inside
    constructor
    · unfold steps
      show (pieces (folder.text ++ "/" ++ name).toList).filter _ = _
      rw [String.toList_append, String.toList_append, List.append_assoc]
      show (pieces (folder.text.toList ++ '/' :: name.toList)).filter _ = _
      rw [pieces_append_slash, List.filter_append]
    · unfold isAbsolute
      rw [String.toList_append, String.toList_append]
      obtain ⟨c, rest, written⟩ := List.exists_cons_of_ne_nil some
      rw [written]
      rfl

/-- A name after a path adds one step and keeps where the path starts. -/
theorem steps_join {folder : Path} {name : String} (clean : '/' ∉ name.toList)
    (said : isBlank name.toList = false) :
    (folder.join name).steps = folder.steps ++ [name.toList] ∧
      (folder.join name).isAbsolute = folder.isAbsolute := by
  have alone : (Path.mk name).steps = [name.toList] := by
    unfold steps
    rw [pieces_of_clean clean]
    simp [said]
  exact alone ▸ steps_join_relative (isAbsolute_of_clean clean)

/-- What follows a path is read off it again. -/
theorem join_inj {folder : Path} {name other : String}
    (relative : (Path.mk name).isAbsolute = false) (relative' : (Path.mk other).isAbsolute = false)
    (same : folder.join name = folder.join other) : name = other := by
  unfold join at same
  rw [relative, relative'] at same
  simp only [Bool.false_eq_true, if_false] at same
  have cut {front : String} (same : Path.mk (front ++ name) = ⟨front ++ other⟩) : name = other := by
    have written := congrArg (fun path => path.text.toList) same
    simp only [String.toList_append] at written
    exact String.toList_inj.mp (List.append_cancel_left written)
  split at same <;> exact cut same

/-! ## The folder of a path -/

theorem filter_trimEnd (body : List (List Char)) :
    (trimEnd body).filter (fun piece => !isBlank piece) =
      body.filter fun piece => !isBlank piece := by
  have dropped (pieces : List (List Char)) :
      (pieces.dropWhile isBlank).filter (fun piece => !isBlank piece) =
        pieces.filter fun piece => !isBlank piece := by
    induction pieces with
    | nil => rfl
    | cons piece rest ih =>
      by_cases blank : isBlank piece
      · rw [List.dropWhile_cons, if_pos blank, ih, List.filter_cons, if_neg (by simp [blank])]
      · rw [List.dropWhile_cons, if_neg blank]
  unfold trimEnd
  rw [List.filter_reverse, dropped, ← List.filter_reverse, List.reverse_reverse]

theorem not_isBlank_of_trimEnd {body others : List (List Char)} {last : List Char}
    (h : (trimEnd body).reverse = last :: others) : isBlank last = false := by
  unfold trimEnd at h
  rw [List.reverse_reverse] at h
  have some : body.reverse.dropWhile isBlank ≠ [] := h ▸ List.cons_ne_nil _ _
  have head := List.head_dropWhile_not isBlank some
  simpa [h] using head

theorem prefix_trimEnd (body : List (List Char)) : trimEnd body <+: body := by
  have dropped := List.dropWhile_suffix isBlank (l := body.reverse)
  rwa [← List.reverse_prefix, List.reverse_reverse] at dropped

theorem parts_start (path : Path) :
    path.parts.start = some .root ∨ path.parts.start = some .here ∨
      (path.parts.start = none ∧ path.parts.body = pieces path.text.toList) := by
  unfold parts
  split
  · exact .inl rfl
  · exact .inr (.inl rfl)
  · exact .inr (.inr ⟨rfl, rfl⟩)

/-- Only the empty path is relative and starts with an empty piece. -/
theorem body_of_relative {path : Path} (relative : path.parts.start = none)
    (h : path.parts.body.head? = some []) : path.parts.body = [[]] := by
  obtain ⟨others, written⟩ := List.head?_eq_some_iff.mp h
  cases others with
  | nil => exact written
  | cons second rest =>
    rcases path.parts_start with root | here | ⟨-, whole⟩
    · rw [root] at relative
      cases relative
    · rw [here] at relative
      cases relative
    · rw [whole] at written
      simp only [parts, written] at relative
      cases relative

/-- What stands apart from the body of a path is blank. -/
theorem filter_body (path : Path) :
    path.parts.body.filter (fun piece => !isBlank piece) = path.steps := by
  unfold steps parts
  split
  case h_1 second rest written => rw [written]; rfl
  case h_2 rest written => rw [written]; rfl
  case h_3 => rfl

theorem mem_pieces_of_mem_body {path : Path} {piece : List Char} (h : piece ∈ path.parts.body) :
    piece ∈ pieces path.text.toList := by
  unfold parts at h
  split at h
  case h_1 second rest written => exact written ▸ List.mem_cons_of_mem _ h
  case h_2 rest written => exact written ▸ List.mem_cons_of_mem _ h
  case h_3 => exact h

/-- A path starts at the root if its first piece is empty and others follow. -/
theorem isAbsolute_eq (path : Path) : path.isAbsolute = (path.parts.start == some .root) := by
  unfold isAbsolute parts
  cases written : path.text.toList with
  | nil => rfl
  | cons c rest =>
    obtain ⟨piece, others, cut⟩ := List.exists_cons_of_ne_nil (pieces_ne_nil rest)
    by_cases slash : c = '/'
    · rw [pieces, if_pos slash, cut, slash]
      rfl
    · rw [pieces_cons slash cut]
      have first : ((c :: rest).head? == some '/') = false := by simp [slash]
      rw [first]
      split
      case h_1 same => cases same
      case h_2 => rfl
      case h_3 => rfl

/-- The pieces of a path are those of its written form, if a relative path is not written like one
from the root. -/
theorem steps_ofParts {start : Option Component} {body : List (List Char)}
    (known : start = some .root ∨ start = some .here ∨ start = none ∧ body.head? ≠ some [])
    (clean : ∀ piece ∈ body, '/' ∉ piece) :
    (ofParts ⟨start, body⟩).steps = body.filter (fun piece => !isBlank piece) ∧
      (ofParts ⟨start, body⟩).isAbsolute = (start == some .root) := by
  -- Only a body without pieces is not read back as it was written, and it has no steps.
  have read (some : body ≠ []) := pieces_joinPieces some clean
  rcases known with rfl | rfl | ⟨rfl, led⟩
  · refine ⟨?_, by simp [ofParts, isAbsolute]⟩
    unfold ofParts steps
    rw [String.toList_ofList, pieces, if_pos rfl]
    cases body with
    | nil => rfl
    | cons piece rest => rw [read (List.cons_ne_nil _ _)]; rfl
  · have written : pieces (joinPieces (['.'] :: body)) = ['.'] :: body :=
      pieces_joinPieces (List.cons_ne_nil _ _) (by simpa using clean)
    refine ⟨?_, ?_⟩
    · unfold ofParts steps
      rw [String.toList_ofList, written]
      rfl
    · unfold ofParts isAbsolute
      rw [String.toList_ofList]
      cases body <;> rfl
  · unfold ofParts steps isAbsolute
    rw [String.toList_ofList]
    cases body with
    | nil => exact ⟨rfl, rfl⟩
    | cons piece rest =>
      refine ⟨by rw [read (List.cons_ne_nil _ _)], ?_⟩
      cases piece with
      | nil => exact absurd rfl led
      | cons c cs =>
        have other : c ≠ '/' := fun same =>
          clean _ List.mem_cons_self (same ▸ List.mem_cons_self)
        cases rest <;> simp [joinPieces, other]

/-- The parent of a path lacks its last step and starts where it starts. -/
theorem steps_parent {path folder : Path} (h : path.parent? = some folder) :
    folder.steps = path.steps.dropLast ∧ folder.isAbsolute = path.isAbsolute := by
  have known := path.parts_start
  rw [isAbsolute_eq path, ← filter_body path, ← filter_trimEnd]
  have clean (piece : List Char) (h : piece ∈ path.parts.body) : '/' ∉ piece :=
    slash_notMem_of_mem_pieces (mem_pieces_of_mem_body h)
  simp only [parent?] at h
  split at h
  case h_1 start last others written =>
    cases h
    have said := not_isBlank_of_trimEnd written
    have cut : trimEnd path.parts.body = others.reverse ++ [last] := by
      rw [← List.reverse_reverse (trimEnd path.parts.body), written, List.reverse_cons]
    -- What is left is a beginning of the body, so its pieces are known to hold no slash.
    have kept : trimEnd others.reverse <+: path.parts.body :=
      ((prefix_trimEnd _).trans (cut ▸ List.prefix_append _ _)).trans (prefix_trimEnd _)
    have steps : (trimEnd path.parts.body).filter (fun piece => !isBlank piece) =
        others.reverse.filter (fun piece => !isBlank piece) ++ [last] := by
      rw [cut, List.filter_append]
      simp [said]
    rw [steps, List.dropLast_concat, ← filter_trimEnd others.reverse]
    refine steps_ofParts ?_ fun piece h => clean piece (kept.subset h)
    rcases known with root | here | ⟨relative, -⟩
    · exact .inl root
    · exact .inr (.inl here)
    · refine .inr (.inr ⟨relative, fun empty => ?_⟩)
      -- An empty first piece would be the only one, but the last piece stands after it.
      obtain ⟨more, first⟩ := List.head?_eq_some_iff.mp empty
      obtain ⟨rest, whole⟩ := kept
      have only := body_of_relative relative (by rw [← whole, first]; rfl)
      have short := (prefix_trimEnd path.parts.body).length_le
      have long := (prefix_trimEnd others.reverse).length_le
      rw [cut, only, List.length_append] at short
      rw [first] at long
      simp only [List.length_cons, List.length_nil] at short long
      omega
  case h_2 none here =>
    cases h
    rw [List.reverse_eq_nil_iff.mp none, here]
    exact ⟨rfl, rfl⟩
  case h_3 => cases h

theorem mem_of_mem_pieces {cs piece : List Char} {c : Char} (h : piece ∈ pieces cs)
    (here : c ∈ piece) : c ∈ cs := by
  induction cs generalizing piece with
  | nil =>
    rw [List.mem_singleton.mp h] at here
    cases here
  | cons d rest ih =>
    obtain ⟨first, others, cut⟩ := List.exists_cons_of_ne_nil (pieces_ne_nil rest)
    by_cases slash : d = '/'
    · rw [pieces, if_pos slash, List.mem_cons] at h
      rcases h with rfl | h
      · cases here
      · exact List.mem_cons_of_mem _ (ih h here)
    · rw [pieces_cons slash cut, List.mem_cons] at h
      rcases h with rfl | h
      · rcases List.mem_cons.mp here with rfl | here
        · exact List.mem_cons_self
        · exact List.mem_cons_of_mem _ (ih (cut ▸ List.mem_cons_self) here)
      · exact List.mem_cons_of_mem _ (ih (cut ▸ List.mem_cons_of_mem _ h) here)

/-- Every character but a slash stands in a piece. -/
theorem exists_mem_pieces {cs : List Char} {c : Char} (h : c ∈ cs) (other : c ≠ '/') :
    ∃ piece ∈ pieces cs, c ∈ piece := by
  induction cs with
  | nil => cases h
  | cons d rest ih =>
    obtain ⟨first, others, cut⟩ := List.exists_cons_of_ne_nil (pieces_ne_nil rest)
    by_cases slash : d = '/'
    · rw [pieces, if_pos slash]
      obtain ⟨piece, among, here⟩ := ih ((List.mem_cons.mp h).resolve_left fun same =>
        other (same.trans slash))
      exact ⟨piece, List.mem_cons_of_mem _ among, here⟩
    · rw [pieces_cons slash cut]
      rcases List.mem_cons.mp h with rfl | later
      · exact ⟨_, List.mem_cons_self, List.mem_cons_self⟩
      · obtain ⟨piece, among, here⟩ := ih later
        rw [cut] at among
        rcases List.mem_cons.mp among with rfl | among
        · exact ⟨_, List.mem_cons_self, List.mem_cons_of_mem _ here⟩
        · exact ⟨piece, List.mem_cons_of_mem _ among, here⟩

theorem mem_joinPieces {body : List (List Char)} {c : Char} (here : c ∈ joinPieces body) :
    c = '/' ∨ ∃ piece ∈ body, c ∈ piece := by
  induction body with
  | nil => cases here
  | cons piece rest ih =>
    cases rest with
    | nil => exact .inr ⟨piece, List.mem_cons_self, here⟩
    | cons next more =>
      rw [joinPieces, List.mem_append, List.mem_cons] at here
      · rcases here with here | slash | here
        · exact .inr ⟨piece, List.mem_cons_self, here⟩
        · exact .inl slash
        · exact (ih here).imp_right fun ⟨piece, h, here⟩ => ⟨piece, List.mem_cons_of_mem _ h, here⟩
      · exact List.cons_ne_nil _ _

theorem mem_ofParts {written : Parts} {c : Char} (here : c ∈ (ofParts written).text.toList) :
    c = '/' ∨ c = '.' ∨ ∃ piece ∈ written.body, c ∈ piece := by
  unfold ofParts at here
  split at here
  · rw [String.toList_ofList, List.mem_cons] at here
    rcases here with slash | here
    · exact .inl slash
    · exact (mem_joinPieces here).imp_right .inr
  · rw [String.toList_ofList] at here
    rcases mem_joinPieces here with slash | ⟨piece, h, here⟩
    · exact .inl slash
    · rcases List.mem_cons.mp h with rfl | h
      · exact .inr (.inl (List.mem_singleton.mp here))
      · exact .inr (.inr ⟨piece, h, here⟩)
  · rw [String.toList_ofList] at here
    exact (mem_joinPieces here).imp_right .inr

/-- The parent of a path is written with the characters of the path. -/
theorem mem_parent {path folder : Path} (h : path.parent? = some folder) {c : Char}
    (here : c ∈ folder.text.toList) : c = '/' ∨ c = '.' ∨ c ∈ path.text.toList := by
  simp only [parent?] at h
  split at h
  case h_1 start last others cut =>
    cases h
    refine (mem_ofParts here).imp_right (.imp_right ?_)
    rintro ⟨piece, among, here⟩
    have reversed : piece ∈ (trimEnd path.parts.body).reverse :=
      cut ▸ List.mem_cons_of_mem _ (List.mem_reverse.mp ((prefix_trimEnd _).subset among))
    exact mem_of_mem_pieces
      (mem_pieces_of_mem_body ((prefix_trimEnd _).subset (List.mem_reverse.mp reversed))) here
  case h_2 =>
    cases h
    cases here
  case h_3 => cases h

/-! ## Direct paths -/

/-- A path that never goes up after a name. -/
def Direct (path : Path) : Prop :=
  path.steps.Pairwise fun earlier later => later = ['.', '.'] → earlier = ['.', '.']

instance (path : Path) : Decidable path.Direct := inferInstanceAs (Decidable (List.Pairwise ..))

theorem Direct.join {folder : Path} (direct : folder.Direct) {name : String}
    (clean : '/' ∉ name.toList) (forward : name.toList ≠ ['.', '.']) :
    (folder.join name).Direct := by
  have alone : List.Sublist (Path.mk name).steps [name.toList] := by
    unfold steps
    rw [pieces_of_clean clean]
    exact List.filter_sublist
  unfold Direct
  rw [(steps_join_relative (isAbsolute_of_clean clean)).1, List.pairwise_append]
  refine ⟨direct, (List.pairwise_singleton _ _).sublist alone, fun earlier _ later h up => ?_⟩
  exact absurd (List.mem_singleton.mp (alone.subset h) ▸ up) forward

/-! ## Normal form -/

/-- A name that is one piece and no step up. -/
def IsStep (name : String) : Prop :=
  '/' ∉ name.toList ∧ isBlank name.toList = false ∧ name.toList ≠ ['.', '.']

instance (name : String) : Decidable (IsStep name) := inferInstanceAs (Decidable (_ ∧ _ ∧ _))

/-- The path of so many steps up and then some names, from the root or not. -/
def spell (rooted : Bool) (ups : Nat) (names : List String) : Path :=
  ofParts ⟨if rooted then some .root else none,
    List.replicate ups ['.', '.'] ++ names.map String.toList⟩

/-- One step further behind so many steps up and then some names, the last one first: a step up
takes a name back. -/
def settle : Nat × List String → List Char → Nat × List String
  | (ups, names), piece =>
    if piece = ['.', '.'] then
      match names with
      | [] => (ups + 1, [])
      | _ :: rest => (ups, rest)
    else (ups, String.ofList piece :: names)

theorem settle_up (ups : Nat) : settle (ups, []) ['.', '.'] = (ups + 1, []) := rfl

theorem settle_back (ups : Nat) (name : String) (rest : List String) :
    settle (ups, name :: rest) ['.', '.'] = (ups, rest) := rfl

theorem settle_name {piece : List Char} (h : piece ≠ ['.', '.']) (ups : Nat)
    (names : List String) : settle (ups, names) piece = (ups, String.ofList piece :: names) :=
  if_neg h

/-- The trail of so many steps up and then some names, the last one first. -/
def trailOf (rooted : Bool) : Nat × List String → List Component
  | (ups, names) => names.map .name ++ (List.replicate ups .up ++ if rooted then [.root] else [])

theorem follow_trailOf (rooted : Bool) (settled : Nat × List String) (piece : List Char) :
    follow (trailOf rooted settled) (componentOf piece) =
      trailOf rooted (settle settled piece) := by
  obtain ⟨ups, names⟩ := settled
  by_cases up : piece = ['.', '.']
  · subst up
    cases names with
    | cons name rest => rfl
    | nil => cases ups <;> cases rooted <;> rfl
  · rw [settle_name up, componentOf, if_neg up]
    rfl

theorem foldl_follow_trailOf (rooted : Bool) (steps : List (List Char))
    (settled : Nat × List String) :
    (steps.map componentOf).foldl follow (trailOf rooted settled) =
      trailOf rooted (steps.foldl settle settled) := by
  induction steps generalizing settled with
  | nil => rfl
  | cons piece rest ih =>
    rw [List.map_cons, List.foldl_cons, follow_trailOf, ih, List.foldl_cons]

theorem ofComponents_eq (rooted : Bool) (ups : Nat) (names : List String) :
    ofComponents ((if rooted then [.root] else []) ++ (List.replicate ups .up ++ names.map .name)) =
      spell rooted ups names := by
  unfold spell
  cases rooted with
  | true => simp [ofComponents, ofParts, Function.comp_def]
  | false =>
    cases ups with
    | succ fewer => simp [ofComponents, ofParts, List.replicate_succ, Function.comp_def]
    | zero => cases names <;> simp [ofComponents, ofParts, Function.comp_def]

theorem components_eq (path : Path) :
    path.components = path.parts.start.toList ++ path.steps.map componentOf := by
  rw [components, filter_body]

/-- The normal form of a path by its steps. -/
theorem normalize_eq (path : Path) :
    path.normalize = spell path.isAbsolute (path.steps.foldl settle (0, [])).1
      (path.steps.foldl settle (0, [])).2.reverse := by
  have start : path.parts.start.toList.foldl follow [] = trailOf path.isAbsolute (0, []) := by
    rw [isAbsolute_eq]
    rcases path.parts_start with start | start | ⟨start, -⟩ <;> rw [start] <;> rfl
  rw [normalize, components_eq, List.foldl_append, start, foldl_follow_trailOf, ← ofComponents_eq]
  cases path.isAbsolute <;> simp [trailOf]

/-- A step is a step up or a name. -/
theorem isStep_of_mem_steps {path : Path} {piece : List Char} (h : piece ∈ path.steps)
    (forward : piece ≠ ['.', '.']) : IsStep (String.ofList piece) := by
  obtain ⟨among, said⟩ := List.mem_filter.mp h
  unfold IsStep
  rw [String.toList_ofList]
  exact ⟨slash_notMem_of_mem_pieces among, by simpa using said, forward⟩

/-- Steps settle to names that are steps, and to no more steps up than there are steps. -/
theorem foldl_settle_spec {steps : List (List Char)} {settled : Nat × List String}
    (known : ∀ piece ∈ steps, piece ≠ ['.', '.'] → IsStep (String.ofList piece))
    (names : ∀ name ∈ settled.2, IsStep name) :
    (∀ name ∈ (steps.foldl settle settled).2, IsStep name) ∧
      (steps.foldl settle settled).1 ≤ settled.1 + steps.length := by
  induction steps generalizing settled with
  | nil => exact ⟨names, Nat.le_refl _⟩
  | cons piece rest ih =>
    obtain ⟨first, later⟩ := List.forall_mem_cons.mp known
    obtain ⟨ups, before⟩ := settled
    have step : (∀ name ∈ (settle (ups, before) piece).2, IsStep name) ∧
        (settle (ups, before) piece).1 ≤ ups + 1 := by
      by_cases up : piece = ['.', '.']
      · subst up
        cases before with
        | nil => exact ⟨names, Nat.le_refl _⟩
        | cons name others =>
          exact ⟨fun name h => names name (List.mem_cons_of_mem _ h), Nat.le_succ _⟩
      · rw [settle_name up]
        exact ⟨List.forall_mem_cons.mpr ⟨first up, names⟩, Nat.le_succ _⟩
    obtain ⟨isStep, few⟩ := ih later step.1
    have one := step.2
    refine ⟨isStep, ?_⟩
    rw [List.foldl_cons, List.length_cons]
    omega

/-- Every path has a normal form of so many steps up, no more than it has steps, and names. -/
theorem normalize_spec (path : Path) :
    ∃ ups names, path.normalize = spell path.isAbsolute ups names ∧
      (ups, names.reverse) = path.steps.foldl settle (0, []) ∧
        (∀ name ∈ names, IsStep name) ∧ ups ≤ path.steps.length := by
  obtain ⟨isStep, few⟩ := @foldl_settle_spec path.steps (0, [])
    (fun piece h => isStep_of_mem_steps h) (by simp)
  refine ⟨_, _, path.normalize_eq, by simp, fun name h => ?_, by simpa using few⟩
  exact isStep name (List.mem_reverse.mp h)

section

variable {rooted : Bool} {ups : Nat} {names : List String}

theorem isStep_of_mem_map {piece : List Char} (isStep : ∀ name ∈ names, IsStep name)
    (h : piece ∈ names.map String.toList) :
    '/' ∉ piece ∧ isBlank piece = false ∧ piece ≠ ['.', '.'] := by
  obtain ⟨name, here, rfl⟩ := List.mem_map.mp h
  exact isStep name here

/-- A normal form has the steps that it is made of, and starts where it says. -/
theorem steps_spell (isStep : ∀ name ∈ names, IsStep name) :
    (spell rooted ups names).steps =
        List.replicate ups ['.', '.'] ++ names.map String.toList ∧
      (spell rooted ups names).isAbsolute = rooted := by
  have said : ∀ piece ∈ List.replicate ups ['.', '.'] ++ names.map String.toList,
      '/' ∉ piece ∧ isBlank piece = false := by
    intro piece h
    rcases List.mem_append.mp h with up | name
    · rw [List.eq_of_mem_replicate up]
      decide
    · exact ⟨(isStep_of_mem_map isStep name).1, (isStep_of_mem_map isStep name).2.1⟩
  have known : (if rooted then some Component.root else none) = some .root ∨
      (if rooted then some Component.root else none) = some .here ∨
      (if rooted then some Component.root else none) = none ∧
        (List.replicate ups ['.', '.'] ++ names.map String.toList).head? ≠ some [] := by
    cases rooted with
    | true => exact .inl rfl
    | false =>
      refine .inr (.inr ⟨rfl, fun empty => ?_⟩)
      have blank := (said [] (List.mem_of_mem_head? empty)).2
      cases blank
  obtain ⟨steps, absolute⟩ := steps_ofParts known fun piece h => (said piece h).1
  refine ⟨steps.trans (List.filter_eq_self.mpr fun piece h => by simp [(said piece h).2]), ?_⟩
  rw [spell, absolute]
  cases rooted <;> rfl

/-- A normal form never goes up after a name. -/
theorem direct_spell (isStep : ∀ name ∈ names, IsStep name) : (spell rooted ups names).Direct := by
  unfold Direct
  rw [(steps_spell isStep).1]
  refine List.pairwise_append.mpr ⟨?_, ?_, ?_⟩
  · exact List.pairwise_replicate.mpr (.inr fun _ => rfl)
  · exact List.pairwise_of_forall_mem_list fun _ _ later h up =>
      absurd up (isStep_of_mem_map isStep h).2.2
  · intro earlier up _ _ _
    exact List.eq_of_mem_replicate up

end

theorem direct_normalize (path : Path) : path.normalize.Direct := by
  obtain ⟨ups, names, spelled, -, isStep, -⟩ := path.normalize_spec
  exact spelled ▸ direct_spell isStep

/-! ## Absolute paths -/

theorem isAbsolute_join {base : Path} {other : String} (h : base.isAbsolute = true) :
    (base.join other).isAbsolute = true := by
  unfold join
  split
  · assumption
  · have led {more : String} : (Path.mk (base.text ++ more)).isAbsolute = true := by
      unfold isAbsolute at h ⊢
      cases written : base.text.toList with
      | nil =>
        rw [written] at h
        cases h
      | cons c rest =>
        rw [written] at h
        rw [String.toList_append, written]
        exact h
    split
    · exact led
    · rw [String.append_assoc]
      exact led

theorem isAbsolute_normalize {path : Path} (h : path.isAbsolute = true) :
    path.normalize.isAbsolute = true := by
  obtain ⟨ups, names, spelled, -, isStep, -⟩ := path.normalize_spec
  rw [spelled, (steps_spell isStep).2, h]

end Phrasebook.Path
