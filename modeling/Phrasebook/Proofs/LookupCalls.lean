import Mathlib.Data.List.Sigma
import Phrasebook.Numbering.Apply
import Phrasebook.Proofs.OrderedMap

/-!
# Calls that both passes see

Extraction and numbering walk through the same nodes of the root files, and each decides for itself
which of them are lookups. They agree: every call site that is recorded is a lookup that numbering
edits, keeps or reports.

- `Source.Node.Within`, `mem_preorderAll_iff`: a walk visits a node exactly if it is nested in the
  nodes that it starts from;
- `PlacedLookup`, `Program.lookupsIn`: the lookups of a file, and what either pass makes of one;
- `Extraction.Records`, `Extraction.recorded_of_ofProgram`: what extraction has recorded behind some
  nodes, and behind all;
- `Numbering.handles_recorded_calls`: recorded calls and handled calls are the same.
-/

namespace Phrasebook

open Source

/-! ## Nested nodes -/

namespace Source.Node

/-- The node is one of some nodes, or nested in one of them at any depth. -/
inductive Within (nodes : List Node) : Node → Prop where
  | here {node : Node} (h : node ∈ nodes) : Within nodes node
  | part {node part : Node} (h : Within nodes node) (below : part ∈ node.children) :
    Within nodes part

theorem preorderAll_append (nodes others : List Node) :
    preorderAll (nodes ++ others) = preorderAll nodes ++ preorderAll others := by
  induction nodes with
  | nil => rfl
  | cons node rest ih => rw [List.cons_append, preorderAll, preorderAll, ih, List.append_assoc]

/-- A node is visited before its parts, and these in order. -/
theorem preorder_eq (node : Node) : preorder node = node :: preorderAll node.children := by
  cases node <;> simp [preorder, preorderAll, children, preorderAll_append]

theorem preorderAll_cons (node : Node) (rest : List Node) :
    preorderAll (node :: rest) = node :: (preorderAll node.children ++ preorderAll rest) := by
  rw [preorderAll, preorder_eq, List.cons_append]

/-- What holds of no nodes, and of a node in front of others if it holds of its parts and of the
others, holds of all lists of nodes. -/
theorem forest_induction {motive : List Node → Prop} (nil : motive [])
    (cons : ∀ node rest, motive node.children → motive rest → motive (node :: rest)) :
    ∀ nodes, motive nodes
  | [] => nil
  | node :: rest =>
    cons node rest (forest_induction nil cons node.children) (forest_induction nil cons rest)
termination_by nodes => (preorderAll nodes).length
decreasing_by
  all_goals
    rw [preorderAll_cons]
    simp only [List.length_cons, List.length_append]
    omega

/-- What holds of every node whose parts it holds of, holds of all nodes. -/
theorem part_induction {motive : Node → Prop}
    (step : ∀ node, (∀ part ∈ node.children, motive part) → motive node) (node : Node) :
    motive node := by
  have all : ∀ nodes : List Node, ∀ part ∈ nodes, motive part := by
    intro nodes
    induction nodes using forest_induction with
    | nil => exact fun _ h => nomatch h
    | cons first rest ihParts ihRest =>
      intro part h
      rcases List.mem_cons.mp h with rfl | later
      · exact step part ihParts
      · exact ihRest part later
  exact all [node] node List.mem_cons_self

theorem Within.of_children {node other : Node} {nodes : List Node} (h : Within node.children other)
    (here : node ∈ nodes) : Within nodes other := by
  induction h with
  | here h => exact .part (.here here) h
  | part _ below ih => exact .part ih below

theorem Within.of_rest {node other : Node} {rest : List Node} (h : Within rest other) :
    Within (node :: rest) other := by
  induction h with
  | here h => exact .here (List.mem_cons_of_mem _ h)
  | part _ below ih => exact .part ih below

theorem mem_preorderAll {node : Node} {nodes : List Node} (h : node ∈ nodes) :
    node ∈ preorderAll nodes := by
  induction nodes with
  | nil => cases h
  | cons first rest ih =>
    rw [preorderAll_cons]
    rcases List.mem_cons.mp h with rfl | later
    · exact List.mem_cons_self
    · exact List.mem_cons_of_mem _ (List.mem_append_right _ (ih later))

/-- A walk that visits a node visits its parts. -/
theorem mem_preorderAll_of_children {node part : Node} {nodes : List Node}
    (h : node ∈ preorderAll nodes) (below : part ∈ node.children) : part ∈ preorderAll nodes := by
  induction nodes using forest_induction with
  | nil => cases h
  | cons first rest ihParts ihRest =>
    rw [preorderAll_cons] at h ⊢
    refine List.mem_cons_of_mem _ (List.mem_append.mpr ?_)
    rcases List.mem_cons.mp h with rfl | later
    · exact .inl (mem_preorderAll below)
    · exact (List.mem_append.mp later).imp ihParts ihRest

/-- A walk visits exactly the nodes that are nested in those that it starts from. -/
theorem mem_preorderAll_iff {node : Node} {nodes : List Node} :
    node ∈ preorderAll nodes ↔ Within nodes node := by
  constructor
  · intro h
    induction nodes using forest_induction with
    | nil => cases h
    | cons first rest ihParts ihRest =>
      rw [preorderAll_cons] at h
      rcases List.mem_cons.mp h with rfl | later
      · exact .here List.mem_cons_self
      · rcases List.mem_append.mp later with inside | behind
        · exact (ihParts inside).of_children List.mem_cons_self
        · exact (ihRest behind).of_rest
  · intro h
    induction h with
    | here h => exact mem_preorderAll h
    | part _ below ih => exact mem_preorderAll_of_children ih below

end Source.Node

/-! ## Lookups -/

namespace LookupCall

variable {program : Program} {file : Nat} {callee : Node} {arguments : List Node}
  {lookup : LookupCall}

theorem literal_eq_ok {fault : CallFault} {node : Node} {text : String} {start stop : Nat}
    (h : literal fault node = .ok (text, start, stop)) :
    ∃ content, node = .text start stop content ∧ content.text? = some text := by
  unfold literal at h
  split at h
  · cases h
  · rename_i content
    cases found : content.text? with
    | none => rw [found] at h; cases h
    | some text => rw [found] at h; cases h; exact ⟨content, rfl, found⟩
  · cases h

/-- What a lookup knows about its call: its key is the text of an argument, and its namespace can
name a table file. -/
theorem ok_of_classify (h : classify program file callee arguments = some (.ok lookup)) :
    (∃ content, .text lookup.keyStart lookup.keyStop content ∈ arguments ∧
      content.text? = some lookup.identity.key) ∧
    isValidSpace lookup.identity.space = true := by
  unfold classify at h
  split at h
  · -- A lookup by its key, which is the first argument.
    cases arguments with
    | nil => cases h
    | cons first rest =>
      rcases read : literal .keyNotLiteral first with _ | ⟨key, start, stop⟩
      · simp [ofArguments, read, bind, Except.bind] at h
      · obtain ⟨content, rfl, text⟩ := literal_eq_ok read
        simp only [ofArguments, read, bind, Except.bind, pure, Except.pure, Option.some.injEq,
          Except.ok.injEq] at h
        subst h
        exact ⟨⟨content, List.mem_cons_self, text⟩,
          (by decide : isValidSpace Identity.defaultSpace = true)⟩
  · -- A lookup with a namespace, which comes first and has to be valid.
    match arguments with
    | [] | [_] => cases h
    | first :: second :: rest =>
      rcases readSpace : literal .namespaceNotLiteral first with _ | ⟨space, start', stop'⟩
      · simp [ofSpacedArguments, readSpace, bind, Except.bind] at h
      · by_cases valid : isValidSpace space = true
        · rcases read : literal .keyNotLiteral second with _ | ⟨key, start, stop⟩
          · simp [ofSpacedArguments, readSpace, valid, read, bind, Except.bind] at h
          · obtain ⟨content, rfl, text⟩ := literal_eq_ok read
            simp only [ofSpacedArguments, readSpace, valid, if_true, read, bind, Except.bind, pure,
              Except.pure, Option.some.injEq, Except.ok.injEq] at h
            subst h
            exact ⟨⟨content, List.mem_cons_of_mem _ List.mem_cons_self, text⟩, valid⟩
        · simp [ofSpacedArguments, readSpace, valid, bind, Except.bind, throw, throwThe,
            MonadExceptOf.throw] at h
  · cases h
  · cases h

end LookupCall

/-- A lookup and where its call stands. -/
structure PlacedLookup where
  file : Nat
  start : Nat
  lookup : LookupCall

namespace PlacedLookup

/-- What extraction records of a lookup. -/
def record (program : Program) (placed : PlacedLookup) : Identity × CallSite :=
  (placed.lookup.identity, ⟨placed.file, placed.start, program.contextAt placed.file placed.start⟩)

/-- What numbering does about a lookup: a number takes the place of the key of a text that every
language has; otherwise the key stays, and it is an issue if no table has it. -/
def outcome (program : Program) (numbering : Numbering) (placed : PlacedLookup) :
    Numbering.CallOutcome :=
  match numbering.find placed.lookup.identity with
  | .mature ordinal => .edited ⟨placed.lookup.keyStart, placed.lookup.keyStop, toString ordinal⟩
  | .immature _ => .kept
  | .missing =>
    .notFound (.keyNotFound (program.contextAt placed.file placed.start) placed.lookup.identity)

end PlacedLookup

namespace Program

/-- What a node of a unit looks up, if it is a lookup with an identity. -/
def lookupAt? (program : Program) (file : Nat) : Node → Option PlacedLookup
  | .call start callee arguments =>
    match LookupCall.classify program file callee arguments with
    | some (.ok lookup) => some ⟨file, start, lookup⟩
    | _ => none
  | _ => none

/-- What is wrong with a node of a unit, if it is a lookup without an identity. -/
def refusalAt? (program : Program) (file : Nat) : Node → Option Issue
  | .call start callee arguments =>
    match LookupCall.classify program file callee arguments with
    | some (.error fault) => some (.callShape (program.contextAt file start) fault)
    | _ => none
  | _ => none

/-- The lookups of a file, in visiting order. -/
def lookupsIn (program : Program) (root : Nat × SourceUnit) : List PlacedLookup :=
  (Node.preorderAll root.2.script.nodes).filterMap (program.lookupAt? root.1)

/-- The issues about lookups of a file that have no identity. -/
def refusalsIn (program : Program) (root : Nat × SourceUnit) : List Issue :=
  (Node.preorderAll root.2.script.nodes).filterMap (program.refusalAt? root.1)

/-- The lookups of all root files. -/
def lookups (program : Program) : List PlacedLookup := program.roots.flatMap program.lookupsIn

variable {program : Program} {file : Nat} {node : Node} {placed : PlacedLookup}

theorem lookupAt?_eq_some_iff :
    program.lookupAt? file node = some placed ↔
      placed.file = file ∧ ∃ callee arguments, node = .call placed.start callee arguments ∧
        LookupCall.classify program file callee arguments = some (.ok placed.lookup) := by
  constructor
  · intro h
    unfold lookupAt? at h
    split at h
    · split at h
      · cases h
        exact ⟨rfl, _, _, rfl, ‹_›⟩
      · cases h
    · cases h
  · rintro ⟨rfl, callee, arguments, rfl, classified⟩
    simp only [lookupAt?, classified]

theorem refusalAt?_eq_some_iff {issue : Issue} :
    program.refusalAt? file node = some issue ↔
      ∃ start callee arguments fault, node = .call start callee arguments ∧
        LookupCall.classify program file callee arguments = some (.error fault) ∧
          issue = .callShape (program.contextAt file start) fault := by
  constructor
  · intro h
    unfold refusalAt? at h
    split at h
    · split at h
      · cases h
        exact ⟨_, _, _, _, rfl, ‹_›, rfl⟩
      · cases h
    · cases h
  · rintro ⟨start, callee, arguments, fault, rfl, classified, rfl⟩
    simp only [refusalAt?, classified]

/-- The lookups of a file are the calls nested anywhere in it that have an identity. -/
theorem mem_lookupsIn_iff {root : Nat × SourceUnit} :
    placed ∈ program.lookupsIn root ↔
      placed.file = root.1 ∧ ∃ callee arguments,
        Node.Within root.2.script.nodes (.call placed.start callee arguments) ∧
          LookupCall.classify program root.1 callee arguments = some (.ok placed.lookup) := by
  unfold lookupsIn
  simp only [List.mem_filterMap, lookupAt?_eq_some_iff, Node.mem_preorderAll_iff]
  constructor
  · rintro ⟨node, nested, here, callee, arguments, rfl, classified⟩
    exact ⟨here, callee, arguments, nested, classified⟩
  · rintro ⟨here, callee, arguments, nested, classified⟩
    exact ⟨_, nested, here, callee, arguments, rfl, classified⟩

theorem nodup_roots (program : Program) : (program.roots.map Prod.fst).Nodup := by
  unfold roots
  refine List.Nodup.sublist (List.filter_sublist.map Prod.fst) ?_
  rw [List.map_map]
  exact List.nodup_zipIdx_map_snd _

/-- Among the lookups of all root files those of one file are its own. -/
theorem filter_lookups {root : Nat × SourceUnit} (here : root ∈ program.roots) :
    program.lookups.filter (fun placed => placed.file = root.1) = program.lookupsIn root := by
  have all (other : Nat × SourceUnit) : ∀ placed ∈ program.lookupsIn other,
      placed.file = other.1 := fun placed h => (mem_lookupsIn_iff.mp h).1
  have distinct := program.nodup_roots
  unfold lookups
  generalize program.roots = roots at here distinct ⊢
  induction roots with
  | nil => cases here
  | cons first rest ih =>
    obtain ⟨new, distinct⟩ := List.nodup_cons.mp distinct
    rw [List.flatMap_cons, List.filter_append]
    rcases List.mem_cons.mp here with rfl | later
    · -- The root comes first, and no other has its file.
      have others : (rest.flatMap program.lookupsIn).filter (fun placed => placed.file = root.1) =
          [] := by
        refine List.filter_eq_nil_iff.mpr fun placed among => ?_
        obtain ⟨other, member, among⟩ := List.mem_flatMap.mp among
        intro same
        refine new (List.mem_map.mpr ⟨other, member, ?_⟩)
        rw [← all other placed among]
        exact of_decide_eq_true same
      rw [others, List.append_nil]
      exact List.filter_eq_self.mpr fun placed h => decide_eq_true (all root placed h)
    · have none : (program.lookupsIn first).filter (fun placed => placed.file = root.1) = [] := by
        refine List.filter_eq_nil_iff.mpr fun placed among same => ?_
        rw [all first placed among] at same
        exact new (of_decide_eq_true same ▸ List.mem_map.mpr ⟨root, later, rfl⟩)
      rw [none, List.nil_append]
      exact ih later distinct

end Program

/-! ## Extraction -/

namespace Extraction

variable {program : Program}

/-- What extraction has recorded when it has seen some lookups and refused some calls. -/
structure Records (program : Program) (lookups : List PlacedLookup) (refusals : List Issue)
    (before after : Progress) : Prop where
  callSites : after.callSites =
    (lookups.map (PlacedLookup.record program)).foldl OrderedMap.push before.callSites
  callShapes : after.issues.filter (fun issue => issue.rule = .callShape) =
    before.issues.filter (fun issue => issue.rule = .callShape) ++ refusals
  languages : before.languages.getD [] |>.Nodup → (after.languages.getD []).Nodup

theorem Records.refl (progress : Progress) : Records program [] [] progress progress :=
  ⟨rfl, (List.append_nil _).symm, id⟩

theorem Records.trans {lookups others : List PlacedLookup} {refusals issues : List Issue}
    {before middle after : Progress} (first : Records program lookups refusals before middle)
    (second : Records program others issues middle after) :
    Records program (lookups ++ others) (refusals ++ issues) before after where
  callSites := by
    rw [second.callSites, first.callSites, List.map_append, List.foldl_append]
  callShapes := by rw [second.callShapes, first.callShapes, List.append_assoc]
  languages := second.languages ∘ first.languages

/-- Steps that record what their items hold record what all items hold. -/
theorem Records.foldlM {α ε : Type} {step : Progress → α → Except ε Progress}
    {lookups : α → List PlacedLookup} {refusals : α → List Issue}
    (h : ∀ {before item after}, step before item = .ok after →
      Records program (lookups item) (refusals item) before after)
    {items : List α} {before after : Progress} (run : items.foldlM step before = .ok after) :
    Records program (items.flatMap lookups) (items.flatMap refusals) before after := by
  induction items generalizing before with
  | nil =>
    cases run
    exact .refl _
  | cons item rest ih =>
    rw [List.foldlM_cons] at run
    rcases first : step before item with _ | middle
    · rw [first] at run
      cases run
    · rw [first] at run
      exact (h first).trans (ih run)

theorem nodup_eraseDups {α : Type} [DecidableEq α] (items : List α) : items.eraseDups.Nodup := by
  induction h : items.length using Nat.strong_induction_on generalizing items with
  | _ size ih =>
    cases items with
    | nil => exact List.nodup_nil
    | cons item rest =>
      rw [List.eraseDups_cons, List.nodup_cons, List.mem_eraseDups]
      refine ⟨by simp, ih _ ?_ _ rfl⟩
      exact h ▸ Nat.lt_succ_of_le (List.length_filter_le _ _)

theorem nodup_languagesOf {arguments : List Node} {languages : List String}
    (h : languagesOf arguments = .ok languages) : languages.Nodup := by
  have distinct {read : Except ConstructorFault (List String)}
      (h : (do return (← read).eraseDups) = Except.ok languages) : languages.Nodup := by
    cases read with
    | error fault => cases h
    | ok items =>
      cases h
      exact nodup_eraseDups items
  unfold languagesOf at h
  dsimp only at h
  split at h
  · cases h
  · exact distinct h
  · exact distinct h
  · cases h

/-- Each node is recorded as what it is. -/
theorem records_recordNode {file : Nat} {node : Node} {before after : Progress}
    (h : recordNode program file before node = .ok after) :
    Records program (program.lookupAt? file node).toList (program.refusalAt? file node).toList
      before after := by
  cases node with
  -- A constructor may set the languages or raise an issue, of another rule than calls.
  | construct start comment callee arguments =>
    unfold recordNode at h
    dsimp only at h
    split at h
    · unfold recordConstructor at h
      split at h
      · cases h
        exact ⟨rfl, by simp [Issue.rule, Program.refusalAt?], id⟩
      · split at h
        · cases h
          exact ⟨rfl, (List.append_nil _).symm, fun _ => nodup_languagesOf ‹_›⟩
        · cases h
    · cases h
      exact .refl _
  | call start callee arguments =>
    unfold recordNode at h
    unfold Program.lookupAt? Program.refusalAt?
    dsimp only at h ⊢
    rcases classified : LookupCall.classify program file callee arguments with _ | fault | lookup
    · rw [classified] at h
      cases h
      exact .refl _
    · rw [classified] at h
      cases h
      exact ⟨rfl, List.filter_append _ _, id⟩
    · rw [classified] at h
      cases h
      exact ⟨rfl, (List.append_nil _).symm, id⟩
  | _ =>
    cases h
    exact .refl _

theorem records_recordUnit {root : Nat × Program.SourceUnit} {before after : Progress}
    (h : recordUnit program before root = .ok after) :
    Records program (program.lookupsIn root) (program.refusalsIn root) before after := by
  unfold Program.lookupsIn Program.refusalsIn
  rw [List.filterMap_eq_flatMap_toList, List.filterMap_eq_flatMap_toList]
  exact Records.foldlM (fun step => records_recordNode step) h

/-- What extraction finds in a program: its lookups by identity, an issue for each call that it
refuses, and languages without repetition. -/
theorem recorded_of_ofProgram {extraction : Extraction}
    (h : ofProgram program = .ok extraction) :
    extraction.callSites =
        (program.lookups.map (PlacedLookup.record program)).foldl OrderedMap.push .empty ∧
      extraction.issues.filter (fun issue => issue.rule = .callShape) =
        program.roots.flatMap program.refusalsIn ∧
      extraction.languages.Nodup := by
  rcases run : program.roots.foldlM (recordUnit program) .start with _ | progress
  · simp [ofProgram, run, bind, Except.bind] at h
  · simp only [ofProgram, run, bind, Except.bind, pure, Except.pure, Except.ok.injEq] at h
    subst h
    have recorded := Records.foldlM (fun step => records_recordUnit step) run
    refine ⟨recorded.callSites, ?_, recorded.languages List.nodup_nil⟩
    dsimp only
    rw [List.filter_append, List.filter_append, recorded.callShapes]
    have constructor : (if progress.languages.isNone then [Issue.missingConstructor] else []).filter
        (fun issue => issue.rule = .callShape) = [] := by split <;> rfl
    have lookup : (if program.hasLookups then [] else [Issue.missingLookup]).filter
        (fun issue => issue.rule = .callShape) = [] := by split <;> rfl
    rw [constructor, lookup, List.append_nil, List.append_nil]
    rfl

end Extraction

/-! ## Numbering -/

namespace Numbering

variable {program : Program} {numbering : Numbering}

theorem nodeOutcome?_eq (file : Nat) (node : Node) :
    nodeOutcome? program numbering file node =
      (program.lookupAt? file node).map (PlacedLookup.outcome program numbering) := by
  cases node with
  | call start callee arguments =>
    unfold nodeOutcome? Program.lookupAt?
    dsimp only
    rcases LookupCall.classify program file callee arguments with _ | fault | lookup
    · rfl
    · rfl
    · dsimp only [Option.map, PlacedLookup.outcome]
      split <;> simp only [*]
  | _ => rfl

theorem callOutcomes_eq (root : Nat × Program.SourceUnit) :
    callOutcomes program numbering root.1 root.2 =
      (program.lookupsIn root).map (PlacedLookup.outcome program numbering) := by
  unfold callOutcomes Program.lookupsIn
  rw [List.map_filterMap]
  exact congrArg (List.filterMap · _) (funext (nodeOutcome?_eq root.1))

/-- There is one outcome for each lookup. -/
theorem flatMap_outcomes :
    (program.roots.map fun root =>
        (root.2, callOutcomes program numbering root.1 root.2)).flatMap Prod.snd =
      program.lookups.map (PlacedLookup.outcome program numbering) := by
  rw [List.flatMap_map, Program.lookups, List.map_flatMap]
  simp only [callOutcomes_eq]

/-- Every outcome is an edit, is kept or is an issue. -/
theorem length_outcomes (outcomes : List CallOutcome) :
    (editsOf outcomes).length + keptCount outcomes + (issuesOf outcomes).length =
      outcomes.length := by
  induction outcomes with
  | nil => rfl
  | cons outcome rest ih =>
    cases outcome <;> simp [editsOf, keptCount, issuesOf] at ih ⊢ <;> omega

/-- Extraction has recorded the calls that numbering handles, one to one and file by file. -/
structure Handles (numbering : Numbering) (program : Program) (extraction : Extraction) : Prop where
  /-- The lookups of a root file are the calls nested anywhere in it that have an identity; the key
  of each is the text of one of its arguments. -/
  lookups : ∀ root ∈ program.roots, ∀ placed, placed ∈ program.lookupsIn root ↔
    placed.file = root.1 ∧ ∃ callee arguments content,
      Node.Within root.2.script.nodes (.call placed.start callee arguments) ∧
      LookupCall.classify program root.1 callee arguments = some (.ok placed.lookup) ∧
      .text placed.lookup.keyStart placed.lookup.keyStop content ∈ arguments ∧
      content.text? = some placed.lookup.identity.key
  /-- The call sites that are recorded in a root file are those of its lookups, one to one. -/
  recorded : ∀ root ∈ program.roots,
    (extraction.callSites.pairs.filter fun pair => pair.2.file = root.1).Perm
      ((program.lookupsIn root).map (PlacedLookup.record program))
  /-- All call sites are recorded in root files. -/
  rooted : ∀ pair ∈ extraction.callSites.pairs, ∃ root ∈ program.roots, pair.2.file = root.1
  /-- The calls that are handled in a root file are its lookups, in order, and each is edited, kept
  or reported as the number of its text says. -/
  outcomes : ∀ root ∈ program.roots, callOutcomes program numbering root.1 root.2 =
    (program.lookupsIn root).map (PlacedLookup.outcome program numbering)
  /-- A root file is edited where its lookups say so, and nowhere else. -/
  files : (numbering.numberProgram program).files = program.roots.map fun root =>
    numberUnit root.2
      (editsOf ((program.lookupsIn root).map (PlacedLookup.outcome program numbering)))
  /-- No call is lost and none is handled twice. -/
  total : (numbering.numberProgram program).replaced + (numbering.numberProgram program).kept +
    (numbering.numberProgram program).issues.length = extraction.callSites.pairs.length
  /-- Extraction reports exactly the lookups without an identity; numbering does nothing there. -/
  refused : ∀ context fault, .callShape context fault ∈ extraction.issues ↔
    ∃ root ∈ program.roots, ∃ start callee arguments,
      Node.Within root.2.script.nodes (.call start callee arguments) ∧
      LookupCall.classify program root.1 callee arguments = some (.error fault) ∧
      context = program.contextAt root.1 start ∧
      nodeOutcome? program numbering root.1 (.call start callee arguments) = none

theorem perm_pairs_of_ofProgram {extraction : Extraction}
    (h : Extraction.ofProgram program = .ok extraction) :
    extraction.callSites.pairs.Perm (program.lookups.map (PlacedLookup.record program)) := by
  rw [(Extraction.recorded_of_ofProgram h).1]
  exact OrderedMap.perm_pairs_foldl_push _ .empty

theorem mem_refusals_iff {context : SourceContext} {fault : CallFault} :
    .callShape context fault ∈ program.roots.flatMap program.refusalsIn ↔
      ∃ root ∈ program.roots, ∃ start callee arguments,
        Node.Within root.2.script.nodes (.call start callee arguments) ∧
        LookupCall.classify program root.1 callee arguments = some (.error fault) ∧
        context = program.contextAt root.1 start := by
  simp only [List.mem_flatMap, Program.refusalsIn, List.mem_filterMap,
    Program.refusalAt?_eq_some_iff, Node.mem_preorderAll_iff]
  constructor
  · rintro ⟨root, here, node, nested, start, callee, arguments, fault', rfl, classified, same⟩
    cases same
    exact ⟨root, here, start, callee, arguments, nested, classified, rfl⟩
  · rintro ⟨root, here, start, callee, arguments, nested, classified, rfl⟩
    exact ⟨root, here, _, nested, start, callee, arguments, fault, rfl, classified, rfl⟩

/-- If extraction succeeds, it has recorded the calls that numbering handles, whatever the
numbers. -/
theorem handles_recorded_calls {program : Program} {extraction : Extraction}
    (h : Extraction.ofProgram program = .ok extraction) (numbering : Numbering) :
    numbering.Handles program extraction where
  lookups root here placed := by
    rw [Program.mem_lookupsIn_iff]
    constructor
    · rintro ⟨file, callee, arguments, nested, classified⟩
      obtain ⟨⟨content, argument, key⟩, -⟩ := LookupCall.ok_of_classify classified
      exact ⟨file, callee, arguments, content, nested, classified, argument, key⟩
    · rintro ⟨file, callee, arguments, -, nested, classified, -⟩
      exact ⟨file, callee, arguments, nested, classified⟩
  recorded root here := by
    -- Every recorded call has its root, so those of one root are a part of all.
    rw [← Program.filter_lookups here]
    refine ((perm_pairs_of_ofProgram h).filter _).trans (.of_eq ?_)
    rw [List.filter_map]
    rfl
  rooted pair here := by
    obtain ⟨placed, among, rfl⟩ := List.mem_map.mp ((perm_pairs_of_ofProgram h).mem_iff.mp here)
    obtain ⟨root, member, inside⟩ := List.mem_flatMap.mp among
    exact ⟨root, member, (Program.mem_lookupsIn_iff.mp inside).1⟩
  outcomes root here := callOutcomes_eq root
  files := by
    unfold numberProgram
    dsimp only
    rw [List.map_map]
    exact List.map_congr_left fun root here => by rw [Function.comp_apply, callOutcomes_eq]
  total := by
    unfold numberProgram
    dsimp only
    rw [length_outcomes, flatMap_outcomes, (perm_pairs_of_ofProgram h).length_eq, List.length_map,
      List.length_map]
  refused context fault := by
    -- Refusals are all issues of their rule, in the order of the roots.
    have shapes : .callShape context fault ∈ extraction.issues ↔
        .callShape context fault ∈
          extraction.issues.filter fun issue => issue.rule = .callShape := by
      simp [List.mem_filter, Issue.rule]
    rw [shapes, (Extraction.recorded_of_ofProgram h).2.1, mem_refusals_iff]
    constructor
    · rintro ⟨root, here, start, callee, arguments, nested, classified, place⟩
      refine ⟨root, here, start, callee, arguments, nested, classified, place, ?_⟩
      rw [nodeOutcome?, classified]
    · rintro ⟨root, here, start, callee, arguments, nested, classified, place, -⟩
      exact ⟨root, here, start, callee, arguments, nested, classified, place⟩

/-- Whoever greets with `i18n.locText("Hello", i18n.locText(i18n.locText("1")), i18n.locText("0"))`
looks up three keys and asks once for what is no literal. -/
def greetingCalls : Program :=
  let locText (start : Nat) (argument : Node) (rest : List Node) : Node :=
    .call start (.member (.name start "i18n") (some "locText")) (argument :: rest)
  let calls := locText 0 (.text 13 20 ⟨"Hello", true⟩)
    [locText 22 (locText 35 (.text 48 51 ⟨"1", true⟩) []) [],
      locText 55 (.text 68 71 ⟨"0", true⟩) []]
  let text :=
    "i18n.locText(\"Hello\", i18n.locText(i18n.locText(\"1\")), i18n.locText(\"0\"))"
  ⟨#[⟨⟨"/app.ts"⟩, "app.ts", ⟨text, false, [.statement calls]⟩, .empty, .empty, true, []⟩],
    #[⟨"locText", .member, 0, "* I18NLOCTEXTSYMBOL ", some .lookup, none⟩], []⟩

/-- One greeting has a number, one waits for its translation. -/
def someGreetings : Numbering :=
  ⟨.ofList [(⟨"default", "Hello"⟩, ⟨0, ["en"]⟩), (⟨"default", "1"⟩, ⟨1, []⟩)], ["en"]⟩

theorem someGreetings_handled :
    ∃ extraction, Extraction.ofProgram greetingCalls = .ok extraction ∧
      someGreetings.Handles greetingCalls extraction ∧ extraction.callSites.pairs.length = 3 ∧
        (someGreetings.numberProgram greetingCalls).replaced = 1 ∧
          (someGreetings.numberProgram greetingCalls).kept = 1 := by
  have three : (Extraction.ofProgram greetingCalls).toOption.map
      (fun extraction => extraction.callSites.pairs.length) = some 3 := by decide +kernel
  rcases done : Extraction.ofProgram greetingCalls with _ | extraction
  · rw [done] at three
    cases three
  · rw [done] at three
    exact ⟨extraction, rfl, handles_recorded_calls done someGreetings, Option.some.inj three,
      by decide +kernel, by decide +kernel⟩

end Numbering

end Phrasebook
