import Phrasebook.Proofs.Chases

/-!
# Names that are exported again

A name that is imported or exported again stands for the export of another module, which may be
exported again there. Following it ends at a declaration, unless it ends at a module or at an export
that is not there, or goes round in a circle.

- `Blind`: a symbol from which no declaration is found;
- `Hop`, `Chain`: the steps that a name can be traced by, and a trace to a declaration;
- `resolves_along_chains`: a name that all traces lead to one declaration from is resolved to it,
  unless the search commits itself to a blind symbol on the way.
-/

namespace Phrasebook.Program

open Relation (ReflTransGen TransGen)

variable {program : Program} {symbol next start : Symbol} {index : Nat}

/-! ## Blind symbols -/

/-- Following the symbol ends at a module or at an export that is not there, or goes round. -/
def Blind (program : Program) (symbol : Symbol) : Prop :=
  ∃ last, ReflTransGen program.Follows symbol last ∧
    ((∃ file, last = .module file) ∨
      (∃ file specifier imported,
        last = .alias file specifier imported ∧ program.step? last = none) ∨
      TransGen program.Follows last last)

/-- A symbol is resolved to a declaration unless it is blind. -/
theorem exists_declaration_iff :
    (∃ index, program.resolveAlias symbol = .declaration index) ↔ ¬ program.Blind symbol := by
  constructor
  · rintro ⟨index, same⟩ ⟨last, reached, blind⟩
    have leads := resolveAlias_eq_declaration_iff.mp same
    -- Each symbol has one successor, so one of the two comes behind the other.
    rcases ReflTransGen.total_of_right_unique follows_unique reached leads with on | back
    · -- From where the view ends no step leads on, or only around the circle.
      rcases blind with ⟨file, rfl⟩ | ⟨file, specifier, imported, rfl, stuck⟩ | circle
      · rcases on.cases_head with same | ⟨_, step, -⟩
        · cases same
        · cases step
      · rcases on.cases_head with same | ⟨_, step, -⟩
        · cases same
        · rw [Follows, stuck] at step
          cases step
      · obtain ⟨_, step, -⟩ := TransGen.head'_iff.mp (circle_of_follows circle on)
        exact not_follows_declaration step
    · -- A declaration leads nowhere and is not blind itself.
      obtain rfl := eq_of_declaration back
      rcases blind with ⟨file, none⟩ | ⟨file, specifier, imported, none, -⟩ | circle
      · cases none
      · cases none
      · obtain ⟨_, step, -⟩ := TransGen.head'_iff.mp circle
        exact not_follows_declaration step
  · -- What a symbol resolves to, unless a declaration, would make it blind.
    intro sighted
    obtain ⟨reached, stops⟩ := program.resolveAlias_spec symbol
    rcases found : program.resolveAlias symbol with index | ⟨file, specifier, imported⟩ | file
    · exact ⟨index, rfl⟩
    · exact absurd ⟨_, reached, .inr (stops.imp_left fun last =>
        ⟨file, specifier, imported, found, last⟩)⟩ sighted
    · exact absurd ⟨_, reached, .inl ⟨file, found⟩⟩ sighted

/-! ## Tracing names -/

/-- Where a name is traced to. -/
inductive Stage where
  /-- A name that a unit exports. -/
  | exported (file : Nat) (name : String)
  /-- A top-level name of a unit. -/
  | bound (file : Nat) (name : String)
  /-- A declaration, by its index. -/
  | declared (index : Nat)

/-- One step in tracing a name: through an export or an import, or on to a module that is exported
again as a whole. A unit that exports the name itself comes before those, and `default` is not
passed on to them. -/
inductive Hop (program : Program) : Stage → Stage → Prop where
  | exportedDeclaration {file : Nat} {name : String} {unit : SourceUnit} {index : Nat}
    (here : program.units[file]? = some unit)
    (target : unit.symbols.exports.get? name = some (.declaration index)) :
    Hop program (.exported file name) (.declared index)
  | exportedName {file : Nat} {name id : String} {unit : SourceUnit}
    (here : program.units[file]? = some unit)
    (target : unit.symbols.exports.get? name = some (.name id)) :
    Hop program (.exported file name) (.bound file id)
  | reexported {file other : Nat} {name specifier imported : String} {unit : SourceUnit}
    (here : program.units[file]? = some unit)
    (target : unit.symbols.exports.get? name = some (.reexport specifier imported))
    (link : program.importedUnit? file specifier = some other) :
    Hop program (.exported file name) (.exported other imported)
  | forwarded {file other : Nat} {name specifier : String} {unit : SourceUnit}
    (here : program.units[file]? = some unit) (none : unit.symbols.exports.get? name = none)
    (plain : name ≠ "default") (star : specifier ∈ unit.symbols.starExports)
    (link : program.importedUnit? file specifier = some other) :
    Hop program (.exported file name) (.exported other name)
  | boundDeclaration {file : Nat} {name : String} {unit : SourceUnit} {index : Nat}
    (here : program.units[file]? = some unit)
    (target : unit.symbols.locals.get? name = some (.declaration index)) :
    Hop program (.bound file name) (.declared index)
  | imported {file other : Nat} {name specifier imported : String} {unit : SourceUnit}
    (here : program.units[file]? = some unit)
    (target : unit.symbols.locals.get? name = some (.imported specifier imported))
    (link : program.importedUnit? file specifier = some other) :
    Hop program (.bound file name) (.exported other imported)

/-- A trace from a stage to a declaration through the given stages, none of them twice. -/
inductive Chain (program : Program) (index : Nat) : Stage → List Stage → Prop where
  | arrived : Chain program index (.declared index) []
  | hop {stage next : Stage} {rest : List Stage} (step : Hop program stage next)
    (new : stage ∉ next :: rest) (on : Chain program index next rest) :
    Chain program index stage (next :: rest)

variable {stage other : Stage} {stages : List Stage}

/-- A trace can start at any stage that it passes. -/
theorem Chain.from_mem (h : Chain program index stage stages) (passed : other ∈ stage :: stages) :
    ∃ rest, Chain program index other rest := by
  induction h with
  | arrived =>
    obtain rfl := List.mem_singleton.mp passed
    exact ⟨[], .arrived⟩
  | hop step new on ih =>
    rcases List.mem_cons.mp passed with rfl | later
    · exact ⟨_, .hop step new on⟩
    · exact ih later

/-- Circles can be left out of a trace. -/
theorem exists_chain_iff :
    (∃ rest, Chain program index stage rest) ↔
      ReflTransGen (Hop program) stage (.declared index) := by
  constructor
  · rintro ⟨rest, chain⟩
    induction chain with
    | arrived => exact .refl
    | hop step _ _ ih => exact .head step ih
  · intro leads
    induction leads using ReflTransGen.head_induction_on with
    | refl => exact ⟨[], .arrived⟩
    | @head stage next step _ ih =>
      obtain ⟨rest, chain⟩ := ih
      by_cases passed : stage ∈ next :: rest
      · exact chain.from_mem passed
      · exact ⟨_, .hop step passed chain⟩

/-! ## Symbols on a trace -/

/-- What stands at a stage for the name that is traced. -/
def symbolAt? (program : Program) : Stage → Option Symbol
  | .exported file name => program.exportSymbol? file name
  | .bound file name => program.localSymbol? file name
  | .declared index => some (.declaration index)

/-- The stage that a symbol leads to next. -/
inductive Stands (program : Program) : Symbol → Stage → Prop where
  | declaration {index : Nat} : Stands program (.declaration index) (.declared index)
  | linked {file other : Nat} {specifier imported : String}
    (link : program.importedUnit? file specifier = some other) :
    Stands program (.alias file specifier imported) (.exported other imported)

theorem hops_of_localSymbol? {file : Nat} {name : String}
    (h : program.localSymbol? file name = some symbol) (stands : Stands program symbol stage) :
    ReflTransGen (Hop program) (.bound file name) stage := by
  unfold localSymbol? at h
  obtain ⟨unit, here, h⟩ := Option.bind_eq_some_iff.mp h
  obtain ⟨binding, target, h⟩ := Option.bind_eq_some_iff.mp h
  cases binding with
  | declaration index =>
    cases h
    cases stands
    exact .single (.boundDeclaration here target)
  | imported specifier exported =>
    cases h
    cases stands with
    | linked link => exact .single (.imported here target link)
  -- An import of a whole module stands for no stage.
  | everything specifier =>
    dsimp only at h
    split at h
    · cases h
      cases stands
    · rename_i missing
      cases h
      cases stands with
      | linked link =>
        rw [missing] at link
        cases link

/-- An offered symbol stands where hops lead to. -/
theorem hops_of_offers {file : Nat} {name : String} (h : program.Offers name file symbol)
    (stands : Stands program symbol stage) :
    ReflTransGen (Hop program) (.exported file name) stage := by
  induction h with
  | forwarded on _ ih =>
    obtain ⟨plain, unit, specifier, here, none, star, link⟩ := mem_forwards_iff.mp on
    exact .head (.forwarded here none plain star link) (ih stands)
  | @direct file symbol direct =>
    unfold directSymbol? at direct
    obtain ⟨unit, here, direct⟩ := Option.bind_eq_some_iff.mp direct
    obtain ⟨target, exported, direct⟩ := Option.bind_eq_some_iff.mp direct
    cases target with
    | declaration index =>
      cases direct
      cases stands
      exact .single (.exportedDeclaration here exported)
    | name id => exact .head (.exportedName here exported) (hops_of_localSymbol? direct stands)
    | reexport specifier imported =>
      cases direct
      cases stands with
      | linked link => exact .single (.reexported here exported link)
    | everything specifier =>
      obtain ⟨target, -, rfl⟩ := Option.map_eq_some_iff.mp direct
      cases stands

theorem hops_of_symbolAt? (h : program.symbolAt? first = some symbol)
    (stands : Stands program symbol stage) : ReflTransGen (Hop program) first stage := by
  cases first with
  | exported file name => exact hops_of_offers (offers_of_exportSymbol? h) stands
  | bound file name => exact hops_of_localSymbol? h stands
  | declared index =>
    cases h
    cases stands
    exact .refl

/-- A declaration that a symbol is followed to is one that its name is traced to. -/
theorem hops_of_follows (h : program.symbolAt? stage = some symbol)
    (leads : ReflTransGen program.Follows symbol (.declaration index)) :
    ReflTransGen (Hop program) stage (.declared index) := by
  induction leads using ReflTransGen.head_induction_on generalizing stage with
  | refl => exact hops_of_symbolAt? h .declaration
  | @head symbol next step on ih =>
    obtain index' | ⟨file, specifier, imported⟩ | file := symbol
    · exact absurd step not_follows_declaration
    · unfold Follows step? at step
      dsimp only at step
      split at step
      · cases step
      · rename_i target link
        split at step
        · -- A module leads no further.
          cases step
          rcases on.cases_head with same | ⟨_, step, -⟩
          · cases same
          · cases step
        · exact (hops_of_symbolAt? h (.linked link)).trans
            (@ih (.exported target imported) step)
    · cases step

theorem exists_localSymbol? {file : Nat} {name : String} {unit : SourceUnit}
    {binding : LocalBinding} (here : program.units[file]? = some unit)
    (target : unit.symbols.locals.get? name = some binding) :
    ∃ symbol, program.localSymbol? file name = some symbol := by
  simp only [localSymbol?, here, target, bind, Option.bind]
  cases binding with
  | declaration index => exact ⟨_, rfl⟩
  | imported specifier exported => exact ⟨_, rfl⟩
  | everything specifier =>
    dsimp only
    split
    · exact ⟨_, rfl⟩
    · exact ⟨_, rfl⟩

/-- A name that is traced to a declaration stands for something. -/
theorem exists_symbolAt? (leads : ReflTransGen (Hop program) stage (.declared index)) :
    ∃ symbol, program.symbolAt? stage = some symbol := by
  induction leads using ReflTransGen.head_induction_on with
  | refl => exact ⟨_, rfl⟩
  | @head stage next step _ ih =>
    cases step with
    | exportedDeclaration here target =>
      exact exists_exportSymbol?_iff.mpr ⟨_, .direct (directSymbol?_of_exports here target)⟩
    | exportedName here target =>
      obtain ⟨symbol, stands⟩ := ih
      exact exists_exportSymbol?_iff.mpr
        ⟨symbol, .direct ((directSymbol?_of_exports here target).trans stands)⟩
    | reexported here target link =>
      exact exists_exportSymbol?_iff.mpr ⟨_, .direct (directSymbol?_of_exports here target)⟩
    | forwarded here none plain star link =>
      obtain ⟨symbol, offers⟩ := exists_exportSymbol?_iff.mp ih
      exact exists_exportSymbol?_iff.mpr ⟨symbol,
        .forwarded (mem_forwards_iff.mpr ⟨plain, _, _, here, none, star, link⟩) offers⟩
    | boundDeclaration here target => exact exists_localSymbol? here target
    | imported here target link => exact exists_localSymbol? here target

/-! ## Resolving names -/

/-- A symbol may be followed to any symbol that the next module offers for it. -/
inductive Leads (program : Program) : Symbol → Symbol → Prop where
  | offered {file other : Nat} {specifier imported : String} {symbol : Symbol}
    (link : program.importedUnit? file specifier = some other) (part : imported ≠ everything)
    (h : program.Offers imported other symbol) :
    Leads program (.alias file specifier imported) symbol

/-- Whichever way a symbol is followed, it is on to a declaration and never in a circle. -/
def Straight (program : Program) (symbol : Symbol) : Prop :=
  ∀ last, ReflTransGen program.Leads symbol last →
    ((∃ index, last = .declaration index) ∨ ∃ next, program.Leads last next) ∧
      ¬ TransGen program.Leads last last

/-- Of what may come next something does. -/
theorem exists_follows_of_leads (h : program.Leads symbol next) :
    ∃ other, program.Follows symbol other := by
  cases h with
  | offered link part offers =>
    obtain ⟨other, found⟩ := exists_exportSymbol?_iff.mpr ⟨_, offers⟩
    refine ⟨other, ?_⟩
    unfold Follows step?
    simp only [link, if_neg part, found]

theorem Straight.of_leads (straight : program.Straight symbol) (h : program.Leads symbol next) :
    program.Straight next := fun last reached => straight last (.head h reached)

/-- A straight symbol is followed to what the next module offers. -/
theorem Straight.leads (straight : program.Straight symbol) (h : program.Follows symbol next) :
    program.Leads symbol next := by
  obtain index | ⟨file, specifier, imported⟩ | file := symbol
  · cases h
  · unfold Follows step? at h
    dsimp only at h
    split at h
    · cases h
    · rename_i target link
      split at h
      · -- A whole module is nothing that leads on.
        rename_i whole
        rcases (straight _ .refl).1 with ⟨_, same⟩ | ⟨_, offered⟩
        · cases same
        · cases offered with
          | offered _ part _ => exact absurd whole part
      · exact .offered link ‹_› (offers_of_exportSymbol? h)
  · cases h

theorem Straight.transGen_leads (straight : program.Straight symbol)
    (h : TransGen program.Follows symbol next) :
    TransGen program.Leads symbol next ∧ program.Straight next := by
  induction h with
  | single step => exact ⟨.single (straight.leads step), straight.of_leads (straight.leads step)⟩
  | tail _ step ih =>
    obtain ⟨reached, straight⟩ := ih
    exact ⟨reached.tail (straight.leads step), straight.of_leads (straight.leads step)⟩

/-- A straight symbol is not blind. -/
theorem Straight.not_blind (straight : program.Straight symbol) : ¬ program.Blind symbol := by
  rintro ⟨last, reached, blind⟩
  have straight : program.Straight last := by
    rcases Relation.reflTransGen_iff_eq_or_transGen.mp reached with rfl | steps
    · exact straight
    · exact (straight.transGen_leads steps).2
  obtain ⟨goes, straightOn⟩ := straight last .refl
  rcases blind with ⟨file, rfl⟩ | ⟨file, specifier, imported, rfl, stuck⟩ | circle
  · rcases goes with ⟨_, same⟩ | ⟨_, offered⟩
    · cases same
    · cases offered
  · rcases goes with ⟨_, same⟩ | ⟨_, offered⟩
    · cases same
    · obtain ⟨_, step⟩ := exists_follows_of_leads offered
      rw [Follows, stuck] at step
      cases step
  · exact straightOn (straight.transGen_leads circle).1

/-- The symbols that a stage may stand for. -/
inductive Alternative (program : Program) : Stage → Symbol → Prop where
  | exported {file : Nat} {name : String} {symbol : Symbol} (h : program.Offers name file symbol) :
    Alternative program (.exported file name) symbol
  | bound {file : Nat} {name : String} {symbol : Symbol}
    (h : program.localSymbol? file name = some symbol) :
    Alternative program (.bound file name) symbol
  | declared {index : Nat} : Alternative program (.declared index) (.declaration index)

theorem alternative_of_symbolAt? (h : program.symbolAt? stage = some symbol) :
    program.Alternative stage symbol := by
  cases stage with
  | exported file name => exact .exported (offers_of_exportSymbol? h)
  | bound file name => exact .bound h
  | declared index =>
    cases h
    exact .declared

/-- The marker of a callee is that of the declaration that its name is resolved to. -/
theorem calleeMarker?_of_resolved {file start : Nat} {name : String}
    (free : program.isShadowed file start = false)
    (h : program.localSymbol? file name = some symbol)
    (resolved : program.resolveAlias symbol = .declaration index) :
    program.calleeMarker? file (.name start name) = program.markerOf? index := by
  have declaration : program.declarationOf? symbol = some index := by
    unfold declarationOf?
    rw [resolved]
  unfold calleeMarker? calleeDeclarations
  rw [free, if_neg Bool.false_ne_true, h, Option.bind_some, declaration]
  simp

/-- A name from which there are traces, all of them to one declaration, stands for a symbol. This is
resolved to that declaration unless it is blind, which it is not if no symbol on the way leads
nowhere, to a module or in a circle. A callee with that name then has the marker of the
declaration. -/
theorem resolves_along_chains {program : Program} {start : Stage} {index : Nat}
    (traced : ∃ stages, Chain program index start stages)
    (agreed : ∀ other stages, Chain program other start stages → other = index) :
    ∃ symbol, program.symbolAt? start = some symbol ∧
      (program.resolveAlias symbol = .declaration index ↔ ¬ program.Blind symbol) ∧
      ((∀ symbol, program.Alternative start symbol → program.Straight symbol) →
        program.resolveAlias symbol = .declaration index) ∧
      ∀ file name, start = .bound file name → ¬ program.Blind symbol →
        ∀ offset, program.isShadowed file offset = false →
          program.calleeMarker? file (.name offset name) = program.markerOf? index := by
  obtain ⟨symbol, found⟩ := exists_symbolAt? (exists_chain_iff.mp traced)
  -- A symbol that is not blind resolves to some declaration, and all chains agree on it.
  have resolved (sighted : ¬ program.Blind symbol) :
      program.resolveAlias symbol = .declaration index := by
    obtain ⟨other, same⟩ := exists_declaration_iff.mpr sighted
    have leads := hops_of_follows found (resolveAlias_eq_declaration_iff.mp same)
    obtain ⟨stages, chain⟩ := exists_chain_iff.mpr leads
    exact agreed other stages chain ▸ same
  refine ⟨symbol, found, ⟨fun same => exists_declaration_iff.mp ⟨index, same⟩, resolved⟩,
    fun straight => resolved (straight symbol (alternative_of_symbolAt? found)).not_blind, ?_⟩
  rintro file name rfl sighted offset free
  exact calleeMarker?_of_resolved free found (resolved sighted)

/-! ## Barrels -/

/-- An app imports `locText` from a barrel, which exports all of two modules again: `text`, which
itself refers to the barrel, and one that declares `locText`. -/
def barrels (text : ModuleSymbols) : Program where
  units := #[
    unitOf
      { ModuleSymbols.empty with locals := .ofList [("locText", .imported "./barrel" "locText")] }
      [("./barrel", 1)],
    unitOf { ModuleSymbols.empty with starExports := ["./text", "./i18n"] }
      [("./text", 2), ("./i18n", 3)],
    unitOf text [("./barrel", 1)],
    unitOf { ModuleSymbols.empty with exports := .ofList [("locText", .declaration 0)] } []]
  declarations := #[⟨"locText", .function, 3, "* I18NLOCTEXTSYMBOL ", some .lookup, none⟩]
  faults := []

theorem chain_barrels (text : ModuleSymbols) :
    Chain (barrels text) 0 (.bound 0 "locText")
      [.exported 1 "locText", .exported 3 "locText", .declared 0] := by
  have star : Hop (barrels text) (.exported 1 "locText") (.exported 3 "locText") :=
    @Hop.forwarded _ 1 3 _ "./i18n" _ rfl rfl (by decide)
      (List.mem_cons_of_mem _ List.mem_cons_self) rfl
  exact .hop (.imported rfl rfl rfl) (by simp)
    (.hop star (by simp) (.hop (.exportedDeclaration rfl rfl) (by simp) .arrived))

/-- There is one declaration only. -/
theorem agreed_barrels {text : ModuleSymbols} (locals : text.locals = .empty)
    (exports : ∀ entry ∈ text.exports.entries, ∀ index, entry.2 ≠ .declaration index) :
    ∀ other stages, Chain (barrels text) other (.bound 0 "locText") stages → other = 0 := by
  intro other stages chain
  rcases (exists_chain_iff.mp ⟨stages, chain⟩).cases_tail with same | ⟨last, -, hop⟩
  · cases same
  · cases hop with
    -- The last hop goes to an exported declaration, which only the last unit has.
    | @exportedDeclaration file name unit _ here target =>
      have entry := OrderedMap.mem_entries_iff.mpr target
      match file with
      | 0 | 1 =>
        cases here
        cases entry
      | 2 =>
        cases here
        exact absurd rfl (exports _ entry other)
      | 3 =>
        cases here
        cases List.mem_singleton.mp entry
        rfl
      | _ + 4 => cases here
    -- Or to a bound one, and no other unit binds any.
    | @boundDeclaration file name unit _ here target =>
      have entry := OrderedMap.mem_entries_iff.mpr target
      match file with
      | 0 =>
        cases here
        cases List.mem_singleton.mp entry
      | 1 | 3 =>
        cases here
        cases entry
      | 2 =>
        cases here
        change _ ∈ text.locals.entries at entry
        rw [locals] at entry
        cases entry
      | _ + 4 => cases here

/-- A module that exports all of the barrel again. -/
def starText : ModuleSymbols := { ModuleSymbols.empty with starExports := ["./barrel"] }

/-- A module that exports `locText` of the barrel again. -/
def backText : ModuleSymbols :=
  { ModuleSymbols.empty with exports := .ofList [("locText", .reexport "./barrel" "locText")] }

theorem offers_starText {file : Nat} {symbol : Symbol}
    (h : (barrels starText).Offers "locText" file symbol) : symbol = .declaration 0 := by
  induction h with
  | forwarded _ _ ih => exact ih
  | @direct file symbol direct =>
    match file with
    | 0 | 1 | 2 => cases direct
    | 3 =>
      cases direct
      rfl
    | _ + 4 => cases direct

/-- The name that the app imports is straight if `text` exports the barrel as a whole. -/
theorem straight_starText :
    (barrels starText).Straight (.alias 0 "./barrel" "locText") := by
  have only {next : Symbol}
      (h : (barrels starText).Leads (.alias 0 "./barrel" "locText") next) :
      next = .declaration 0 := by
    cases h with
    | offered _ _ offers => exact offers_starText offers
  have offered : (barrels starText).Offers "locText" 1 (.declaration 0) :=
    @Offers.forwarded _ _ 1 3 _ (by decide) (.direct rfl)
  intro last reached
  rcases reached.cases_head with rfl | ⟨next, first, on⟩
  · -- The alias itself: it leads on, and not back.
    refine ⟨.inr ⟨_, .offered rfl (by decide) offered⟩, fun circle => ?_⟩
    obtain ⟨next, first, back⟩ := TransGen.head'_iff.mp circle
    obtain rfl := only first
    rcases back.cases_head with same | ⟨_, second, -⟩
    · cases same
    · cases second
  · obtain rfl := only first
    rcases on.cases_head with rfl | ⟨_, second, -⟩
    · -- The declaration, behind which nothing comes.
      refine ⟨.inl ⟨0, rfl⟩, fun circle => ?_⟩
      obtain ⟨_, second, -⟩ := TransGen.head'_iff.mp circle
      cases second
    · cases second

/-- The modules of a barrel may export it again as a whole. But if one of them takes `locText` from
the barrel by its name, a call in the app is lost, though it can be traced to the declaration. -/
theorem locText_found_and_lost :
    (barrels starText).calleeMarker? 0 (.name 0 "locText") = some .lookup ∧
      (barrels backText).calleeMarker? 0 (.name 0 "locText") = none ∧
      ∃ symbol, (barrels backText).symbolAt? (.bound 0 "locText") = some symbol ∧
        (barrels backText).Blind symbol := by
  refine ⟨?_, by decide +kernel, ?_⟩
  · obtain ⟨symbol, found, -, -, marker⟩ := resolves_along_chains ⟨_, chain_barrels starText⟩
      (agreed_barrels rfl nofun)
    cases found
    exact marker 0 "locText" rfl straight_starText.not_blind 0 rfl
  · obtain ⟨symbol, found, resolved, -⟩ := resolves_along_chains ⟨_, chain_barrels backText⟩
      (agreed_barrels rfl (by
        rintro entry here index same
        cases List.mem_singleton.mp here
        cases same))
    refine ⟨symbol, found, ?_⟩
    cases found
    by_contra sighted
    exact absurd (resolved.mpr sighted) (by decide +kernel)

end Phrasebook.Program
