import Mathlib.Data.List.Forall2

/-!
# Steps of actions

Actions change a state and may fail; what they changed before a failure stays changed. Their runs
are taken apart step by step.

- `run_bind`, `run_tryCatch`: what actions in turn do;
- `of_run_bind`: actions in turn succeed if each does;
- `of_run_foldlM_error`: steps in turn fail at the first one that does;
- `mapM_eq_ok_iff`, `mapM_eq_error_iff`: the same for steps that change no state;
- `Ensures`: what the values of an action have in common;
- `Fails`: what its failures have in common;
- `Leads`: how an action leaves the state, whether it succeeds or fails.
-/

namespace Phrasebook.Action

variable {σ ε δ α β : Type}

theorem run_bind (action : ExceptT ε (StateM σ) α) (next : α → ExceptT ε (StateM σ) β)
    (state : σ) :
    (action >>= next).run state =
      match action.run state with
      | (.ok value, middle) => (next value).run middle
      | (.error error, middle) => (.error error, middle) := by
  show (ExceptT.bindCont next (action.run state).1).run (action.run state).2 = _
  rcases action.run state with ⟨_ | _, middle⟩ <;> rfl

/-- Actions in turn succeed if each does, on the state that the one before it leaves. -/
theorem of_run_bind {action : ExceptT ε (StateM σ) α} {next : α → ExceptT ε (StateM σ) β}
    {state after : σ} {result : β} (h : (action >>= next).run state = (.ok result, after)) :
    ∃ value middle, action.run state = (.ok value, middle) ∧
      (next value).run middle = (.ok result, after) := by
  rw [run_bind] at h
  cases done : action.run state with
  | mk outcome middle =>
    rw [done] at h
    cases outcome with
    | error error => cases (Prod.mk.inj h).1
    | ok value => exact ⟨value, middle, rfl, h⟩

theorem run_get (state : σ) : (get : ExceptT ε (StateM σ) σ).run state = (.ok state, state) := rfl

theorem run_lift (found : Except ε α) (state : σ) :
    (liftM found : ExceptT ε (StateM σ) α).run state = (found, state) := by
  cases found <;> rfl

theorem run_adapt (words : ε → δ) (action : ExceptT ε (StateM σ) α) (state : σ) :
    (ExceptT.adapt words action).run state =
      ((action.run state).1.mapError words, (action.run state).2) := rfl

theorem of_run_adapt {words : ε → δ} {action : ExceptT ε (StateM σ) α} {state after : σ}
    {value : α} (h : (ExceptT.adapt words action).run state = (.ok value, after)) :
    action.run state = (.ok value, after) := by
  change ((action.run state).1.mapError words, (action.run state).2) = (.ok value, after) at h
  cases done : action.run state with
  | mk outcome middle =>
    rw [done] at h
    cases outcome with
    | error error => cases (Prod.mk.inj h).1
    | ok found =>
      cases h
      rfl

theorem of_run_adapt_error {words : ε → δ} {action : ExceptT ε (StateM σ) α} {state after : σ}
    {fault : δ} (h : (ExceptT.adapt words action).run state = (.error fault, after)) :
    ∃ error, action.run state = (.error error, after) := by
  change ((action.run state).1.mapError words, (action.run state).2) = (.error fault, after) at h
  cases done : action.run state with
  | mk outcome middle =>
    rw [done] at h
    cases outcome with
    | error error =>
      cases h
      exact ⟨error, rfl⟩
    | ok found => cases (Prod.mk.inj h).1

theorem run_tryCatch (action : ExceptT ε (StateM σ) α) (handler : ε → ExceptT ε (StateM σ) α)
    (state : σ) :
    (tryCatch action handler).run state =
      match action.run state with
      | (.ok value, middle) => (.ok value, middle)
      | (.error error, middle) => (handler error).run middle := by
  show (match (action.run state).1 with
    | .ok value => pure (.ok value)
    | .error error => handler error : StateM σ (Except ε α)) (action.run state).2 = _
  rcases action.run state with ⟨_ | _, middle⟩ <;> rfl

/-- Steps in turn fail at the first one that does; those before it have succeeded. -/
theorem of_run_foldlM_error {step : β → α → ExceptT ε (StateM σ) β} {items : List α} {start : β}
    {state after : σ} {error : ε}
    (h : (items.foldlM step start).run state = (.error error, after)) :
    ∃ done item rest value middle, items = done ++ item :: rest ∧
      (done.foldlM step start).run state = (.ok value, middle) ∧
        (step value item).run middle = (.error error, after) := by
  induction items generalizing start state with
  | nil => cases (Prod.mk.inj h).1
  | cons item rest ih =>
    rw [List.foldlM_cons, run_bind] at h
    rcases first : (step start item).run state with ⟨fault | value, middle⟩
    · rw [first] at h
      cases h
      exact ⟨[], item, rest, start, state, rfl, rfl, first⟩
    · rw [first] at h
      obtain ⟨done, other, later, last, before, rfl, succeeded, failed⟩ := ih h
      refine ⟨item :: done, other, later, last, before, rfl, ?_, failed⟩
      rw [List.foldlM_cons, run_bind, first]
      exact succeeded

/-! ## Steps without a state -/

section

variable {step : α → Except ε β} {items : List α}

theorem mapM_eq_ok_iff {results : List β} :
    items.mapM step = .ok results ↔ items.Forall₂ (step · = .ok ·) results := by
  induction items generalizing results with
  | nil => cases results <;> simp [pure, Except.pure]
  | cons item rest ih =>
    rw [List.mapM_cons]
    cases first : step item with
    | error fault => cases results <;> simp [bind, Except.bind, first]
    | ok result =>
      cases later : rest.mapM step with
      | error fault => cases results <;> simp [bind, Except.bind, ← ih, first, later]
      | ok others =>
        cases results <;> simp [bind, Except.bind, pure, Except.pure, ← ih, first, later]

theorem exists_of_mem_mapM {results : List β} (h : items.mapM step = .ok results) {result : β}
    (here : result ∈ results) : ∃ item ∈ items, step item = .ok result := by
  rw [mapM_eq_ok_iff] at h
  induction h with
  | nil => cases here
  | cons first _ ih =>
    rcases List.mem_cons.mp here with rfl | later
    · exact ⟨_, List.mem_cons_self, first⟩
    · obtain ⟨item, among, done⟩ := ih later
      exact ⟨item, List.mem_cons_of_mem _ among, done⟩

/-- Steps in turn fail with the error of the first one that does. -/
theorem mapM_eq_error_iff {error : ε} :
    items.mapM step = .error error ↔ ∃ done item rest, items = done ++ item :: rest ∧
      (∀ other ∈ done, ∃ result, step other = .ok result) ∧ step item = .error error := by
  induction items with
  | nil => simp [pure, Except.pure]
  | cons head tail ih =>
    rw [List.mapM_cons]
    cases first : step head with
    | error fault =>
      -- The first step fails, and nothing is in front of it.
      constructor
      · intro h
        cases h
        exact ⟨[], head, tail, rfl, nofun, first⟩
      · rintro ⟨done, item, rest, same, fine, failed⟩
        rcases List.cons_eq_append_iff.mp same with ⟨rfl, same⟩ | ⟨others, rfl, -⟩
        · cases same
          cases first.symm.trans failed
          rfl
        · obtain ⟨result, passed⟩ := fine head List.mem_cons_self
          cases first.symm.trans passed
    | ok result =>
      -- The first step succeeds, so what fails is one of the others.
      have later : (do return result :: (← tail.mapM step)) = Except.error error ↔
          tail.mapM step = .error error := by
        cases tail.mapM step <;> simp [bind, Except.bind, pure, Except.pure]
      refine later.trans (ih.trans ⟨?_, ?_⟩)
      · rintro ⟨done, item, rest, rfl, fine, failed⟩
        exact ⟨head :: done, item, rest, rfl, List.forall_mem_cons.mpr ⟨⟨result, first⟩, fine⟩,
          failed⟩
      · rintro ⟨done, item, rest, same, fine, failed⟩
        rcases List.cons_eq_append_iff.mp same with ⟨rfl, same⟩ | ⟨others, rfl, same⟩
        · cases same
          cases first.symm.trans failed
        · have later := (List.forall_mem_cons.mp fine).2
          exact ⟨others, item, rest, (List.cons.inj same).2, later, failed⟩

end

/-! ## What values have in common -/

/-- Whatever the action gives has the property. -/
def Ensures (property : α → Prop) (action : ExceptT ε (StateM σ) α) : Prop :=
  ∀ state value after, action.run state = (.ok value, after) → property value

/-! ## What failures have in common -/

/-- However the action fails, its error and the state that it leaves have the property. -/
def Fails (property : ε → σ → Prop) (action : ExceptT ε (StateM σ) α) : Prop :=
  ∀ state error after, action.run state = (.error error, after) → property error after

namespace Fails

variable {property : ε → σ → Prop}

theorem pure (value : α) : Fails property (pure value : ExceptT ε (StateM σ) α) := by
  intro state error after h
  cases (Prod.mk.inj h).1

theorem get : Fails property (get : ExceptT ε (StateM σ) σ) := by
  intro state error after h
  cases (Prod.mk.inj h).1

theorem bind {action : ExceptT ε (StateM σ) α} {next : α → ExceptT ε (StateM σ) β}
    (first : Fails property action) (second : ∀ value, Fails property (next value)) :
    Fails property (action >>= next) := by
  intro state error after h
  rw [run_bind] at h
  split at h
  · exact second _ _ _ _ h
  · next failed =>
    obtain ⟨same, rfl⟩ := Prod.mk.inj h
    exact first _ _ _ (Except.error.inj same ▸ failed)

theorem adapt {words : δ → ε} {action : ExceptT δ (StateM σ) α}
    (h : Fails (fun error => property (words error)) action) :
    Fails property (ExceptT.adapt words action) := by
  intro state fault after failed
  rw [run_adapt] at failed
  obtain ⟨same, rfl⟩ := Prod.mk.inj failed
  rcases done : action.run state with ⟨error | value, middle⟩
  · rw [done] at same
    cases same
    exact h state error middle done
  · rw [done] at same
    cases same

theorem foldlM {step : β → α → ExceptT ε (StateM σ) β} {items : List α}
    (each : ∀ value, ∀ item ∈ items, Fails property (step value item)) (start : β) :
    Fails property (items.foldlM step start) := by
  intro state error after h
  obtain ⟨done, item, rest, value, middle, rfl, -, failed⟩ := of_run_foldlM_error h
  exact each value item (List.mem_append_right _ List.mem_cons_self) middle error after failed

end Fails

/-! ## What becomes of states -/

/-- However the action ends, the state that it leaves is related to the one that it found. -/
def Leads (related : σ → σ → Prop) (action : ExceptT ε (StateM σ) α) : Prop :=
  ∀ state, related state (action.run state).2

namespace Leads

variable {related : σ → σ → Prop}

theorem pure [Std.Refl related] (value : α) :
    Leads related (pure value : ExceptT ε (StateM σ) α) := fun state => Std.Refl.refl state

theorem throw [Std.Refl related] (error : ε) :
    Leads related (throw error : ExceptT ε (StateM σ) α) := fun state => Std.Refl.refl state

theorem get [Std.Refl related] : Leads related (get : ExceptT ε (StateM σ) σ) :=
  fun state => Std.Refl.refl state

theorem adapt {words : ε → δ} {action : ExceptT ε (StateM σ) α} (h : Leads related action) :
    Leads related (ExceptT.adapt words action) := h

variable [Trans related related related]

theorem bind {action : ExceptT ε (StateM σ) α} {next : α → ExceptT ε (StateM σ) β}
    (first : Leads related action) (second : ∀ value, Leads related (next value)) :
    Leads related (action >>= next) := by
  intro state
  have led := first state
  rw [run_bind]
  generalize action.run state = done at led ⊢
  rcases done with ⟨error | value, middle⟩
  · exact led
  · exact Trans.trans led (second value middle)

theorem tryCatch {action : ExceptT ε (StateM σ) α} {handler : ε → ExceptT ε (StateM σ) α}
    (first : Leads related action) (second : ∀ error, Leads related (handler error)) :
    Leads related (tryCatch action handler) := by
  intro state
  have led := first state
  rw [run_tryCatch]
  generalize action.run state = done at led ⊢
  rcases done with ⟨error | value, middle⟩
  · exact Trans.trans led (second error middle)
  · exact led

theorem foldlM [Std.Refl related] {step : β → α → ExceptT ε (StateM σ) β} {items : List α}
    (each : ∀ value, ∀ item ∈ items, Leads related (step value item)) (start : β) :
    Leads related (items.foldlM step start) := by
  induction items generalizing start with
  | nil => exact pure start
  | cons item rest ih =>
    rw [List.foldlM_cons]
    refine bind (each start item List.mem_cons_self) (ih fun value item later => ?_)
    exact each value item (List.mem_cons_of_mem _ later)

end Leads

end Phrasebook.Action
