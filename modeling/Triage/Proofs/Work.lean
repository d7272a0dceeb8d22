/-!
# Running work

Transactions, work on the store's file, work with the service, work in a session
and work in the application all change a state and may fail.  What a sequence of
steps does follows from what each step does: a step that succeeds hands its value
and its state to the next one, and a step that fails ends the sequence.
-/

namespace Triage

namespace Outcome

variable {ε α β : Type}

theorem bind_eq_ok {outcome : Except ε α} {next : α → Except ε β} {result : β} :
    (outcome >>= next) = .ok result ↔ ∃ value, outcome = .ok value ∧ next value = .ok result := by
  cases outcome <;> simp [bind, Except.bind]

theorem bind_eq_error {outcome : Except ε α} {next : α → Except ε β} {error : ε} :
    (outcome >>= next) = .error error ↔
      outcome = .error error ∨ ∃ value, outcome = .ok value ∧ next value = .error error := by
  cases outcome <;> simp [bind, Except.bind]

theorem map_eq_ok {outcome : Except ε α} {image : α → β} {result : β} :
    (image <$> outcome) = .ok result ↔ ∃ value, outcome = .ok value ∧ image value = result := by
  cases outcome <;> simp [Functor.map, Except.map]

theorem mapError_eq_ok {δ : Type} {outcome : Except ε α} {change : ε → δ} {result : α} :
    outcome.mapError change = .ok result ↔ outcome = .ok result := by
  constructor
  all_goals
    intro done
    cases outcome <;> cases done
    rfl

theorem mapError_eq_error {δ : Type} {outcome : Except ε α} {change : ε → δ} {error : δ} :
    outcome.mapError change = .error error ↔
      ∃ cause, outcome = .error cause ∧ change cause = error := by
  constructor
  · intro failed
    cases outcome <;> cases failed
    exact ⟨_, rfl, rfl⟩
  · rintro ⟨cause, rfl, rfl⟩
    rfl

theorem mapM_eq_ok {items : List α} {step : α → Except ε β} {image : α → β}
    (each : ∀ item ∈ items, step item = .ok (image item)) :
    items.mapM step = .ok (items.map image) := by
  induction items with
  | nil => rfl
  | cons item rest ih =>
      have first := each item (by simp)
      have others := ih fun other member => each other (by simp [member])
      rw [List.mapM_cons, first, others]
      rfl

/-- A sequence of steps fails in one of them. -/
theorem mapM_eq_error {items : List α} {step : α → Except ε β} {error : ε}
    (failed : items.mapM step = .error error) : ∃ item ∈ items, step item = .error error := by
  induction items with
  | nil => cases failed
  | cons item rest ih =>
      rw [List.mapM_cons] at failed
      obtain failed | ⟨_, _, failed⟩ := bind_eq_error.1 failed
      · exact ⟨item, by simp, failed⟩
      · obtain failed | ⟨_, _, failed⟩ := bind_eq_error.1 failed
        · obtain ⟨other, member, failed⟩ := ih failed
          exact ⟨other, by simp [member], failed⟩
        · cases failed

/-- If every value that a step can have is known, then so are the values of a
sequence of steps, all of which succeed. -/
theorem mapM_eq_ok_iff {items : List α} {step : α → Except ε β} {image : α → β}
    (known : ∀ item result, step item = .ok result → result = image item)
    {results : List β} :
    items.mapM step = .ok results ↔
      (∀ item ∈ items, step item = .ok (image item)) ∧ results = items.map image := by
  constructor
  · intro done
    induction items generalizing results with
    | nil =>
        cases done
        simp
    | cons item rest ih =>
        rw [List.mapM_cons] at done
        obtain ⟨result, first, done⟩ := bind_eq_ok.1 done
        obtain ⟨others, later, done⟩ := bind_eq_ok.1 done
        obtain ⟨each, rfl⟩ := ih later
        cases known item result first
        cases done
        exact ⟨by simpa [first] using each, rfl⟩
  · rintro ⟨each, rfl⟩
    exact mapM_eq_ok each

/-- The values of a sequence of steps that succeed are images of the items. -/
theorem mapM_eq_ok_map {items : List α} {step : α → Except ε β} {results : List β}
    (fallback : β) (done : items.mapM step = .ok results) :
    ∃ image : α → β, (∀ item ∈ items, step item = .ok (image item)) ∧
      results = items.map image := by
  refine ⟨fun item => (step item).toOption.getD fallback, (mapM_eq_ok_iff ?_).1 done⟩
  intro item result found
  rw [found]
  rfl

end Outcome

namespace Work

variable {ε σ α β : Type} {work : ExceptT ε (StateM σ) α} {next : α → ExceptT ε (StateM σ) β}
  {before after : σ}

@[simp] theorem run_pure (value : α) (state : σ) :
    (pure value : ExceptT ε (StateM σ) α).run state = (.ok value, state) := rfl

@[simp] theorem run_throw (error : ε) (state : σ) :
    (throw error : ExceptT ε (StateM σ) α).run state = (.error error, state) := rfl

@[simp] theorem run_get (state : σ) :
    (get : ExceptT ε (StateM σ) σ).run state = (.ok state, state) := rfl

@[simp] theorem run_set (later state : σ) :
    (set later : ExceptT ε (StateM σ) PUnit).run state = (.ok ⟨⟩, later) := rfl

@[simp] theorem run_modify (change : σ → σ) (state : σ) :
    (modify change : ExceptT ε (StateM σ) PUnit).run state = (.ok ⟨⟩, change state) := rfl

@[simp] theorem run_mk (step : StateM σ (Except ε α)) (state : σ) :
    (ExceptT.mk step).run state = step state := rfl

/-- An outcome that needs no state leaves it alone. -/
@[simp] theorem run_lift (outcome : Except ε α) (state : σ) :
    (liftM outcome : ExceptT ε (StateM σ) α).run state = (outcome, state) := rfl

@[simp] theorem run_ofExcept (outcome : Except ε α) (state : σ) :
    (MonadExcept.ofExcept outcome : ExceptT ε (StateM σ) α).run state = (outcome, state) := by
  cases outcome <;> rfl

theorem run_bind (work : ExceptT ε (StateM σ) α) (next : α → ExceptT ε (StateM σ) β)
    (state : σ) :
    (work >>= next).run state =
      match work.run state with
      | (.ok value, later) => (next value).run later
      | (.error error, later) => (.error error, later) := by
  change (ExceptT.bindCont next (work.run state).1).run (work.run state).2 = _
  rcases work.run state with ⟨outcome, later⟩
  cases outcome <;> rfl

/-- A step that succeeds hands over to the next one. -/
theorem run_bind_ok {value : α} (done : work.run before = (.ok value, after)) :
    (work >>= next).run before = (next value).run after := by
  rw [run_bind, done]

theorem run_bind_error {error : ε} (failed : work.run before = (.error error, after)) :
    (work >>= next).run before = (.error error, after) := by
  rw [run_bind, failed]

/-- A sequence that succeeds is one of steps that succeed. -/
theorem bind_eq_ok {result : β} (done : (work >>= next).run before = (.ok result, after)) :
    ∃ value between, work.run before = (.ok value, between) ∧
      (next value).run between = (.ok result, after) := by
  rw [run_bind] at done
  split at done
  · next value between first => exact ⟨value, between, first, done⟩
  · cases done

/-- A sequence that fails does so in its first step or after it. -/
theorem bind_eq_error {error : ε} (failed : (work >>= next).run before = (.error error, after)) :
    work.run before = (.error error, after) ∨
      ∃ value between, work.run before = (.ok value, between) ∧
        (next value).run between = (.error error, after) := by
  rw [run_bind] at failed
  split at failed
  · next value between first => exact .inr ⟨value, between, first, failed⟩
  · next first =>
      cases failed
      exact .inl first

/-- What a step with a handler for its failure does. -/
theorem run_tryCatch (work : ExceptT ε (StateM σ) α) (handler : ε → ExceptT ε (StateM σ) α)
    (state : σ) :
    (tryCatch work handler).run state =
      match work.run state with
      | (.ok value, later) => (.ok value, later)
      | (.error error, later) => (handler error).run later := by
  change ((fun outcome : Except ε α => match outcome with
    | .ok value => pure (.ok value)
    | .error error => handler error : Except ε α → StateM σ (Except ε α))
      (work.run state).1) (work.run state).2 = _
  rcases work.run state with ⟨outcome, later⟩
  cases outcome <;> rfl

theorem run_mapM_lift {γ : Type} (items : List γ) (step : γ → Except ε α) (state : σ) :
    (items.mapM fun item => (liftM (step item) : ExceptT ε (StateM σ) α)).run state =
      (items.mapM step, state) := by
  induction items with
  | nil => rfl
  | cons item rest ih =>
      rw [List.mapM_cons, List.mapM_cons, run_bind, run_lift]
      cases step item with
      | error error => rfl
      | ok value =>
          simp only [run_bind, ih]
          cases rest.mapM step <;> rfl

theorem run_forM_cons {γ : Type} (item : γ) (rest : List γ)
    (step : γ → ExceptT ε (StateM σ) PUnit) :
    (item :: rest).forM step = step item >>= fun _ => rest.forM step := rfl

theorem run_forM_cons_ok {γ : Type} {item : γ} {step : γ → ExceptT ε (StateM σ) PUnit}
    {between : σ} (first : (step item).run before = (.ok ⟨⟩, between)) (rest : List γ) :
    ((item :: rest).forM step).run before = (rest.forM step).run between := by
  rw [run_forM_cons, run_bind_ok first]

theorem run_forM_singleton {γ : Type} (item : γ) (step : γ → ExceptT ε (StateM σ) PUnit)
    (state : σ) : ([item].forM step).run state = (step item).run state := by
  rw [run_forM_cons, run_bind]
  rcases (step item).run state with ⟨outcome, later⟩
  cases outcome <;> rfl

/-! ## What a step leaves alone -/

variable {γ : Type} {part : σ → γ}

/-- Whether a step succeeds or fails, a part of the state stays as it was. -/
def Keeps (part : σ → γ) (work : ExceptT ε (StateM σ) α) : Prop :=
  ∀ state, part (work.run state).2 = part state

theorem keeps_pure (value : α) : Keeps part (pure value : ExceptT ε (StateM σ) α) :=
  fun _ => rfl

theorem keeps_throw (error : ε) : Keeps part (throw error : ExceptT ε (StateM σ) α) :=
  fun _ => rfl

theorem keeps_ofExcept (outcome : Except ε α) :
    Keeps part (MonadExcept.ofExcept outcome : ExceptT ε (StateM σ) α) :=
  fun state => by rw [run_ofExcept]

theorem keeps_get : Keeps part (get : ExceptT ε (StateM σ) σ) :=
  fun _ => rfl

/-- What is kept together is kept apart. -/
theorem Keeps.image {δ : Type} (kept : Keeps part work) (image : γ → δ) :
    Keeps (fun state => image (part state)) work :=
  fun state => congrArg image (kept state)

/-- What the later steps leave alone is as the first one left it. -/
theorem Keeps.behind (rest : ∀ value, Keeps part (next value)) (state : σ) :
    part ((work >>= next).run state).2 = part (work.run state).2 := by
  rw [run_bind]
  split
  · next value later done => rw [done, rest value later]
  · next error later failed => rw [failed]

theorem Keeps.bind (first : Keeps part work) (rest : ∀ value, Keeps part (next value)) :
    Keeps part (work >>= next) :=
  fun state => (Keeps.behind rest state).trans (first state)

theorem Keeps.forM {δ : Type} {step : δ → ExceptT ε (StateM σ) PUnit}
    (each : ∀ item, Keeps part (step item)) (items : List δ) : Keeps part (items.forM step) := by
  induction items with
  | nil => exact keeps_pure _
  | cons item rest ih => exact (each item).bind fun _ => ih

theorem Keeps.tryCatch {handler : ε → ExceptT ε (StateM σ) α} (first : Keeps part work)
    (rest : ∀ error, Keeps part (handler error)) : Keeps part (tryCatch work handler) := by
  intro state
  have kept := first state
  rw [run_tryCatch]
  split
  · next value later done => rwa [done] at kept
  · next error later failed =>
      rw [failed] at kept
      rw [rest error later, kept]

end Work

end Triage
