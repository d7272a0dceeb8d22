import Triage.Proofs.Screen.Steady

/-!
# The screen mirrors the store

After each pump nothing waits to be looked at, and the screen shows what the
store holds.  Between two pumps the user may do anything, the clocks may go on and
the service may answer as it likes.
-/

namespace Triage

namespace App

variable {setup : Setup} {app : App}

/-! ## Pumping -/

theorem Steady.emptied (steady : app.Steady) : app.emptied.Steady := {
  steady with
  expected := by simp [App.emptied] }

/-- Between two steps there is no phase to show. -/
theorem Steady.run_followPhase (steady : app.Steady) :
    (followPhase setup).run app = (.ok (), app) := by
  simp only [followPhase, Work.run_bind, Work.run_get, steady.idle, steady.seen]
  rfl

theorem Steady.lookForChanges (steady : app.Steady) (usable : setup.probeInterval.Usable)
    (mirrors : app.Mirrors) :
    ∃ after, (App.lookForChanges setup).run app = (.ok (), after) ∧ after.Steady ∧
      after.Mirrors ∧ after.session.completions = app.session.completions := by
  obtain ⟨store, intact, sound⟩ := steady.working
  obtain ⟨looked, run⟩ := run_lookForChanges usable intact
  have calm : Steady { app with session := { app.session with lastProbe := looked } } := {
    steady with }
  rcases run with nothing | again
  · exact ⟨_, nothing, calm, mirrors.of_same rfl rfl, rfl⟩
  · obtain ⟨after, read, kept, shown, same⟩ := calm.reload
    exact ⟨after, again.trans read, kept, shown, by rw [same]⟩

/-- After a pump nothing waits, and the screen shows what the store holds. -/
theorem Steady.pump (steady : app.Steady) (usable : setup.probeInterval.Usable)
    (current : app.Current) :
    ∃ after, (App.pump setup).run app = (.ok (), after) ∧ after.Steady ∧ after.Mirrors ∧
      after.session.completions = [] := by
  obtain ⟨between, completed, kept, waiting, shown⟩ :=
    steady.emptied.completeAll setup steady.expected
  have mirrors : between.Mirrors := by
    apply shown
    rcases current with before | news
    · exact .inl (before.of_same rfl rfl)
    · exact .inr news
  obtain ⟨after, looked, done, same, still⟩ := kept.lookForChanges usable mirrors
  refine ⟨after, ?_, done, same, still.trans waiting⟩
  rw [run_pump completed, Work.run_bind_ok kept.run_followPhase, looked]

/-! ## Whole runs -/

/-- What comes to the application from outside. -/
inductive Input where
  /-- Something that the user does. -/
  | user (event : Event)
  | pump
  /-- The clocks go on. -/
  | pass (now : Timestamp) (seconds : Binary64)

/-- Events come from the user, and the clock can be used. -/
def Input.Allowed : Input → Prop
  | .user event => event.FromUser
  | .pump => True
  | .pass now _ => now.Usable

/-- Deal with something from outside. -/
def feed (setup : Setup) : Input → AppWork Unit
  | .user event => dispatch setup event
  | .pump => App.pump setup
  | .pass now seconds => useSession (Session.pass now seconds)

/-- Start, and deal with everything that comes from outside. -/
def course (setup : Setup) (inputs : List Input) : AppWork Unit := do
  start setup
  inputs.forM (feed setup)

/-- Before its start the application shows nothing and nothing was done. -/
structure Fresh (app : App) : Prop where
  working : ∃ store, app.session.file = .intact store ∧ store.Sound
  clock : app.session.now.Usable
  idle : app.session.phase = .idle
  quiet : app.session.completions = []
  screen : app.screen = {}
  seen : app.seenPhase = .idle

theorem Fresh.steady (fresh : app.Fresh) : app.Steady where
  working := fresh.working
  clock := fresh.clock
  expected := by simp [fresh.quiet]
  idle := fresh.idle
  seen := fresh.seen
  loading := by rw [fresh.screen]
  syncing := by rw [fresh.screen]
  proper := by
    rw [fresh.screen]
    exact ⟨⟨.inbox, rfl⟩, rfl⟩
  fits := by simp [fresh.screen]

/-- What a start does once the store is shown, as if the user did it. -/
def opening (setup : Setup) (app : App) : List Input :=
  match ((useSession (Resync.isNeeded setup)).run app).1 with
  | .ok true => [.user .resync]
  | _ => []

theorem opening_cases (setup : Setup) (app : App) :
    opening setup app = [] ∨ opening setup app = [.user .resync] := by
  rw [opening]
  split
  · exact .inr rfl
  · exact .inl rfl

/-- A start shows the store and then goes on with the opening. -/
theorem Fresh.run_start (setup : Setup) (fresh : app.Fresh) :
    ∃ shown, reload.run app = (.ok (), shown) ∧ shown.Steady ∧ shown.Mirrors ∧
      (App.start setup).run app = ((opening setup shown).forM (feed setup)).run shown := by
  obtain ⟨shown, read, kept, mirrors, _⟩ := fresh.steady.reload
  obtain ⟨store, intact, sound⟩ := kept.working
  obtain ⟨stale, asked⟩ := sound.run_isStale kept.clock.aware Store.notificationsResource
    setup.lifetime
  have same : ({ shown.session with file := .intact store } : Session) = shown.session := by
    rw [← intact]
  have needed : (useSession (Resync.isNeeded setup)).run shown = (.ok stale, shown) := by
    simp only [run_useSession, Resync.isNeeded, Work.run_bind, Work.run_get, Session.run_useStore,
      intact, asked, same]
  refine ⟨shown, read, kept, mirrors, ?_⟩
  rw [App.start, Work.run_bind_ok read, Work.run_bind_ok needed, opening, needed]
  cases stale with
  | false => rfl
  | true => exact (Work.run_forM_singleton (.user .resync) (feed setup) shown).symm

/-- Starting shows what the store holds. -/
theorem Fresh.start (setup : Setup) (fresh : app.Fresh) :
    ∃ after, (App.start setup).run app = (.ok (), after) ∧ after.Steady ∧ after.Current := by
  obtain ⟨shown, _, kept, mirrors, opened⟩ := fresh.run_start setup
  rcases opening_cases setup shown with nothing | resync
  · rw [nothing] at opened
    exact ⟨shown, opened, kept, .inl mirrors⟩
  · have user : Event.FromUser .resync := trivial
    obtain ⟨after, run, done, current⟩ := kept.dispatch setup user
    rw [resync, Work.run_forM_singleton] at opened
    exact ⟨after, opened.trans run, done, current (.inl mirrors)⟩

theorem Steady.feed (steady : app.Steady) (usable : setup.probeInterval.Usable)
    (current : app.Current) {input : Input} (allowed : input.Allowed) :
    ∃ after, (App.feed setup input).run app = (.ok (), after) ∧ after.Steady ∧ after.Current := by
  cases input with
  | user event =>
      obtain ⟨after, run, kept, still⟩ := steady.dispatch setup allowed
      exact ⟨after, run, kept, still current⟩
  | pump =>
      obtain ⟨after, run, kept, mirrors, _⟩ := steady.pump usable current
      exact ⟨after, run, kept, .inl mirrors⟩
  | pass now seconds =>
      refine ⟨_, rfl, { steady with clock := allowed }, ?_⟩
      rcases current with mirrors | news
      · exact .inl (mirrors.of_same rfl rfl)
      · exact .inr news

/-- All inputs are dealt with, and the screen stays current. -/
theorem Steady.feedAll (steady : app.Steady) (usable : setup.probeInterval.Usable)
    (current : app.Current) {inputs : List Input} (allowed : ∀ input ∈ inputs, input.Allowed) :
    ∃ after, (inputs.forM (App.feed setup)).run app = (.ok (), after) ∧ after.Steady ∧
      after.Current := by
  -- between two inputs the screen may lag behind, so what is carried along is
  -- that it is current
  induction inputs generalizing app with
  | nil => exact ⟨app, rfl, steady, current⟩
  | cons input rest ih =>
      obtain ⟨between, first, kept, still⟩ :=
        steady.feed usable current (allowed input List.mem_cons_self)
      obtain ⟨after, later, done, shown⟩ :=
        ih kept still fun other member => allowed other (List.mem_cons_of_mem _ member)
      exact ⟨after, (Work.run_forM_cons_ok first rest).trans later, done, shown⟩

/-- Whatever has happened since the start, after a pump nothing waits to be looked
at, the screen shows what the store holds, and nothing seems to be going on. -/
theorem mirrors_after_pump (fresh : app.Fresh) (usable : setup.probeInterval.Usable)
    (inputs : List Input) (allowed : ∀ input ∈ inputs, input.Allowed) :
    ∃ before after, (course setup inputs).run app = (.ok (), before) ∧
      (App.pump setup).run before = (.ok (), after) ∧ after.session.completions = [] ∧
        after.Mirrors ∧ after.screen.loading = false ∧ after.screen.syncing = false := by
  obtain ⟨started, run, steady, current⟩ := fresh.start setup
  obtain ⟨before, fed, kept, still⟩ := steady.feedAll usable current allowed
  obtain ⟨after, pumped, done, mirrors, quiet⟩ := kept.pump usable still
  refine ⟨before, after, ?_, pumped, quiet, mirrors, done.loading, done.syncing⟩
  rw [course, Work.run_bind_ok run, fed]

/-- An application whose service refuses the token when it is asked for
notifications. -/
def refusedStart : App where
  session := Resync.refusedSession

theorem fresh_refusedStart : refusedStart.Fresh where
  working := by
    refine ⟨_, rfl, @Store.sound_ofRows [{ id := 7 }] ?_ (by decide)⟩
    intro record member
    rw [List.mem_singleton.1 member]
    exact Notification.inUtc_of_none rfl rfl rfl Timestamp.inUtc?_none
  clock := ⟨⟨_, rfl⟩, rfl⟩
  idle := rfl
  quiet := rfl
  screen := rfl
  seen := rfl

/-- A star and a look at another view, and after a pump a synchronisation. -/
def starCourse : List Input :=
  [.user .toggleStar, .user (.nextTab 1), .pump, .user .resync]

theorem mirrors_after_star :
    refusedStart.Fresh ∧ Setup.sample.probeInterval.Usable ∧
      (∀ input ∈ starCourse, input.Allowed) ∧
      ∃ before after, (course .sample starCourse).run refusedStart = (.ok (), before) ∧
        (App.pump .sample).run before = (.ok (), after) ∧ after.session.completions = [] ∧
          after.Mirrors ∧ after.screen.loading = false ∧ after.screen.syncing = false := by
  have allowed : ∀ input ∈ starCourse, input.Allowed := by
    simp [starCourse, Input.Allowed, Event.FromUser]
  exact ⟨fresh_refusedStart, Setup.usable_sample, allowed,
    mirrors_after_pump fresh_refusedStart Setup.usable_sample starCourse allowed⟩

end App

end Triage
