import Triage.Proofs.Action.Session
import Triage.Screen.App

/-!
# Runs of the application

What the application's steps do while its store can be read: answers of the
screen, reading the store again, and dealing with the outcome of an action.
-/

namespace Triage

/-- The screen after the store was read again. -/
def Screen.refreshed (screen : Screen) (store : Store) (view : View) : Screen :=
  clampSelection { screen with
    notifications := store.shown view
    counts := store.notifications.counts
    totals := store.notifications.totals }

theorem Screen.handle_loaded {screen : Screen} {store : Store} {view : View}
    (named : screen.view = view.name) :
    screen.handle (.loaded view.name (store.shown view) store.notifications.counts
      store.notifications.totals) = (screen.refreshed store view, []) := by
  have shown : (view.name == screen.view) = true := by simp [named]
  simp only [handle, loaded, shown, if_true]
  rfl

/-! ## Looking for changes -/

/-- An interval that can be compared with the time since the last look. -/
def Limit.Usable (limit : Limit) : Prop :=
  ∀ kind, limit ≠ .unusable kind

theorem Limit.Usable.isAbove {limit : Limit} (usable : limit.Usable) (value : Binary64) :
    ∃ above, limit.isAbove value = .ok above := by
  cases limit with
  | integer bound => exact ⟨_, rfl⟩
  | fraction bound => exact ⟨_, rfl⟩
  | unusable kind => exact absurd rfl (usable kind)

theorem Setup.usable_sample : Setup.sample.probeInterval.Usable := by
  rintro kind ⟨⟩

/-- Looking for changes of an intact store changes nothing but the time of the
last look. -/
theorem Probe.run_check {setup : Setup} (usable : setup.probeInterval.Usable) (known : TabCounts)
    {session : Session} {store : Store} (intact : session.file = .intact store) :
    ∃ found looked, (check setup known).run session =
      (.ok found, { session with lastProbe := looked }) := by
  obtain ⟨early, timed⟩ : ∃ early, isEarly setup session = .ok early := by
    rw [isEarly]
    split
    · exact usable.isAbove _
    · exact ⟨false, rfl⟩
  simp only [check, Work.run_bind, Work.run_get, timed]
  cases early with
  | true => exact ⟨none, session.lastProbe, rfl⟩
  | false =>
      refine ⟨if store.notifications.counts = known then none
        else some store.notifications.counts, some session.uptime, ?_⟩
      simp only [Work.run_bind, Work.run_modify, Session.run_useStore, intact, Store.run_counts,
        Work.run_pure]

namespace App

variable {setup : Setup} {app : App} {store : Store} {view : View}

/-- The screen shows what the store holds. -/
structure Mirrors (app : App) : Prop where
  notifications : (Store.loadNamed app.screen.view).run app.session.file =
    (.ok app.screen.notifications, app.session.file)
  counts : Store.counts.run app.session.file = (.ok app.screen.counts, app.session.file)
  totals : Store.totals.run app.session.file = (.ok app.screen.totals, app.session.file)

theorem Mirrors.of_same {after : App} (mirrors : app.Mirrors)
    (file : after.session.file = app.session.file) (screen : after.screen = app.screen) :
    after.Mirrors := by
  constructor
  · rw [file, screen]
    exact mirrors.notifications
  · rw [file, screen]
    exact mirrors.counts
  · rw [file, screen]
    exact mirrors.totals

@[simp] theorem run_useSession {α : Type} (work : SessionWork α) (app : App) :
    (useSession work).run app =
      ((work.run app.session).1, { app with session := (work.run app.session).2 }) := rfl

/-- With a usable selection the screen answers every event. -/
theorem run_answer (usable : app.screen.selectionFault? = none) (event : Event) :
    (answer event).run app =
      (.ok (app.screen.handle event).2, { app with screen := (app.screen.handle event).1 }) := by
  simp only [answer, Work.run_bind, Work.run_get, Screen.respond_eq_handle usable, Work.run_set,
    Work.run_pure]

/-- An event is answered, and the commands of the answer are carried out. -/
theorem run_dispatch (usable : app.screen.selectionFault? = none) (event : Event) :
    (dispatch setup event).run app =
      ((app.screen.handle event).2.forM (execute setup)).run
        { app with screen := (app.screen.handle event).1 } := by
  rw [dispatch, Work.run_bind_ok (run_answer usable event)]

/-- Reading a sound store again shows what it holds. -/
theorem run_reload (intact : app.session.file = .intact store) (sound : store.Sound)
    (named : app.screen.view = view.name) (usable : app.screen.selectionFault? = none) :
    reload.run app = (.ok (), { app with screen := app.screen.refreshed store view }) := by
  have loaded := sound.run_loadNamed view
  have answered := run_answer usable (.loaded view.name (store.shown view)
    store.notifications.counts store.notifications.totals)
  rw [Screen.handle_loaded named] at answered
  have same : ({ app.session with file := .intact store } : Session) = app.session := by
    rw [← intact]
  simp only [reload, Work.run_bind, Work.run_get, run_useSession, Session.run_useStore, named,
    intact, loaded, same, Store.run_counts, Store.run_totals, answered, Work.run_pure]

/-- What it means to show what a sound store holds. -/
theorem mirrors_iff (intact : app.session.file = .intact store) (sound : store.Sound)
    (named : app.screen.view = view.name) :
    app.Mirrors ↔ app.screen.notifications = store.shown view ∧
      app.screen.counts = store.notifications.counts ∧
        app.screen.totals = store.notifications.totals := by
  constructor
  · rintro ⟨notifications, counts, totals⟩
    rw [named, intact, sound.run_loadNamed view] at notifications
    rw [intact, Store.run_counts] at counts
    rw [intact, Store.run_totals] at totals
    exact ⟨(Except.ok.inj (Prod.mk.inj notifications).1).symm,
      (Except.ok.inj (Prod.mk.inj counts).1).symm, (Except.ok.inj (Prod.mk.inj totals).1).symm⟩
  · rintro ⟨notifications, counts, totals⟩
    constructor
    · rw [named, intact, sound.run_loadNamed view, notifications]
    · rw [intact, Store.run_counts, counts]
    · rw [intact, Store.run_totals, totals]

theorem mirrors_of_refreshed {screen : Screen} (intact : app.session.file = .intact store)
    (sound : store.Sound) (named : screen.view = view.name)
    (read : app.screen = screen.refreshed store view) : app.Mirrors := by
  have still : app.screen.view = view.name := by
    rw [read]
    exact named
  rw [mirrors_iff intact sound still, read]
  exact ⟨rfl, rfl, rfl⟩

/-- The application in another session, of which a store was read. -/
def showing (app : App) (session : Session) (store : Store) (view : View) : App :=
  { app with
    session := session
    screen := app.screen.refreshed store view }

/-- The application after a plan was written into a store, shown and sent. -/
def acted (app : App) (setup : Setup) (store : Store) (text : String) (view : View) (plan : Plan) :
    App :=
  app.showing
    ((Plan.submit setup plan).run { app.session with
      file := .intact (store.assigned text plan.changes) }).2
    (store.assigned text plan.changes) view

/-- An action is written into the store, shown and sent. -/
theorem run_act (setup : Setup) (intact : app.session.file = .intact store) (sound : store.Sound)
    {text : String} (stored : app.session.now.stored = .ok text)
    (named : app.screen.view = view.name) (usable : app.screen.selectionFault? = none)
    {plan : Plan} (writable : Assignment.Writable plan.changes) (filled : plan.isEmpty = false) :
    ([.patchStore plan.changes, .reload, .callRemote plan].forM (execute setup)).run app =
      (.ok (), app.acted setup store text view plan) := by
  have applied := Plan.run_applyChanges writable intact stored
  have first : (execute setup (.patchStore plan.changes)).run app =
      (.ok (), { app with session := { app.session with
        file := .intact (store.assigned text plan.changes) } }) := by
    simp only [execute, run_useSession, applied]
  have second : (execute setup .reload).run { app with session := { app.session with
        file := .intact (store.assigned text plan.changes) } } = _ :=
    run_reload rfl (sound.assigned stored _) named usable
  obtain ⟨_, _, run, _⟩ := Plan.run_submit setup filled { app.session with
    file := .intact (store.assigned text plan.changes) }
  rw [Work.run_forM_cons_ok first, Work.run_forM_cons_ok second, Work.run_forM_singleton]
  simp only [execute, run_useSession, run, acted, showing]

/-- An action that failed is undone, and the store is read again. -/
theorem run_completeAction_of_error (setup : Setup) (app : App) {plan : Plan}
    (writable : Assignment.Writable plan.previous) (intact : app.session.file = .intact store)
    {text : String} (stored : app.session.now.stored = .ok text)
    (usable : app.screen.selectionFault? = none) (error : Error) :
    (completeAction setup ⟨Plan.taskKind, .error error, some plan⟩).run app =
      reload.run { app with
        session := { app.session with file := .intact (store.assigned text plan.previous) }
        rollbacks := app.rollbacks + 1
        screen := { app.screen with
          error := some (plan.action.name ++ " failed: " ++ error.message) } } := by
  have settled : (useSession (Plan.settle ⟨Plan.taskKind, .error error, some plan⟩)).run app =
      (.ok true, { app with session := { app.session with
        file := .intact (store.assigned text plan.previous) } }) := by
    rw [run_useSession, Plan.run_settle_of_error rfl rfl writable intact stored]
  rw [completeAction, Work.run_bind_ok settled, if_pos rfl, Work.run_bind_ok (Work.run_modify _ _)]
  change (dispatch setup (.actionFailed plan.action.name error.message)).run _ = _
  rw [run_dispatch]
  · exact Work.run_forM_singleton _ _ _
  · exact usable

theorem run_completeAction_of_ok (setup : Setup) {completion : TaskCompletion} {value : TaskValue}
    (succeeded : completion.outcome = .ok value) (app : App) :
    (completeAction setup completion).run app = (.ok (), app) := by
  have settled : (useSession (Plan.settle completion)).run app = (.ok false, app) := by
    rw [run_useSession, Plan.run_settle_of_ok succeeded]
  rw [completeAction, Work.run_bind_ok settled]
  rfl

/-- The application without outcomes to look at. -/
def emptied (app : App) : App :=
  { app with session := { app.session with completions := [] } }

/-- After the outcomes were dealt with, a pump looks at the phase and the store. -/
theorem run_pump {between : App}
    (completed : (app.session.completions.forM (complete setup)).run app.emptied =
      (.ok (), between)) :
    (pump setup).run app = (followPhase setup >>= fun _ => lookForChanges setup).run between := by
  have drained : (useSession Session.drain).run app =
      (.ok app.session.completions, app.emptied) := rfl
  rw [pump, Work.run_bind_ok drained, Work.run_bind_ok completed]

/-- Looking for changes of an intact store may read it again and does nothing
else. -/
theorem run_lookForChanges (usable : setup.probeInterval.Usable)
    (intact : app.session.file = .intact store) :
    ∃ looked,
      (lookForChanges setup).run app =
        (.ok (), { app with session := { app.session with lastProbe := looked } }) ∨
      (lookForChanges setup).run app =
        reload.run { app with session := { app.session with lastProbe := looked } } := by
  rw [lookForChanges, Work.run_bind_ok (Work.run_get app)]
  cases app.screen.loading || app.screen.syncing with
  | true => exact ⟨app.session.lastProbe, .inl rfl⟩
  | false =>
      obtain ⟨found, looked, check⟩ := Probe.run_check usable app.screen.counts intact
      have asked : (useSession (Probe.check setup app.screen.counts)).run app =
          (.ok found, { app with session := { app.session with lastProbe := looked } }) := by
        rw [run_useSession, check]
      refine ⟨looked, ?_⟩
      simp only [Bool.false_eq_true, if_false, Work.run_bind_ok asked]
      cases found with
      | none => exact .inl rfl
      | some counts => exact .inr rfl

end App

end Triage
