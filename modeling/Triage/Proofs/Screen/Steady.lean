import Triage.Proofs.Resync.AllOrNothing
import Triage.Proofs.Screen.Answer
import Triage.Proofs.Screen.Run

/-!
# Steps of the application

Whatever the user does and whatever the service answers, each step of the
application succeeds.  The screen then shows what the store holds, except in one
case: a synchronisation has replaced the rows, and its outcome is still to be
looked at.
-/

namespace Triage

/-- A clock that knows its offset and whose time can be written. -/
structure Timestamp.Usable (time : Timestamp) : Prop where
  stored : ∃ text, time.stored = .ok text
  aware : time.offset.isNone = false

/-- A synchronisation that succeeded and was not looked at. -/
def Completion.BringsNews (completion : TaskCompletion) : Prop :=
  completion.kind = Resync.taskKind ∧ ∃ result, completion.outcome = .ok (.resync result)

/-- The outcomes of the tasks that the application runs. -/
inductive Completion.Expected : TaskCompletion → Prop where
  | synced {result : ResyncResult} {context : Option Plan} :
      Expected ⟨Resync.taskKind, .ok (.resync result), context⟩
  | unsynced {error : Error} {context : Option Plan} :
      Expected ⟨Resync.taskKind, .error error, context⟩
  | acted {outcome : Except Error TaskValue} {action : Action} {records : List Notification} :
      (∀ record ∈ records, Width.fits64 record.id = true) →
        Expected ⟨Plan.taskKind, outcome, some (Plan.make action records)⟩

namespace App

/-- What holds between any two steps of the application. -/
structure Steady (app : App) : Prop where
  working : ∃ store, app.session.file = .intact store ∧ store.Sound
  clock : app.session.now.Usable
  expected : ∀ completion ∈ app.session.completions, completion.Expected
  idle : app.session.phase = .idle
  seen : app.seenPhase = .idle
  loading : app.screen.loading = false
  syncing : app.screen.syncing = false
  proper : app.screen.Proper
  fits : ∀ record ∈ app.screen.notifications, Width.fits64 record.id = true

/-- The screen shows what the store holds, or will do so once the news that wait
are dealt with. -/
def Current (app : App) : Prop :=
  app.Mirrors ∨ ∃ completion ∈ app.session.completions, completion.BringsNews

variable {app : App}

/-! ## Commands -/

/-- Reading the store again shows what it holds. -/
theorem Steady.reload (steady : app.Steady) :
    ∃ after, reload.run app = (.ok (), after) ∧ after.Steady ∧ after.Mirrors ∧
      after.session = app.session := by
  obtain ⟨store, intact, sound⟩ := steady.working
  obtain ⟨view, named⟩ := steady.proper.view
  refine ⟨_, run_reload intact sound named steady.proper.usable, ?_,
    mirrors_of_refreshed intact sound named rfl, rfl⟩
  exact {
    working := ⟨store, intact, sound⟩
    clock := steady.clock
    expected := steady.expected
    idle := steady.idle
    seen := steady.seen
    loading := steady.loading
    syncing := steady.syncing
    proper := ⟨⟨view, named⟩, steady.proper.usable⟩
    fits := fun _ member => sound.fits_of_mem_shown member }

/-- The screen mirrors the store as long as neither rows nor what is shown
change. -/
theorem Mirrors.of_rows {after : App} {store changed : Store} (mirrors : app.Mirrors)
    (intact : app.session.file = .intact store) (sound : store.Sound)
    (file : after.session.file = .intact changed) (kept : changed.Sound)
    (rows : changed.notifications = store.notifications) (screen : after.screen = app.screen)
    (proper : app.screen.Proper) : after.Mirrors := by
  obtain ⟨view, named⟩ := proper.view
  obtain ⟨notifications, counts, totals⟩ := (mirrors_iff intact sound named).1 mirrors
  apply (mirrors_iff file kept (screen ▸ named)).2
  rw [screen, Store.shown, rows]
  exact ⟨notifications, counts, totals⟩

/-- After an action the screen shows what the store holds. -/
theorem Steady.act (setup : Setup) (steady : app.Steady) (action : Action)
    {records : List Notification} (filled : ∃ record, record ∈ records)
    (fits : ∀ record ∈ records, Width.fits64 record.id = true) :
    ∃ after, ([.patchStore (Plan.make action records).changes, .reload,
        .callRemote (Plan.make action records)].forM (execute setup)).run app = (.ok (), after) ∧
      after.Steady ∧ after.Mirrors ∧
        ∀ completion ∈ app.session.completions, completion ∈ after.session.completions := by
  obtain ⟨store, intact, sound⟩ := steady.working
  obtain ⟨text, stored⟩ := steady.clock.stored
  obtain ⟨view, named⟩ := steady.proper.view
  obtain ⟨record, member⟩ := filled
  have full := Plan.isEmpty_make action member
  have run := run_act setup intact sound stored named steady.proper.usable
    (Plan.writable_changes fits) full
  obtain ⟨outcome, session, sent, same⟩ := Plan.run_submit setup full { app.session with
    file := .intact (store.assigned text (Plan.make action records).changes) }
  rw [acted, sent] at run
  have written := sound.assigned stored (Plan.make action records).changes
  have file := Session.file_of_offline same
  have completions := Session.completions_of_offline same
  refine ⟨_, run, ?_, mirrors_of_refreshed file written named rfl, ?_⟩
  · exact {
      working := ⟨_, file, written⟩
      clock := by
        change session.now.Usable
        rw [Session.now_of_offline same]
        exact steady.clock
      expected := by
        change ∀ completion ∈ session.completions, completion.Expected
        intro completion posted
        rw [completions] at posted
        rcases List.mem_append.1 posted with old | new
        · exact steady.expected completion old
        · rw [List.mem_singleton.1 new]
          exact .acted fits
      idle := (Session.phase_of_offline same).trans steady.idle
      seen := steady.seen
      loading := steady.loading
      syncing := steady.syncing
      proper := ⟨⟨view, named⟩, steady.proper.usable⟩
      fits := fun _ member => written.fits_of_mem_shown member }
  · intro completion old
    change completion ∈ session.completions
    rw [completions]
    exact List.mem_append_left _ old

/-- A synchronisation in the background either keeps the rows or brings news. -/
theorem Steady.synchronise (setup : Setup) (steady : app.Steady) (trigger : Bool) :
    ∃ session, (Resync.start (Resync.resync setup trigger)).run app.session = (.ok (), session) ∧
      Steady { app with session := session } ∧
        (app.Mirrors → Current { app with session := session }) ∧
          ∀ completion ∈ app.session.completions, completion ∈ session.completions := by
  obtain ⟨store, intact, sound⟩ := steady.working
  obtain ⟨changed, file, kept, unchanged⟩ := Resync.resync_sound setup trigger intact sound
  obtain ⟨idle, beside⟩ := Resync.resync_idle setup trigger app.session
  rcases run : (Resync.resync setup trigger).run app.session with ⟨outcome, session⟩
  rw [run] at file unchanged idle beside
  obtain ⟨now, completions⟩ := Prod.mk.inj beside
  refine ⟨_, Resync.run_start _ _, ?_, ?_, ?_⟩
  · rw [run]
    exact { steady with
      working := ⟨changed, file, kept⟩
      clock := by
        rw [now]
        exact steady.clock
      expected := by
        intro completion posted
        rw [completions] at posted
        rcases List.mem_append.1 posted with old | new
        · exact steady.expected completion old
        · rw [List.mem_singleton.1 new]
          cases outcome with
          | ok result => exact .synced
          | error error => exact .unsynced
      idle := idle }
  · intro mirrors
    rw [run]
    cases outcome with
    | ok result =>
        apply Or.inr
        exact ⟨_, List.mem_append_right _ (List.mem_singleton_self _), rfl, result, rfl⟩
    | error error =>
        exact .inl (mirrors.of_rows intact sound file kept (unchanged error rfl) rfl steady.proper)
  · intro completion old
    rw [run]
    apply List.mem_append_left
    rw [completions]
    exact old

/-! ## Answers -/

/-- Commands of an answer to the user are carried out, and those that read the
store show what it holds. -/
theorem Steady.carryOut (setup : Setup) (steady : app.Steady) {screen : Screen}
    {commands : List Command} (asks : screen.Asks commands)
    (fits : ∀ record ∈ screen.notifications, Width.fits64 record.id = true) :
    ∃ after, (commands.forM (execute setup)).run app = (.ok (), after) ∧ after.Steady ∧
      (app.Mirrors → after.Current) ∧ (commands = [.reload] → after.Mirrors) ∧
        ∀ completion ∈ app.session.completions, completion ∈ after.session.completions := by
  induction asks generalizing app with
  | nothing => exact ⟨app, rfl, steady, .inl, by simp, fun _ => id⟩
  | read =>
      obtain ⟨after, run, kept, mirrors, same⟩ := steady.reload
      refine ⟨after, ?_, kept, fun _ => .inl mirrors, fun _ => mirrors, fun _ => same ▸ id⟩
      exact Work.run_forM_cons_ok run []
  | @act action records filled known =>
      have numbers : ∀ record ∈ records, Width.fits64 record.id = true :=
        fun record member => fits record (known record member)
      obtain ⟨after, run, kept, mirrors, waiting⟩ := steady.act setup action filled numbers
      exact ⟨after, run, kept, fun _ => .inl mirrors, by simp, waiting⟩
  | @sync trigger =>
      obtain ⟨session, run, kept, current, waiting⟩ := steady.synchronise setup trigger
      have first : (execute setup (.startSync trigger)).run app =
          (.ok (), { app with session := session }) := by
        simp only [execute, run_useSession, run]
      exact ⟨_, Work.run_forM_cons_ok first [], kept, current, by simp, waiting⟩
  | @visit url commands asks ih =>
      have opened : Steady { app with opened := app.opened ++ [url] } := { steady with }
      obtain ⟨after, run, kept, current, mirrors, waiting⟩ := ih opened
      have first : (execute setup (.openUrl url)).run app =
          (.ok (), { app with opened := app.opened ++ [url] }) := rfl
      refine ⟨after, ?_, kept, fun before => current (before.of_same rfl rfl), by simp, waiting⟩
      rw [Work.run_forM_cons_ok first, run]

theorem Steady.answered (steady : app.Steady) {event : Event} (user : event.FromUser) :
    Steady { app with screen := (app.screen.handle event).1 } := by
  have polite := Screen.polite_handle steady.proper user
  exact {
    steady with
    loading := polite.loading.trans steady.loading
    syncing := polite.syncing.trans steady.syncing
    proper := polite.proper
    fits := by
      change ∀ record ∈ (app.screen.handle event).1.notifications, _
      rw [polite.notifications]
      exact steady.fits }

/-- An event from the user is dealt with, and the screen stays current. -/
theorem Steady.dispatch (setup : Setup) (steady : app.Steady) {event : Event}
    (user : event.FromUser) :
    ∃ after, (dispatch setup event).run app = (.ok (), after) ∧ after.Steady ∧
      (app.Current → after.Current) := by
  have polite := Screen.polite_handle steady.proper user
  obtain ⟨after, run, kept, current, shown, waiting⟩ :=
    (steady.answered user).carryOut setup polite.asks steady.fits
  refine ⟨after, by rw [run_dispatch steady.proper.usable, run], kept, ?_⟩
  rintro (mirrors | ⟨completion, posted, news⟩)
  · rcases polite.view with same | read
    · apply current
      constructor
      · change (Store.loadNamed (app.screen.handle event).1.view).run _ = _
        rw [same, polite.notifications]
        exact mirrors.notifications
      · rw [polite.counts]
        exact mirrors.counts
      · rw [polite.totals]
        exact mirrors.totals
    · exact .inl (shown read)
  · exact .inr ⟨completion, waiting completion posted, news⟩

/-! ## Outcomes -/

/-- An answer that asks for the store to be read shows what it holds. -/
theorem Steady.dispatch_read (setup : Setup) (steady : app.Steady) {event : Event} {screen : Screen}
    (answered : app.screen.handle event = (screen, [.reload]))
    (calm : Steady { app with screen := screen }) :
    ∃ after, (App.dispatch setup event).run app = (.ok (), after) ∧ after.Steady ∧
      after.Mirrors ∧ after.session = app.session := by
  obtain ⟨after, read, kept, mirrors, same⟩ := calm.reload
  refine ⟨after, ?_, kept, mirrors, same⟩
  rw [run_dispatch steady.proper.usable, answered]
  exact Work.run_forM_cons_ok read []

/-- The outcome of a synchronisation is shown. -/
theorem Steady.completeSync (setup : Setup) (steady : app.Steady) {outcome : Except Error TaskValue}
    (context : Option Plan)
    (known : ∀ value, outcome = .ok value → ∃ result, value = .resync result) :
    ∃ after, (App.completeSync setup ⟨Resync.taskKind, outcome, context⟩).run app =
      (.ok (), after) ∧ after.Steady ∧ after.session.completions = app.session.completions ∧
        (app.Mirrors ∨ (∃ value, outcome = .ok value) → after.Mirrors) := by
  have caught : Steady { app with seenPhase := app.session.phase } := {
    steady with
    seen := steady.idle }
  cases outcome with
  | ok value =>
      obtain ⟨result, rfl⟩ := known value rfl
      have shown : app.screen.handle (.syncFinished result.pinned result.totals) =
          ((app.screen.syncFinished result.pinned result.totals).1, [.reload]) := rfl
      have calm : Steady { app with
          seenPhase := app.session.phase
          screen := (app.screen.syncFinished result.pinned result.totals).1 } := {
        caught with
        loading := rfl
        syncing := rfl
        proper := ⟨steady.proper.view, steady.proper.usable⟩ }
      obtain ⟨after, run, kept, mirrors, same⟩ :=
        caught.dispatch_read setup shown calm
      exact ⟨after, run, kept, congrArg Session.completions same, fun _ => mirrors⟩
  | error error =>
      have calm : Steady { app with
          seenPhase := app.session.phase
          screen := (app.screen.handle (.syncFailed error.message)).1 } := {
        caught with
        loading := rfl
        syncing := rfl
        proper := ⟨steady.proper.view, steady.proper.usable⟩ }
      refine ⟨_, run_dispatch caught.proper.usable (.syncFailed error.message), calm, rfl, ?_⟩
      rintro (mirrors | ⟨value, impossible⟩)
      · exact ⟨mirrors.notifications, mirrors.counts, mirrors.totals⟩
      · cases impossible

/-- The outcome of an action leaves the screen as it is, or the action is undone
and the store is shown. -/
theorem Steady.completeAction (setup : Setup) (steady : app.Steady)
    {outcome : Except Error TaskValue} {action : Action} {records : List Notification}
    (fits : ∀ record ∈ records, Width.fits64 record.id = true) :
    ∃ after, (App.completeAction setup
        ⟨Plan.taskKind, outcome, some (Plan.make action records)⟩).run app = (.ok (), after) ∧
      after.Steady ∧ after.session.completions = app.session.completions ∧
        (app.Mirrors → after.Mirrors) := by
  cases outcome with
  | ok value => exact ⟨app, run_completeAction_of_ok setup rfl app, steady, rfl, id⟩
  | error error =>
      obtain ⟨store, intact, sound⟩ := steady.working
      obtain ⟨text, stored⟩ := steady.clock.stored
      have writable : Assignment.Writable (Plan.make action records).previous :=
        Plan.writable_previous fits
      have run :=
        run_completeAction_of_error setup app writable intact stored steady.proper.usable error
      have undone : Steady { app with
          session := { app.session with
            file := .intact (store.assigned text (Plan.make action records).previous) }
          rollbacks := app.rollbacks + 1
          screen := { app.screen with
            error := some (action.name ++ " failed: " ++ error.message) } } := {
        steady with
        working := ⟨_, rfl, sound.assigned stored _⟩
        proper := ⟨steady.proper.view, steady.proper.usable⟩ }
      obtain ⟨after, read, kept, mirrors, same⟩ := undone.reload
      exact ⟨after, run.trans read, kept, by rw [same], fun _ => mirrors⟩

/-- Dealing with an outcome keeps the screen current, and news are shown. -/
theorem Steady.complete (setup : Setup) (steady : app.Steady) {completion : TaskCompletion}
    (expected : completion.Expected) :
    ∃ after, (App.complete setup completion).run app = (.ok (), after) ∧ after.Steady ∧
      after.session.completions = app.session.completions ∧
        (app.Mirrors ∨ completion.BringsNews → after.Mirrors) := by
  cases expected with
  | @synced result context =>
      have known : ∀ value, .ok (.resync result) = (.ok value : Except Error TaskValue) →
          ∃ result, value = .resync result :=
        fun value same => ⟨result, (Except.ok.inj same).symm⟩
      obtain ⟨after, run, kept, waiting, mirrors⟩ := steady.completeSync setup context known
      exact ⟨after, run, kept, waiting, fun _ => mirrors (.inr ⟨_, rfl⟩)⟩
  | @unsynced error context =>
      have known : ∀ value, .error error = (.ok value : Except Error TaskValue) →
          ∃ result, value = .resync result := by
        rintro value ⟨⟩
      obtain ⟨after, run, kept, waiting, mirrors⟩ := steady.completeSync setup context known
      refine ⟨after, run, kept, waiting, ?_⟩
      rintro (before | ⟨_, result, impossible⟩)
      · exact mirrors (.inl before)
      · cases impossible
  | acted fits =>
      obtain ⟨after, run, kept, waiting, mirrors⟩ := steady.completeAction setup fits
      refine ⟨after, run, kept, waiting, ?_⟩
      rintro (before | ⟨impossible, _⟩)
      · exact mirrors before
      · have apart : Plan.taskKind ≠ Resync.taskKind := by decide
        exact absurd impossible apart

/-- After all outcomes are dealt with the screen shows what the store holds, if it
did so before or any of them brings news. -/
theorem Steady.completeAll (setup : Setup) (steady : app.Steady) {completions : List TaskCompletion}
    (expected : ∀ completion ∈ completions, completion.Expected) :
    ∃ after, (completions.forM (App.complete setup)).run app = (.ok (), after) ∧ after.Steady ∧
      after.session.completions = app.session.completions ∧
        (app.Mirrors ∨ (∃ completion ∈ completions, completion.BringsNews) → after.Mirrors) := by
  induction completions generalizing app with
  | nil => exact ⟨app, rfl, steady, rfl, by simp⟩
  | cons completion rest ih =>
      obtain ⟨between, first, kept, waiting, shown⟩ :=
        steady.complete setup (expected completion List.mem_cons_self)
      obtain ⟨after, later, done, still, mirrors⟩ :=
        ih kept fun other member => expected other (List.mem_cons_of_mem _ member)
      refine ⟨after, (Work.run_forM_cons_ok first rest).trans later, done, still.trans waiting, ?_⟩
      rintro (before | ⟨other, member, news⟩)
      · exact mirrors (.inl (shown (.inl before)))
      · rcases List.mem_cons.1 member with rfl | inside
        · exact mirrors (.inl (shown (.inr news)))
        · exact mirrors (.inr ⟨other, inside, news⟩)

end App

end Triage
