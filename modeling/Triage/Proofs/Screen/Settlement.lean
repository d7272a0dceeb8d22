import Triage.Proofs.Screen.Account

/-!
# Settling background work

Every synchronisation and every action that was submitted has one outcome.  The
outcomes are dealt with in the order of submission, each in one pump, and a failed
action is undone there.  The message on the screen is that of the latest event or
outcome that sets one.
-/

namespace Triage

namespace App

variable {setup : Setup} {app between before after : App} {store : Store} {text : String}

/-! ## Outcomes -/

/-- What dealing with outcomes leaves in the store: failed actions are undone. -/
structure Settles (text : String) (store : Store) (completions : List TaskCompletion)
    (before after : App) : Prop extends
    Tallies completions (completions.filterMap Completion.notice?) before after where
  file : after.session.file =
    .intact (store.undone text (completions.filterMap Completion.failedPlan?))
  now : after.session.now = before.session.now

theorem Settles.trans {one two : List TaskCompletion}
    (first : Settles text store one before between)
    (second : Settles text (store.undone text (one.filterMap Completion.failedPlan?)) two
      between after) : Settles text store (one ++ two) before after where
  toTallies := by
    rw [List.filterMap_append]
    exact first.toTallies.trans second.toTallies
  file := by
    rw [second.file, List.filterMap_append, Store.undone, Store.undone, Store.undone,
      List.foldl_append]
  now := second.now.trans first.now

/-- An outcome is dealt with: only an action that failed is undone. -/
theorem Steady.settles (setup : Setup) (steady : app.Steady)
    (intact : app.session.file = .intact store) (stored : app.session.now.stored = .ok text)
    {completion : TaskCompletion} (expected : completion.Expected) :
    ∃ after, (App.complete setup completion).run app = (.ok (), after) ∧
      Settles text store [completion] app after := by
  obtain ⟨view, named⟩ := steady.proper.view
  have usable := steady.proper.usable
  have sound : store.Sound := by
    obtain ⟨same, found, sound⟩ := steady.working
    rw [intact] at found
    rwa [StoreFile.intact.inj found]
  have caught : Steady { app with seenPhase := app.session.phase } := {
    steady with
    seen := steady.idle }
  cases expected with
  | @synced result context =>
      have run := @run_dispatch setup _ caught.proper.usable
        (.syncFinished result.pinned result.totals)
      have read : App.reload.run { app with
          seenPhase := app.session.phase
          screen := (app.screen.syncFinished result.pinned result.totals).1 } = _ :=
        run_reload intact sound named usable
      exact ⟨_, run.trans (Work.run_forM_cons_ok read []), ⟨rfl, rfl⟩, intact, rfl⟩
  | @unsynced error context =>
      have run := @run_dispatch setup _ caught.proper.usable (.syncFailed error.message)
      exact ⟨_, run, ⟨rfl, rfl⟩, intact, rfl⟩
  | @acted outcome action records fits =>
      cases outcome with
      | ok value =>
          exact ⟨app, run_completeAction_of_ok setup rfl app, ⟨rfl, rfl⟩, intact, rfl⟩
      | error error =>
          have writable : Assignment.Writable (Plan.make action records).previous :=
            Plan.writable_previous fits
          have run := run_completeAction_of_error setup app writable intact stored usable error
          have undone := sound.assigned stored (Plan.make action records).previous
          exact ⟨_, run.trans (run_reload rfl undone named usable), ⟨rfl, rfl⟩, rfl, rfl⟩

/-- Outcomes are dealt with one after the other. -/
theorem Steady.settlesAll (setup : Setup) (steady : app.Steady)
    (intact : app.session.file = .intact store) (stored : app.session.now.stored = .ok text)
    {completions : List TaskCompletion}
    (expected : ∀ completion ∈ completions, completion.Expected) :
    ∃ after, (completions.forM (App.complete setup)).run app = (.ok (), after) ∧ after.Steady ∧
      after.session.completions = app.session.completions ∧
        Settles text store completions app after := by
  induction completions generalizing app store with
  | nil => exact ⟨app, rfl, steady, rfl, ⟨rfl, rfl⟩, intact, rfl⟩
  | cons completion rest ih =>
      have here := expected completion List.mem_cons_self
      obtain ⟨between, first, kept, waiting, _⟩ := steady.complete setup here
      obtain ⟨same, again, settles⟩ := steady.settles setup intact stored here
      obtain rfl : between = same := (Prod.mk.inj (first.symm.trans again)).2
      obtain ⟨after, later, done, still, others⟩ :=
        ih kept settles.file (settles.now ▸ stored)
          fun other member => expected other (List.mem_cons_of_mem _ member)
      exact ⟨after, (Work.run_forM_cons_ok first rest).trans later, done, still.trans waiting,
        settles.trans others⟩

/-- Looking for changes writes nothing and sets no message. -/
theorem Steady.aside_lookForChanges (steady : app.Steady) (usable : setup.probeInterval.Usable) :
    ∃ after, (App.lookForChanges setup).run app = (.ok (), after) ∧
      after.session.file = app.session.file ∧ after.rollbacks = app.rollbacks ∧
        after.screen.error = app.screen.error := by
  obtain ⟨store, intact, sound⟩ := steady.working
  obtain ⟨view, named⟩ := steady.proper.view
  obtain ⟨looked, run⟩ := run_lookForChanges usable intact
  rcases run with nothing | again
  · exact ⟨_, nothing, rfl, rfl, rfl⟩
  · have read := @run_reload { app with session := { app.session with lastProbe := looked } } _ _
      intact sound named steady.proper.usable
    exact ⟨_, again.trans read, rfl, rfl, rfl⟩

/-- A pump deals with every outcome that waits and writes back what failed. -/
theorem Steady.account_pump (steady : app.Steady) (intact : app.session.file = .intact store)
    (stored : app.session.now.stored = .ok text) (usable : setup.probeInterval.Usable)
    (current : app.Current) :
    ∃ after, (App.pump setup).run app = (.ok (), after) ∧
      Accounts [] app.session.completions
        (app.session.completions.filterMap Completion.notice?) app after ∧
      after.session.file = .intact
        (store.undone text (app.session.completions.filterMap Completion.failedPlan?)) := by
  obtain ⟨between, completed, kept, _, settles⟩ :=
    steady.emptied.settlesAll setup intact stored steady.expected
  obtain ⟨after, looked, file, rollbacks, error⟩ := kept.aside_lookForChanges usable
  obtain ⟨same, run, _, _, quiet⟩ := steady.pump usable current
  have pumped := run_pump completed
  rw [Work.run_bind_ok kept.run_followPhase, looked] at pumped
  obtain rfl : after = same := (Prod.mk.inj (pumped.symm.trans run)).2
  refine ⟨after, run, ?_, file.trans settles.file⟩
  exact {
    outcomes := ⟨[], rfl, by simp [quiet]⟩
    rollbacks := rollbacks.trans settles.rollbacks
    notice := error.trans settles.notice }

/-! ## Whole runs -/

/-- An input is dealt with, with the account of its moment. -/
theorem Steady.account_feed (steady : app.Steady) (usable : setup.probeInterval.Usable)
    (current : app.Current) {input : Input} (allowed : input.Allowed) :
    ∃ after, (App.feed setup input).run app = (.ok (), after) ∧ after.Steady ∧ after.Current ∧
      Accounts (Moment.tasks ⟨app, input⟩) (Moment.handled ⟨app, input⟩)
        (Moment.notices ⟨app, input⟩) app after ∧
      Moment.WritesOnce setup ⟨app, input⟩ := by
  obtain ⟨store, intact, _⟩ := steady.working
  obtain ⟨text, stored⟩ := steady.clock.stored
  obtain ⟨after, run, kept, still⟩ := steady.feed usable current allowed
  have ended : Moment.after setup ⟨app, input⟩ = after := congrArg Prod.snd run
  refine ⟨after, run, kept, still, ?_⟩
  simp only [Moment.WritesOnce, ended]
  cases input with
  | user event =>
      obtain ⟨same, again, account, file⟩ := steady.account_dispatch setup intact stored allowed
      obtain rfl : after = same := (Prod.mk.inj (run.symm.trans again)).2
      exact ⟨account, store, text, intact, stored, file⟩
  | pump =>
      obtain ⟨same, again, account, file⟩ := steady.account_pump intact stored usable current
      obtain rfl : after = same := (Prod.mk.inj (run.symm.trans again)).2
      exact ⟨account, store, text, intact, stored, file⟩
  | pass now seconds =>
      obtain rfl := (Prod.mk.inj run).2
      exact ⟨accounts_nothing rfl rfl rfl, store, text, intact, stored, intact⟩

/-- The account of a run is that of its moments. -/
theorem Steady.account_run (steady : app.Steady) (usable : setup.probeInterval.Usable)
    (current : app.Current) {inputs : List Input} (allowed : ∀ input ∈ inputs, input.Allowed) :
    ∃ last, (inputs.forM (App.feed setup)).run app = (.ok (), last) ∧
      Accounts ((moments setup app inputs).flatMap Moment.tasks)
        ((moments setup app inputs).flatMap Moment.handled)
        ((moments setup app inputs).flatMap Moment.notices) app last ∧
      ∀ moment ∈ moments setup app inputs, moment.WritesOnce setup := by
  induction inputs generalizing app with
  | nil => exact ⟨app, rfl, accounts_nothing rfl rfl rfl, by simp [moments]⟩
  | cons input rest ih =>
      obtain ⟨between, first, kept, still, account, once⟩ :=
        steady.account_feed usable current (allowed input List.mem_cons_self)
      have after : Moment.after setup ⟨app, input⟩ = between := congrArg Prod.snd first
      obtain ⟨last, later, others, writes⟩ :=
        ih kept still fun other member => allowed other (List.mem_cons_of_mem _ member)
      refine ⟨last, (Work.run_forM_cons_ok first rest).trans later, ?_, ?_⟩
      · rw [moments, after]
        exact account.trans others
      · rw [moments, after]
        intro moment member
        rcases List.mem_cons.1 member with rfl | inside
        · exact once
        · exact writes moment inside

theorem allowed_opening (setup : Setup) (app : App) :
    ∀ input ∈ opening setup app, input.Allowed := by
  intro input member
  rcases opening_cases setup app with nothing | resync
  · rw [nothing] at member
    exact absurd member List.not_mem_nil
  · rw [resync, List.mem_singleton] at member
    rw [member]
    trivial

/-- Showing the store first submits nothing and sets no message. -/
theorem Fresh.aside_reload (fresh : app.Fresh) {shown : App}
    (read : reload.run app = (.ok (), shown)) :
    shown.session = app.session ∧ shown.rollbacks = app.rollbacks ∧
      shown.screen.error = none := by
  obtain ⟨store, intact, sound⟩ := fresh.working
  have named : app.screen.view = View.inbox.name := by
    rw [fresh.screen]
    rfl
  rw [run_reload intact sound named fresh.steady.proper.usable, fresh.screen] at read
  obtain rfl := (Prod.mk.inj read).2
  exact ⟨rfl, rfl, rfl⟩

/-- A course is a run of the opening and the inputs. -/
theorem run_course {shown : App} (opened : (App.start setup).run app =
      ((opening setup shown).forM (feed setup)).run shown) (inputs : List Input) :
    (course setup inputs).run app =
      ((opening setup shown ++ inputs).forM (feed setup)).run shown := by
  have apart : (opening setup shown ++ inputs).forM (feed setup) =
      (opening setup shown).forM (feed setup) >>= fun _ => inputs.forM (feed setup) :=
    List.forM_append
  rw [apart, course, Work.run_bind, Work.run_bind, opened]

/-- A course in which nothing failed.  The outcomes dealt with, pump by pump, and
those that wait are those of the tasks in the order of submission; the store was
written as was due at each moment; the failed actions were counted, and the latest
message is shown. -/
structure Settled (setup : Setup) (app : App) (inputs : List Input) (last : App) : Prop where
  run : (course setup inputs).run app = (.ok (), last)
  outcomes :
    ((history setup app inputs).flatMap Moment.handled ++ last.session.completions).map
      Completion.task? = ((history setup app inputs).flatMap Moment.tasks).map some
  writes : ∀ moment ∈ history setup app inputs, moment.WritesOnce setup
  rollbacks : last.rollbacks = app.rollbacks +
    (((history setup app inputs).flatMap Moment.handled).filterMap Completion.failedPlan?).length
  notice : last.screen.error =
    ((history setup app inputs).flatMap Moment.notices).getLast?.getD none

/-- Whatever the user does and the service answers, work in the background is
settled. -/
theorem settled_once (fresh : app.Fresh) (usable : setup.probeInterval.Usable)
    (inputs : List Input) (allowed : ∀ input ∈ inputs, input.Allowed) :
    ∃ last, Settled setup app inputs last := by
  obtain ⟨shown, read, begun, mirrors, opened⟩ := fresh.run_start setup
  obtain ⟨session, counted, silent⟩ := fresh.aside_reload read
  have every : ∀ input ∈ opening setup shown ++ inputs, input.Allowed := by
    intro input member
    rcases List.mem_append.1 member with early | later
    · exact allowed_opening setup shown input early
    · exact allowed input later
  obtain ⟨last, run, account, writes⟩ := begun.account_run usable (.inl mirrors) every
  have same : moments setup shown (opening setup shown ++ inputs) = history setup app inputs := by
    rw [history, read]
  rw [same] at account writes
  obtain ⟨posted, tasks, outcomes⟩ := account.outcomes
  refine ⟨last, (run_course opened inputs).trans run, ?_, writes, ?_, ?_⟩
  · rw [← outcomes, session, fresh.quiet, List.nil_append, tasks]
  · rw [account.rollbacks, counted]
  · rw [account.notice, silent]

theorem settled_starCourse :
    refusedStart.Fresh ∧ Setup.sample.probeInterval.Usable ∧
      (∀ input ∈ starCourse, input.Allowed) ∧
        ∃ last, Settled .sample refusedStart starCourse last := by
  have allowed : ∀ input ∈ starCourse, input.Allowed := by
    simp [starCourse, Input.Allowed, Event.FromUser]
  exact ⟨fresh_refusedStart, Setup.usable_sample, allowed,
    settled_once fresh_refusedStart Setup.usable_sample starCourse allowed⟩

end App

end Triage
